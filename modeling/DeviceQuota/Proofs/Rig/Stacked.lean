import DeviceQuota.Proofs.Rig.Level
import Mathlib.Data.List.Nodup

/-!
# Allocations of one size

When all allocations have the same size, a rig is described by two numbers: how many allocations were
granted, and how many of them were released, the first ones first. Everything else follows: the
bytes in use, the peak, the addresses that are live, and whether another allocation fits.

* **`Rig.most`** — how many allocations a fresh rig grants, as `Rig.hasRoom_iff_lt_most` says;
* **`Rig.Stacked`** — the invariant;
* **`Rig.grantedStep`**, **`Rig.refusedStep`**, **`Rig.releasedStep`** — the steps that are recorded;
* **`Rig.Stacked.allocate_of_room`**, **`Rig.Stacked.allocate_of_full`**,
  **`Rig.Stacked.free_next`** — one call more.
-/

namespace DeviceQuota.Rig

variable {rig : Rig} {limit size : Bytes} {mode : AdmissionMode} {grants frees : Nat}

/-- The step of an allocation that is granted after `i` others. -/
def grantedStep (size : Bytes) (i : Nat) : Step :=
  ⟨.allocate, size, 0, Device.address i, Bytes.clamp ((i + 1) * size.toNat)⟩

/-- The step of an allocation that is refused while `grants` others are live. -/
def refusedStep (size : Bytes) (grants : Nat) : Step :=
  ⟨.allocate, size, 2, 0, Bytes.clamp (grants * size.toNat)⟩

/-- The step of the release of the allocation after `i` others, which leaves the later ones of
`grants` live. -/
def releasedStep (size : Bytes) (grants i : Nat) : Step :=
  ⟨.free, size, 0, Device.address i, Bytes.clamp ((grants - (i + 1)) * size.toNat)⟩

/-- No address is handed out twice. -/
theorem nodup_addresses (hfew : grants ≤ 2 ^ 43) :
    ((List.range grants).map Device.address).Nodup := by
  refine List.nodup_range.map_on fun i hi j hj hsame => ?_
  rw [List.mem_range] at hi hj
  exact Device.address_injOn (by omega) (by omega) hsame

/-- There is room for an allocation of `size` bytes besides `grants` others. -/
def HasRoom (limit size : Bytes) (grants : Nat) : Prop :=
  (grants + 1) * size.toNat ≤ limit.toNat ∧ grants < Settings.standardCapacity

/-- The number of allocations of `size` bytes that a fresh rig grants. -/
def most (limit size : Bytes) : Nat :=
  if size = 0 then Settings.standardCapacity
  else min Settings.standardCapacity (limit.toNat / size.toNat)

theorem most_le_standardCapacity : most limit size ≤ Settings.standardCapacity := by
  unfold most
  split
  · exact Nat.le_refl _
  · exact Nat.min_le_left _ _

theorem toNat_pos_of_ne_zero (h : size ≠ 0) : 0 < size.toNat :=
  Nat.pos_of_ne_zero fun hzero => h (UInt64.toNat_inj.1 hzero)

/-- There is room for another allocation exactly if `most` is not reached. -/
theorem hasRoom_iff_lt_most {i : Nat} : HasRoom limit size i ↔ i < most limit size := by
  unfold HasRoom most
  split
  · next hzero =>
    subst hzero
    simp
  · next hsize =>
    rw [← Nat.le_div_iff_mul_le (toNat_pos_of_ne_zero hsize), Nat.lt_min, Nat.succ_le_iff,
      and_comm]

/-- The rig has granted `grants` allocations of `size` bytes, and released the first `frees` of
them. -/
structure Stacked (limit size : Bytes) (grants frees : Nat) (rig : Rig) : Prop where
  level : rig.Level limit
  allocs_eq : rig.gate.ledger.allocs = grants
  frees_eq : rig.gate.ledger.frees = frees
  used_eq : rig.gate.ledger.used.toNat + frees * size.toNat = grants * size.toNat
  peak_eq : rig.gate.ledger.peak.toNat = grants * size.toNat
  /-- What was not released is live under its address. -/
  tracked : ∀ i, frees ≤ i → i < grants →
    rig.gate.ledger.tracked? (Device.address i) = some size

theorem stacked_new (limit size : Bytes) (mode : AdmissionMode) :
    (new limit mode).Stacked limit size 0 0 where
  level := level_new limit mode
  allocs_eq := rfl
  frees_eq := rfl
  used_eq := by simp [new, Gate.new, Ledger.new]
  peak_eq := by simp [new, Gate.new, Ledger.new]
  tracked := fun i _ hlt => absurd hlt (Nat.not_lt_zero i)

namespace Stacked

theorem used_eq_clamp (h : rig.Stacked limit size grants frees) :
    rig.gate.ledger.used = Bytes.clamp ((grants - frees) * size.toNat) := by
  have hused := h.used_eq
  rw [Nat.sub_mul, ← hused, Nat.add_sub_cancel, Bytes.clamp_toNat]

theorem refused (h : rig.Stacked limit size grants frees) :
    rig.refused.Stacked limit size grants frees :=
  ⟨h.level.after_refusal, h.allocs_eq, h.frees_eq, h.used_eq, h.peak_eq, h.tracked⟩

/-! ### Another allocation -/

/-- Room in the ledger, told by the number of allocations. -/
theorem hasRoom_iff (h : rig.Stacked limit size grants 0) :
    (rig.gate.ledger.used.toNat + size.toNat ≤ limit.toNat ∧
      rig.gate.ledger.table.size < Settings.standardCapacity) ↔ HasRoom limit size grants := by
  have hused := h.used_eq
  have hsize := h.level.size_eq
  rw [h.frees_eq, h.allocs_eq] at hsize
  rw [HasRoom, Nat.succ_mul]
  have hsum : rig.gate.ledger.used.toNat = grants * size.toNat := by omega
  have htracked : rig.gate.ledger.table.size = grants := hsize
  rw [hsum, htracked]

theorem few_of_hasRoom (h : rig.Stacked limit size grants frees)
    (hroom : HasRoom limit size grants) : rig.gate.ledger.allocs < 2 ^ 42 := by
  have hslot := hroom.2
  have hcapacity : Settings.standardCapacity = 65536 := rfl
  rw [h.allocs_eq]
  omega

theorem granted (h : rig.Stacked limit size grants 0) (hroom : HasRoom limit size grants) :
    (rig.granted size).Stacked limit size (grants + 1) 0 := by
  obtain ⟨hbytes, -⟩ := h.hasRoom_iff.2 hroom
  have hfew := h.few_of_hasRoom hroom
  have hafter := h.level.after_grant hfew hbytes
  have hsum : (rig.granted size).gate.ledger.used.toNat
      = rig.gate.ledger.used.toNat + size.toNat := Level.toNat_used_granted hbytes
  have hused := h.used_eq
  have hnext : rig.device.next = Device.address grants :=
    h.level.numbered.next_eq.trans (congrArg Device.address h.allocs_eq)
  have hpeak : (rig.granted size).gate.ledger.peak.toNat
      = max rig.gate.ledger.peak.toNat (rig.granted size).gate.ledger.used.toNat := by
    rw [peak_granted, Bytes.toNat_larger, used_granted]
    split <;> omega
  refine ⟨hafter, ?_, h.frees_eq, ?_, ?_, ?_⟩
  · rw [allocs_granted, h.allocs_eq]
  · rw [hsum, Nat.succ_mul]
    omega
  · have hbefore := h.peak_eq
    rw [hpeak, hsum, Nat.succ_mul]
    omega
  · intro i hle hlt
    by_cases hlast : i = grants
    · rw [hlast, ← hnext]
      exact tracked?_granted_self rig size
    · have hother : Device.address i ≠ rig.device.next := by
        rw [hnext]
        rw [h.allocs_eq] at hfew
        exact Device.address_ne (by omega) (by omega)
      rw [tracked?_granted_of_ne rig size hother]
      exact h.tracked i hle (by omega)

/-- **Another allocation for which there is room.** -/
theorem allocate_of_room (h : rig.Stacked limit size grants 0)
    (hroom : HasRoom limit size grants) :
    rig.allocate size = .ok (grantedStep size grants, rig.granted size) := by
  obtain ⟨hbytes, hslot⟩ := h.hasRoom_iff.2 hroom
  have hafter : (rig.granted size).gate.ledger.used = Bytes.clamp ((grants + 1) * size.toNat) :=
    (h.granted hroom).used_eq_clamp
  rw [used_granted] at hafter
  rw [h.level.allocate_of_fits (h.few_of_hasRoom hroom) hbytes hslot, h.allocs_eq, hafter]
  rfl

/-- **Another allocation for which there is no room.** -/
theorem allocate_of_full (h : rig.Stacked limit size grants 0)
    (hfull : ¬HasRoom limit size grants) :
    rig.allocate size = .ok (refusedStep size grants, rig.refused) := by
  rw [h.level.allocate_of_not_fits (mt h.hasRoom_iff.1 hfull), h.used_eq_clamp]
  rfl

/-- **Any number of allocations** is made to the end: none breaks off. -/
theorem exists_allocateMany (h : rig.Stacked limit size grants 0) (count : Nat) :
    ∃ steps last, allocateMany size count rig = .ok (steps, last) := by
  induction count generalizing rig grants with
  | zero => exact ⟨[], rig, rfl⟩
  | succ count ih =>
    by_cases hroom : HasRoom limit size grants
    · obtain ⟨steps, last, hrest⟩ := ih (h.granted hroom)
      exact ⟨_, last, allocateMany_of_ok (h.allocate_of_room hroom) hrest⟩
    · obtain ⟨steps, last, hrest⟩ := ih h.refused
      exact ⟨_, last, allocateMany_of_ok (h.allocate_of_full hroom) hrest⟩

/-! ### The next release -/

/-- The rig after the release of the oldest allocation. -/
theorem freed (h : rig.Stacked limit size grants frees) (hlt : frees < grants)
    (hfew : grants < 2 ^ 42) :
    (rig.freed (Device.address frees) size).Stacked limit size grants (frees + 1) := by
  have hfound := h.tracked frees (Nat.le_refl _) hlt
  have hafter := h.level.after_free hfound
  have hpart : size.toNat ≤ rig.gate.ledger.used.toNat := by
    have hused := h.used_eq
    have hmore : (frees + 1) * size.toNat ≤ grants * size.toNat := Nat.mul_le_mul_right _ hlt
    rw [Nat.succ_mul] at hmore
    omega
  refine ⟨hafter, h.allocs_eq, ?_, ?_, h.peak_eq, ?_⟩
  · rw [frees_freed, h.frees_eq]
  · have hused := h.used_eq
    rw [used_freed, Bytes.toNat_minus, Nat.succ_mul]
    omega
  · intro i hle hless
    have hother : Device.address i ≠ Device.address frees :=
      (Device.address_ne (by omega) (by omega)).symm
    rw [tracked?_freed_of_ne rig size hother]
    exact h.tracked i (by omega) hless

/-- **The release of the oldest allocation.** -/
theorem free_next (h : rig.Stacked limit size grants frees) (hlt : frees < grants)
    (hfew : grants < 2 ^ 42) :
    rig.free (Device.address frees)
      = (releasedStep size grants frees, rig.freed (Device.address frees) size) := by
  have hfound := h.tracked frees (Nat.le_refl _) hlt
  have hafter := (h.freed hlt hfew).used_eq_clamp
  rw [used_freed] at hafter
  rw [h.level.free_of_live (Device.address_ne_zero (by omega)) hfound, hafter]
  rfl

end Stacked

end DeviceQuota.Rig
