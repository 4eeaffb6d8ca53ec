import DeviceQuota.Proofs.Rig.Level

/-!
# Refused, released, granted

Two allocations, of 500 and of 600 parts of 1024 of a quota, exceed it together, except for quotas so
small that rounding down takes more from them than they are over: with 27 bytes or more the second
is always refused, and granted once the first is released. Whatever the quota, the rig stays level.

* **`Rig.exists_runQuotaCycle`** — every quota;
* **`Rig.lt_add_fractions`** — why the second allocation does not fit;
* **`Rig.runQuotaCycle_of_le`** — the six calls, one after the other;
* **`Rig.quota_cycle_denies_then_retries`** — the report.
-/

namespace DeviceQuota.Rig

open Scenario (fractionOf runQuotaCycle)

variable {limit first second : Bytes} {mode : AdmissionMode}

/-- **The rig stays level**, whatever is refused on the way, and nothing breaks off. -/
theorem exists_runQuotaCycle (limit : Bytes) (mode : AdmissionMode) :
    ∃ steps last, runQuotaCycle (new limit mode) = .ok (steps, last) ∧ last.Level limit := by
  have hstart := level_new limit mode
  have hnone : (new limit mode).gate.ledger.allocs = 0 := rfl
  generalize new limit mode = rig at hstart hnone ⊢
  obtain ⟨held, rig₁, hheld, hlevel₁, hone⟩ :=
    hstart.exists_allocate (by omega) (fractionOf rig.gate.limit 500)
  obtain ⟨second, rig₂, hsecond, hlevel₂, htwo⟩ :=
    hlevel₁.exists_allocate (by omega) (fractionOf rig.gate.limit 600)
  obtain ⟨hreleased, hsame⟩ := hlevel₂.after_release (by omega) held.handle
  by_cases hgranted : held.status = 0
  · obtain ⟨again, last, hagain, hlast, -⟩ :=
      hreleased.exists_allocate (by omega) (fractionOf rig.gate.limit 600)
    simp only [runQuotaCycle, hheld, hsecond, ok_bind, memInfo_eq, if_pos hgranted, freeMany, hagain]
    exact ⟨_, last, rfl, hlast⟩
  · obtain ⟨again, last, hagain, hlast, -⟩ :=
      hlevel₂.exists_allocate (by omega) (fractionOf rig.gate.limit 600)
    simp only [runQuotaCycle, hheld, hsecond, ok_bind, memInfo_eq, if_neg hgranted, hagain]
    exact ⟨_, last, rfl, hlast⟩

/-! ### The two fractions -/

/-- A part of the quota is no larger than the quota, so that it fits into a word. -/
theorem toNat_fractionOf (limit : Bytes) {numerator : Nat} (h : numerator ≤ 1024) :
    (fractionOf limit numerator).toNat = limit.toNat * numerator / 1024 := by
  have hword : limit.toNat < UInt64.size := limit.toNat_lt
  have hpart : limit.toNat * numerator ≤ limit.toNat * 1024 := Nat.mul_le_mul_left _ h
  exact Bytes.toNat_clamp_of_lt (by omega)

/-- Together the two exceed the quota by 76 parts of 1024; rounding down takes less than two bytes
off. -/
theorem lt_add_fractions (hlarge : 27 ≤ limit.toNat) :
    limit.toNat < (fractionOf limit 500).toNat + (fractionOf limit 600).toNat := by
  rw [toNat_fractionOf limit (by omega), toNat_fractionOf limit (by omega)]
  omega

theorem fractions_le (limit : Bytes) :
    (fractionOf limit 500).toNat ≤ (fractionOf limit 600).toNat ∧
      (fractionOf limit 600).toNat ≤ limit.toNat := by
  rw [toNat_fractionOf limit (by omega), toNat_fractionOf limit (by omega)]
  omega

/-! ### The six calls -/

/-- An allocation with nothing in use. -/
theorem Level.allocate_alone {rig : Rig} {size : Bytes} (h : rig.Level limit)
    (hused : rig.gate.ledger.used = 0) (hfew : rig.gate.ledger.allocs ≤ 1)
    (hle : size.toNat ≤ limit.toNat) :
    rig.allocate size
        = .ok (⟨.allocate, size, 0, Device.address rig.gate.ledger.allocs, size⟩,
          rig.granted size) ∧
      (rig.granted size).Level limit ∧ (rig.granted size).gate.ledger.used = size := by
  have hbytes : rig.gate.ledger.used.toNat + size.toNat ≤ limit.toNat := by
    rw [hused, UInt64.toNat_zero]
    omega
  have hslot : rig.gate.ledger.table.size < Settings.standardCapacity := by
    have hsize := h.size_le_allocs
    have hcapacity : Settings.standardCapacity = 65536 := rfl
    omega
  have hcall := h.allocate_of_fits (by omega) hbytes hslot
  rw [hused, Bytes.zero_plus] at hcall
  exact ⟨hcall, h.after_grant (by omega) hbytes, by simp [hused]⟩

/-- **Six calls.** The second allocation is refused, the first one is released, and the second is
granted the next address. -/
theorem runQuotaCycle_of_le (hlarge : 27 ≤ limit.toNat) (mode : AdmissionMode)
    (hfirst : fractionOf limit 500 = first) (hsecond : fractionOf limit 600 = second) :
    ∃ last, runQuotaCycle (new limit mode) =
        .ok ([⟨.allocate, first, 0, Device.address 0, first⟩,
          ⟨.allocate, second, 2, 0, first⟩,
          ⟨.memInfo, limit.minus first, 0, 0, first⟩,
          ⟨.free, first, 0, Device.address 0, 0⟩,
          ⟨.allocate, second, 0, Device.address 1, second⟩,
          ⟨.memInfo, limit.minus second, 0, 0, second⟩], last) ∧
      last.gate.ledger.allocs = 2 ∧ last.gate.ledger.frees = 1 ∧ last.gate.ledger.failed = 1 ∧
      last.gate.ledger.peak = second := by
  obtain ⟨hle, hwithin⟩ := fractions_le limit
  have hover := lt_add_fractions hlarge
  rw [hfirst, hsecond] at hle hover
  rw [hsecond] at hwithin
  -- Nothing is in use, and the first allocation is granted.
  have hempty := level_new limit mode
  have hnone : (new limit mode).gate.ledger.used = 0 ∧ (new limit mode).gate.ledger.peak = 0 ∧
      (new limit mode).gate.ledger.allocs = 0 ∧ (new limit mode).gate.ledger.frees = 0 ∧
      (new limit mode).gate.ledger.failed = 0 := ⟨rfl, rfl, rfl, rfl, rfl⟩
  generalize new limit mode = empty at hempty hnone ⊢
  obtain ⟨hunused, hpeak, hallocs, hfrees, hfailed⟩ := hnone
  have hfits : first.toNat ≤ limit.toNat := Nat.le_trans hle hwithin
  obtain ⟨hgrant, hheld, hused⟩ := hempty.allocate_alone hunused (by omega) hfits
  rw [hallocs] at hgrant
  -- The first allocation is held, and the second one is refused.
  have hrefusal : (empty.granted first).allocate second = _ :=
    hheld.allocate_of_not_fits fun hroom => by
      rw [hused] at hroom
      omega
  rw [hused] at hrefusal
  have hfound : (empty.granted first).refused.gate.ledger.tracked? (Device.address 0)
      = some first := by
    have hnext : empty.device.next = Device.address 0 := hallocs ▸ hempty.numbered.next_eq
    rw [← hnext]
    exact tracked?_granted_self empty first
  have hrelease := hheld.after_refusal.free_of_live (Device.address_ne_zero (by decide)) hfound
  rw [ledger_refused, hused, Bytes.minus_self] at hrelease
  -- The first allocation is released, and the second one is granted.
  have hafter := hheld.after_refusal.after_free hfound
  generalize hreleased : (empty.granted first).refused.freed (Device.address 0) first = released
    at hrelease hafter
  have hfree : released.gate.ledger.used = 0 := by simp [← hreleased, hunused]
  have hone : released.gate.ledger.allocs = 1 := by simp [← hreleased, hallocs]
  obtain ⟨hagain, -, -⟩ := hafter.allocate_alone hfree (by omega) hwithin
  rw [hone] at hagain
  refine ⟨released.granted second, ?_, ?_, ?_, ?_, ?_⟩
  · simp [runQuotaCycle, hempty.limit_eq, hafter.limit_eq, hfirst, hsecond, hgrant, hrefusal,
      memInfo_eq, freeMany, hrelease, hagain, hunused, hfree]
  · simp [hone]
  · simp [← hreleased, hfrees]
  · simp [← hreleased, hfailed]
  · have hraised : (0 : Bytes).larger first = first := Bytes.larger_of_le (Nat.zero_le _)
    simp [← hreleased, hpeak, hunused, hraised, Bytes.larger_of_le hle]

/-! ### The report -/

/-- **Refused, then granted.** Whatever the quota and the mode, the report is conserved, the device was
never beyond the quota, and the peak is within it. From 27 bytes on there are six steps: the smaller
allocation, the refusal of the greater one, a query, the release, the greater allocation, and a query.
-/
theorem quota_cycle_denies_then_retries (params : Scenario.Params) :
    let limit := params.limit
    let first := Bytes.clamp (500 * limit.toNat / 1024)
    let second := Bytes.clamp (600 * limit.toNat / 1024)
    ∃ report, Scenario.run .quotaCycle params = .ok report ∧
      report.conserved = true ∧ report.limitExceeded = false ∧
      report.snapshot.peak.toNat ≤ limit.toNat ∧
      (27 ≤ limit.toNat →
        first.toNat = 500 * limit.toNat / 1024 ∧ second.toNat = 600 * limit.toNat / 1024 ∧
        report.steps =
          [⟨.allocate, first, 0, Device.address 0, first⟩,
            ⟨.allocate, second, 2, 0, first⟩,
            ⟨.memInfo, limit.minus first, 0, 0, first⟩,
            ⟨.free, first, 0, Device.address 0, 0⟩,
            ⟨.allocate, second, 0, Device.address 1, second⟩,
            ⟨.memInfo, limit.minus second, 0, 0, second⟩] ∧
        report.snapshot.allocs = 2 ∧ report.snapshot.frees = 1 ∧ report.snapshot.failed = 1 ∧
        report.snapshot.peak = second) := by
  intro limit first second
  have hfirst : fractionOf limit 500 = first := by
    rw [fractionOf, Nat.mul_comm]
  have hsecond : fractionOf limit 600 = second := by
    rw [fractionOf, Nat.mul_comm]
  obtain ⟨steps, last, hsteps, hlevel⟩ := exists_runQuotaCycle params.limit params.mode
  obtain ⟨hconserved, hwithin, -, hpeak⟩ := hlevel.finish_spec .quotaCycle steps
  refine ⟨Scenario.finish .quotaCycle steps last, ?_, hconserved, hwithin, hpeak, ?_⟩
  · simp only [Scenario.run, hsteps]
  intro hlarge
  obtain ⟨last, hrun, hallocs, hfrees, hfailed, hgreatest⟩ :=
    runQuotaCycle_of_le hlarge params.mode hfirst hsecond
  obtain ⟨rfl, rfl⟩ := Prod.mk.inj (Except.ok.inj (hsteps.symm.trans hrun))
  refine ⟨?_, ?_, ?_⟩
  · rw [← hfirst, toNat_fractionOf limit (by omega), Nat.mul_comm]
  · rw [← hsecond, toNat_fractionOf limit (by omega), Nat.mul_comm]
  · exact ⟨rfl, hallocs, hfrees, hfailed, hgreatest⟩

end DeviceQuota.Rig
