import DeviceQuota.Scenario
import DeviceQuota.Proofs.Device.Capacity
import DeviceQuota.Proofs.Traffic.Admission

/-!
# A gate and its device stay level

The device behind the gate of a rig is as large as a word can count, so that the quota is what
decides. Each call changes both records alike: what is granted enters both under the same address,
what is released leaves both, and what is refused never reaches the device. So the two agree after
every call, and the device never holds more than the quota.

* **`Rig.granted`**, **`Rig.refused`**, **`Rig.freed`** — the rig after a call;
* **`Rig.Level`** — the invariant; **`Rig.Level.allocate_of_fits`** and its companions say exactly
  what a call does, and **`Rig.Level.exists_allocate`** and its companions that it keeps the invariant;
* **`Rig.Level.finish_spec`** — what a report says of a level rig.
-/

namespace DeviceQuota.Rig

variable {rig : Rig} {limit size n : Bytes} {handle : Handle}

/-! ### What a call leaves behind -/

/-- The rig after an allocation that the device granted. -/
def granted (rig : Rig) (size : Bytes) : Rig where
  gate := rig.gate.withLedger
    { rig.gate.ledger with
      used := rig.gate.ledger.used.plus size
      peak := rig.gate.ledger.peak.larger (rig.gate.ledger.used.plus size)
      allocs := rig.gate.ledger.allocs + 1
      table := { rig.gate.ledger.table with
        live := rig.gate.ledger.table.live.insert rig.device.next size } }
  device := rig.device.granted size

/-- The rig after an allocation that the gate refused. -/
def refused (rig : Rig) : Rig := ⟨rig.gate.refuse, rig.device⟩

/-- The rig after the release of a live address. -/
def freed (rig : Rig) (handle : Handle) (size : Bytes) : Rig where
  gate := rig.gate.withLedger (rig.gate.ledger.discharge handle size)
  device := rig.device.freed handle size

/-! Each figure after each call. -/

@[simp] theorem limit_granted (rig : Rig) (size : Bytes) :
    (rig.granted size).gate.limit = rig.gate.limit := rfl

@[simp] theorem used_granted (rig : Rig) (size : Bytes) :
    (rig.granted size).gate.ledger.used = rig.gate.ledger.used.plus size := rfl

@[simp] theorem peak_granted (rig : Rig) (size : Bytes) :
    (rig.granted size).gate.ledger.peak
      = rig.gate.ledger.peak.larger (rig.gate.ledger.used.plus size) := rfl

@[simp] theorem allocs_granted (rig : Rig) (size : Bytes) :
    (rig.granted size).gate.ledger.allocs = rig.gate.ledger.allocs + 1 := rfl

@[simp] theorem frees_granted (rig : Rig) (size : Bytes) :
    (rig.granted size).gate.ledger.frees = rig.gate.ledger.frees := rfl

@[simp] theorem failed_granted (rig : Rig) (size : Bytes) :
    (rig.granted size).gate.ledger.failed = rig.gate.ledger.failed := rfl

@[simp] theorem tracked?_granted_self (rig : Rig) (size : Bytes) :
    (rig.granted size).gate.ledger.tracked? rig.device.next = some size :=
  HandleMap.find?_insert_self _ _ _

theorem tracked?_granted_of_ne (rig : Rig) (size : Bytes) (hne : handle ≠ rig.device.next) :
    (rig.granted size).gate.ledger.tracked? handle = rig.gate.ledger.tracked? handle :=
  HandleMap.find?_insert_of_ne _ _ hne

@[simp] theorem limit_refused (rig : Rig) : rig.refused.gate.limit = rig.gate.limit := rfl

@[simp] theorem ledger_refused (rig : Rig) :
    rig.refused.gate.ledger
      = { rig.gate.ledger with failed := rig.gate.ledger.failed + 1 } := rfl

@[simp] theorem used_freed (rig : Rig) (handle : Handle) (size : Bytes) :
    (rig.freed handle size).gate.ledger.used = rig.gate.ledger.used.minus size := rfl

@[simp] theorem peak_freed (rig : Rig) (handle : Handle) (size : Bytes) :
    (rig.freed handle size).gate.ledger.peak = rig.gate.ledger.peak := rfl

@[simp] theorem allocs_freed (rig : Rig) (handle : Handle) (size : Bytes) :
    (rig.freed handle size).gate.ledger.allocs = rig.gate.ledger.allocs := rfl

@[simp] theorem frees_freed (rig : Rig) (handle : Handle) (size : Bytes) :
    (rig.freed handle size).gate.ledger.frees = rig.gate.ledger.frees + 1 := rfl

@[simp] theorem failed_freed (rig : Rig) (handle : Handle) (size : Bytes) :
    (rig.freed handle size).gate.ledger.failed = rig.gate.ledger.failed := rfl

theorem tracked?_freed_of_ne (rig : Rig) (size : Bytes) {other : Handle} (hne : other ≠ handle) :
    (rig.freed handle size).gate.ledger.tracked? other = rig.gate.ledger.tracked? other :=
  HandleMap.find?_erase_of_ne _ hne

/-! What a call answers. -/

/-- The device grants an allocation that the gate lets through. -/
theorem allocate_of_granted
    (hfits : rig.gate.ledger.Fits rig.gate.limit size)
    (hdevice : rig.device.outstanding.toNat + size.toNat ≤ rig.device.capacity.toNat)
    (hfree : rig.gate.ledger.tracked? rig.device.next = none) (hne : rig.device.next ≠ 0) :
    rig.allocate size
      = .ok (⟨.allocate, size, 0, rig.device.next, rig.gate.ledger.used.plus size⟩,
        rig.granted size) := by
  obtain ⟨admitted, hpass⟩ := Gate.exists_request_iff.2 hfits
  obtain ⟨l, hrequest, rfl⟩ := Gate.request_eq_ok_iff.1 hpass
  obtain ⟨-, table, hslot, rfl⟩ := Ledger.request_eq_ok_iff.1 hrequest
  obtain ⟨-, rfl⟩ := Table.reserve?_eq_ok_iff.1 hslot
  have hgranted : Outcome.granted mallocSite.vendor ⟨Device.success, rig.device.next⟩ = true :=
    Outcome.granted_success mallocSite.vendor hne
  have hfresh : Ledger.tracked? { rig.gate.ledger with
      table := { rig.gate.ledger.table with
        reserved := rig.gate.ledger.table.reserved + 1 } } rig.device.next = none := hfree
  rw [allocate_of_passed hpass (Device.malloc_of_fits hdevice)]
  simp only [Ledger.fst_settle_of_granted _ _ hgranted, Gate.ledger_withLedger, hfresh,
    Ledger.charge]
  rfl

theorem allocate_of_refused (hfull : ¬rig.gate.ledger.Fits rig.gate.limit size) :
    rig.allocate size = .ok (⟨.allocate, size, 2, 0, rig.gate.ledger.used⟩, rig.refused) := by
  obtain ⟨why, hdenied⟩ := Gate.exists_denial hfull
  exact allocate_of_denied hdenied

theorem free_of_tracked (hne : handle ≠ 0) (hfound : rig.gate.ledger.tracked? handle = some n)
    (hlive : rig.device.live.find? handle = some n) :
    rig.free handle
      = (⟨.free, n, 0, handle, rig.gate.ledger.used.minus n⟩, rig.freed handle n) := by
  have hreleased := Ledger.fst_release_of_tracked freeSite hne hfound
  simp only [free, Device.free_of_find?_eq_some hlive, Gate.release, hreleased, hfound]
  rfl

/-- The release of an address that nobody knows changes nothing. -/
theorem free_of_untracked (habsent : rig.gate.ledger.tracked? handle = none)
    (hunknown : rig.device.live.find? handle = none) :
    rig.free handle = (⟨.free, 0, 1, handle, rig.gate.ledger.used⟩, rig) := by
  have hreleased := Ledger.fst_release_of_untracked freeSite habsent
  simp only [free, Device.free_of_find?_eq_none hunknown, Gate.release, hreleased, habsent]
  rfl

theorem memInfo_eq (rig : Rig) :
    rig.memInfo = (⟨.memInfo, rig.gate.limit.minus rig.gate.ledger.used, 0, 0,
      rig.gate.ledger.used⟩, rig) := rfl

/-! ### The invariant -/

/-- Gate and device hold the same, within the quota. -/
structure Level (limit : Bytes) (rig : Rig) : Prop where
  limit_eq : rig.gate.limit = limit
  capacity_eq : rig.gate.ledger.table.capacity = some Settings.standardCapacity
  /-- No allocation is under way. -/
  reserved_eq : rig.gate.ledger.table.reserved = 0
  /-- The device could hold every byte that a word can count. -/
  sound : rig.device.Sound (Bytes.clamp Bytes.greatest)
  /-- The device has granted what the gate has charged. -/
  numbered : rig.device.Numbered rig.gate.ledger.allocs
  live_eq : rig.gate.ledger.table.live = rig.device.live
  used_eq : rig.gate.ledger.used = rig.device.outstanding
  peak_eq : rig.gate.ledger.peak = rig.device.highWater
  peak_le : rig.gate.ledger.peak.toNat ≤ limit.toNat
  /-- What was charged is live or was released. -/
  size_eq : rig.gate.ledger.table.size + rig.gate.ledger.frees = rig.gate.ledger.allocs

theorem level_new (limit : Bytes) (mode : AdmissionMode) : (new limit mode).Level limit where
  limit_eq := rfl
  capacity_eq := rfl
  reserved_eq := rfl
  sound := Device.sound_new _
  numbered := Device.numbered_new _
  live_eq := rfl
  used_eq := rfl
  peak_eq := rfl
  peak_le := Nat.zero_le _
  size_eq := rfl

namespace Level

theorem size_le_allocs (h : rig.Level limit) :
    rig.gate.ledger.table.size ≤ rig.gate.ledger.allocs := by
  have hsize := h.size_eq
  omega

theorem fits_iff (h : rig.Level limit) :
    rig.gate.ledger.Fits rig.gate.limit size ↔
      rig.gate.ledger.used.toNat + size.toNat ≤ limit.toNat ∧
        rig.gate.ledger.table.size < Settings.standardCapacity := by
  rw [Ledger.Fits, h.limit_eq, h.capacity_eq, Table.occupied, h.reserved_eq]
  simp

/-- The device has room for everything that fits into the quota. -/
theorem device_fits (h : rig.Level limit)
    (hbytes : rig.gate.ledger.used.toNat + size.toNat ≤ limit.toNat) :
    rig.device.outstanding.toNat + size.toNat ≤ rig.device.capacity.toNat := by
  have hgreatest : (Bytes.clamp Bytes.greatest).toNat = Bytes.greatest := by decide
  have hword : limit.toNat ≤ Bytes.greatest := Nat.le_pred_of_lt limit.toNat_lt
  rw [h.sound.capacity_eq, hgreatest, ← h.used_eq]
  omega

theorem next_ne_zero (h : rig.Level limit) (hfew : rig.gate.ledger.allocs < 2 ^ 42) :
    rig.device.next ≠ 0 := by
  rw [h.numbered.next_eq]
  exact Device.address_ne_zero hfew

theorem tracked?_next (h : rig.Level limit) (hfew : rig.gate.ledger.allocs < 2 ^ 42) :
    rig.gate.ledger.tracked? rig.device.next = none := by
  rw [Ledger.tracked?, Table.find?, h.live_eq]
  exact h.numbered.find?_next (by omega)

/-! ### What a call does -/

/-- **An allocation that fits** gets the next address of the device. -/
theorem allocate_of_fits (h : rig.Level limit) (hfew : rig.gate.ledger.allocs < 2 ^ 42)
    (hbytes : rig.gate.ledger.used.toNat + size.toNat ≤ limit.toNat)
    (hslot : rig.gate.ledger.table.size < Settings.standardCapacity) :
    rig.allocate size
      = .ok (⟨.allocate, size, 0, Device.address rig.gate.ledger.allocs,
        rig.gate.ledger.used.plus size⟩, rig.granted size) := by
  rw [← h.numbered.next_eq]
  exact allocate_of_granted (h.fits_iff.2 ⟨hbytes, hslot⟩) (h.device_fits hbytes)
    (h.tracked?_next hfew) (h.next_ne_zero hfew)

/-- **An allocation that does not fit** never reaches the device. -/
theorem allocate_of_not_fits (h : rig.Level limit)
    (hfull : ¬(rig.gate.ledger.used.toNat + size.toNat ≤ limit.toNat ∧
      rig.gate.ledger.table.size < Settings.standardCapacity)) :
    rig.allocate size = .ok (⟨.allocate, size, 2, 0, rig.gate.ledger.used⟩, rig.refused) :=
  allocate_of_refused (mt h.fits_iff.1 hfull)

/-- **The release of a live address.** -/
theorem free_of_live (h : rig.Level limit) (hne : handle ≠ 0)
    (hfound : rig.gate.ledger.tracked? handle = some n) :
    rig.free handle
      = (⟨.free, n, 0, handle, rig.gate.ledger.used.minus n⟩, rig.freed handle n) := by
  refine free_of_tracked hne hfound ?_
  rw [← h.live_eq]
  exact hfound

/-! ### What a call keeps -/

theorem toNat_used_granted (hbytes : rig.gate.ledger.used.toNat + size.toNat ≤ limit.toNat) :
    (rig.granted size).gate.ledger.used.toNat = rig.gate.ledger.used.toNat + size.toNat :=
  Bytes.toNat_plus_of_lt (Nat.lt_of_le_of_lt hbytes limit.toNat_lt)

theorem after_grant (h : rig.Level limit) (hfew : rig.gate.ledger.allocs < 2 ^ 42)
    (hbytes : rig.gate.ledger.used.toNat + size.toNat ≤ limit.toNat) :
    (rig.granted size).Level limit := by
  have hfree : rig.device.live.find? rig.device.next = none :=
    h.numbered.find?_next (by omega)
  have hsum := toNat_used_granted hbytes
  have hused : (rig.granted size).gate.ledger.used = (rig.granted size).device.outstanding := by
    refine UInt64.toNat_inj.1 ?_
    rw [hsum, h.used_eq]
    exact (Device.toNat_outstanding_granted (h.device_fits hbytes)).symm
  have hpeak : (rig.granted size).gate.ledger.peak
      = rig.gate.ledger.peak.larger (rig.granted size).gate.ledger.used := rfl
  refine
    { limit_eq := h.limit_eq
      capacity_eq := h.capacity_eq
      reserved_eq := h.reserved_eq
      sound := h.sound.after_grant hfree (h.device_fits hbytes)
      numbered := h.numbered.after_grant size
      live_eq := ?_
      used_eq := hused
      peak_eq := ?_
      peak_le := ?_
      size_eq := ?_ }
  · show rig.gate.ledger.table.live.insert rig.device.next size
      = rig.device.live.insert rig.device.next size
    rw [h.live_eq]
  · rw [hpeak, hused, h.peak_eq]
    rfl
  · have hbelow := h.peak_le
    rw [hpeak, Bytes.toNat_larger]
    split <;> omega
  · have hsize : (rig.granted size).gate.ledger.table.size
        = (rig.device.live.insert rig.device.next size).size := by
      rw [← h.live_eq]
      rfl
    have hgrown := rig.device.live.size_insert rig.device.next size
    rw [hfree] at hgrown
    have hbefore := h.size_eq
    rw [Table.size, h.live_eq] at hbefore
    rw [hsize, hgrown]
    show rig.device.live.size + 1 + rig.gate.ledger.frees = rig.gate.ledger.allocs + 1
    omega

theorem after_refusal (h : rig.Level limit) : rig.refused.Level limit :=
  ⟨h.limit_eq, h.capacity_eq, h.reserved_eq, h.sound, h.numbered, h.live_eq, h.used_eq, h.peak_eq,
    h.peak_le, h.size_eq⟩

theorem after_free (h : rig.Level limit) (hfound : rig.gate.ledger.tracked? handle = some n) :
    (rig.freed handle n).Level limit := by
  have hlive : rig.device.live.find? handle = some n := by
    rw [← h.live_eq]
    exact hfound
  have hheld := h.sound.toNat_outstanding_freed hlive
  have hused : (rig.freed handle n).gate.ledger.used = (rig.freed handle n).device.outstanding := by
    refine UInt64.toNat_inj.1 ?_
    show (rig.gate.ledger.used.minus n).toNat = (rig.device.freed handle n).outstanding.toNat
    rw [Bytes.toNat_minus, h.used_eq]
    omega
  refine
    { limit_eq := h.limit_eq
      capacity_eq := h.capacity_eq
      reserved_eq := h.reserved_eq
      sound := h.sound.after_free hlive
      numbered := h.numbered.after_free handle n
      live_eq := ?_
      used_eq := hused
      peak_eq := h.peak_eq
      peak_le := h.peak_le
      size_eq := ?_ }
  · show rig.gate.ledger.table.live.erase handle = rig.device.live.erase handle
    rw [h.live_eq]
  · have hsmaller : (rig.gate.ledger.table.live.erase handle).size + 1
        = rig.gate.ledger.table.live.size := HandleMap.size_erase hfound
    have hbefore : rig.gate.ledger.table.live.size + rig.gate.ledger.frees
        = rig.gate.ledger.allocs := h.size_eq
    show (rig.gate.ledger.table.live.erase handle).size + (rig.gate.ledger.frees + 1)
      = rig.gate.ledger.allocs
    omega

/-- **Any allocation** keeps a rig level, and does not break off. -/
theorem exists_allocate (h : rig.Level limit) (hfew : rig.gate.ledger.allocs < 2 ^ 42)
    (size : Bytes) :
    ∃ step after, rig.allocate size = .ok (step, after) ∧ after.Level limit ∧
      after.gate.ledger.allocs ≤ rig.gate.ledger.allocs + 1 := by
  by_cases hfits : rig.gate.ledger.used.toNat + size.toNat ≤ limit.toNat ∧
      rig.gate.ledger.table.size < Settings.standardCapacity
  · exact ⟨_, _, h.allocate_of_fits hfew hfits.1 hfits.2, h.after_grant hfew hfits.1,
      Nat.le_refl _⟩
  · exact ⟨_, _, h.allocate_of_not_fits hfits, h.after_refusal, Nat.le_succ _⟩

/-- A tracked handle is an address of the device, which never is the null address. -/
theorem ne_zero_of_tracked (h : rig.Level limit) (hfew : rig.gate.ledger.allocs < 2 ^ 42)
    (hfound : rig.gate.ledger.tracked? handle = some n) : handle ≠ 0 := by
  rw [Ledger.tracked?, Table.find?, h.live_eq] at hfound
  obtain ⟨i, hlt, rfl⟩ := h.numbered.exists_of_live handle n hfound
  exact Device.address_ne_zero (by omega)

/-- **Any release** keeps a rig level, also that of an address that is not live. -/
theorem after_release (h : rig.Level limit) (hfew : rig.gate.ledger.allocs < 2 ^ 42)
    (handle : Handle) :
    (rig.free handle).2.Level limit ∧
      (rig.free handle).2.gate.ledger.allocs = rig.gate.ledger.allocs := by
  cases hfound : rig.gate.ledger.tracked? handle with
  | some n =>
    rw [h.free_of_live (h.ne_zero_of_tracked hfew hfound) hfound]
    exact ⟨h.after_free hfound, rfl⟩
  | none =>
    have hunknown : rig.device.live.find? handle = none := by
      rw [← h.live_eq]
      exact hfound
    rw [free_of_untracked hfound hunknown]
    exact ⟨h, rfl⟩

/-- **What the report of a level rig says**: ledger and device agree, and the device was never beyond
the quota. -/
theorem finish_spec (h : rig.Level limit) (scenario : Scenario) (steps : List Step) :
    (Scenario.finish scenario steps rig).conserved = true ∧
      (Scenario.finish scenario steps rig).limitExceeded = false ∧
      (Scenario.finish scenario steps rig).highWater = rig.gate.ledger.peak ∧
      rig.gate.ledger.peak.toNat ≤ limit.toNat := by
  refine ⟨beq_iff_eq.2 h.used_eq, ?_, h.peak_eq.symm, h.peak_le⟩
  have hbelow := h.peak_le
  simp only [Scenario.finish, h.limit_eq, ← h.peak_eq, decide_eq_false_iff_not]
  omega

end Level

end DeviceQuota.Rig
