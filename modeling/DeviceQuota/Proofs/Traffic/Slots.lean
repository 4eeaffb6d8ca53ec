import DeviceQuota.Proofs.Traffic.Move

/-!
# Slots

A request that passes is promised a slot of the table, and the settling of the same allocation fills
the slot or gives it back. Other allocations hold slots of their own in between, and releases take
entries out. The number of promised slots is lowered by a difference that stops at zero, which would
hide a slot that was counted twice; it never has to stop, since each allocation in flight holds
exactly one slot.

* **`Traffic.Slotted`** — the invariant: one promised slot for each allocation in flight, and no more
  slots in use than there are;
* **`Traffic.Slotted.of_move`** — one phase keeps it;
* **`Traffic.RecordsGrants`** — whatever is in flight can be recorded once it is granted;
* **`Traffic.slots_kept`** — both along every history.
-/

namespace DeviceQuota

/-! ### Slots of a table -/

namespace Table

theorem occupied_fill_le {t : Table} (h : Handle) (n : Bytes) (hpromised : 0 < t.reserved) :
    (t.fill h n).2.occupied ≤ t.occupied := by
  have hsize : (t.fill h n).2.size ≤ t.size + 1 := by
    show (t.live.insert h n).size ≤ t.live.size + 1
    rw [HandleMap.size_insert]
    split <;> omega
  have hreserved := t.reserved_fill h n
  unfold occupied
  omega

theorem occupied_take_le (t : Table) (h : Handle) : (t.take h).2.occupied ≤ t.occupied := by
  have hsize : (t.take h).2.size ≤ t.size := by
    show (t.live.erase h).size ≤ t.live.size
    exact List.length_filter_le _ _
  show (t.take h).2.size + t.reserved ≤ t.size + t.reserved
  omega

end Table

namespace Traffic

/-- Each allocation in flight holds one slot of the table. -/
structure Slotted (capacity : Option Nat) (t : Traffic) : Prop where
  /-- The capacity is that of the beginning. -/
  capacity_eq : t.gate.ledger.table.capacity = capacity
  reserved_eq : t.gate.ledger.table.reserved = t.flights.length
  occupied_le : ∀ slots, capacity = some slots → t.gate.ledger.table.occupied ≤ slots

variable {t u : Traffic} {phase : Phase} {events : List Event} {capacity : Option Nat}

theorem slotted_new (settings : Settings) : (new settings).Slotted settings.capacity :=
  ⟨rfl, rfl, fun _ _ => Nat.zero_le _⟩

/-- **One phase** keeps one slot for each allocation in flight. -/
theorem Slotted.of_move (hinv : t.Slotted capacity) (h : t.Move phase u events) :
    u.Slotted capacity := by
  cases h with
  | admitted hfree hpass =>
    obtain ⟨l, hrequest, rfl⟩ := Gate.request_eq_ok_iff.1 hpass
    obtain ⟨-, table, hslot, rfl⟩ := Ledger.request_eq_ok_iff.1 hrequest
    obtain ⟨hroom, rfl⟩ := Table.reserve?_eq_ok_iff.1 hslot
    refine ⟨hinv.capacity_eq, ?_, ?_⟩
    · show t.gate.ledger.table.reserved + 1 = (t.flights ++ [_]).length
      rw [List.length_append, hinv.reserved_eq, List.length_singleton]
    · intro slots hslots
      have hleft := hroom slots (hinv.capacity_eq.trans hslots)
      show t.gate.ledger.table.size + (t.gate.ledger.table.reserved + 1) ≤ slots
      unfold Table.occupied at hleft
      omega
  | refused => exact ⟨hinv.capacity_eq, hinv.reserved_eq, hinv.occupied_le⟩
  | @charged place flight real hflight hgranted =>
    -- The allocation is one of those in flight, so a slot is there to be filled.
    obtain ⟨hplace, -⟩ := List.getElem?_eq_some_iff.1 hflight
    have hlength := List.length_eraseIdx_add_one hplace
    have hreserved := hinv.reserved_eq
    refine ⟨hinv.capacity_eq, ?_, ?_⟩
    · show t.gate.ledger.table.reserved - 1 = (t.flights.eraseIdx place).length
      omega
    · intro slots hslots
      have hfill := Table.occupied_fill_le real.handle flight.size
        (show 0 < t.gate.ledger.table.reserved by omega)
      exact Nat.le_trans hfill (hinv.occupied_le slots hslots)
  | @cancelled place flight real hflight hgranted =>
    obtain ⟨hplace, -⟩ := List.getElem?_eq_some_iff.1 hflight
    have hlength := List.length_eraseIdx_add_one hplace
    have hreserved := hinv.reserved_eq
    refine ⟨hinv.capacity_eq, ?_, ?_⟩
    · show t.gate.ledger.table.reserved - 1 = (t.flights.eraseIdx place).length
      omega
    · intro slots hslots
      have hbefore := hinv.occupied_le slots hslots
      show t.gate.ledger.table.size + (t.gate.ledger.table.reserved - 1) ≤ slots
      unfold Table.occupied at hbefore
      omega
  | @discharged site handle size hfree hne hfound =>
    refine ⟨hinv.capacity_eq, hinv.reserved_eq, ?_⟩
    intro slots hslots
    exact Nat.le_trans (Table.occupied_take_le _ handle) (hinv.occupied_le slots hslots)
  | untouched => exact hinv

/-! ### Grants are recorded -/

/-- Whatever the runtime grants to an allocation in flight is recorded when the allocation is
settled: under its handle there is then the size that was asked for, and the entries of other
handles are what they were. -/
def RecordsGrants (t : Traffic) : Prop :=
  ∀ (place : Nat) (real : Outcome), ∀ flight ∈ t.flights[place]?,
    real.granted flight.site.vendor = true →
      ∃ u events, t.step? (.settle place real) = some (u, events) ∧
        u.gate.ledger.tracked? real.handle = some flight.size ∧
        ∀ other, other ≠ real.handle →
          u.gate.ledger.tracked? other = t.gate.ledger.tracked? other

theorem recordsGrants (t : Traffic) : t.RecordsGrants := by
  intro place real flight hflight hgranted
  have hplace : t.flights[place]? = some flight := hflight
  have hcharged : (t.gate.ledger.settle flight.site flight.size real).1
      = t.gate.ledger.charge real.handle flight.size :=
    Ledger.fst_settle_of_granted _ _ hgranted
  have hstep : t.step? (.settle place real) = some
      (⟨t.gate.withLedger (t.gate.ledger.settle flight.site flight.size real).1,
        t.flights.eraseIdx place⟩, (t.gate.ledger.settle flight.site flight.size real).2) := by
    simp only [step?, hplace]
  refine ⟨_, _, hstep, ?_, ?_⟩
  · rw [Gate.ledger_withLedger, hcharged]
    exact HandleMap.find?_insert_self _ _ _
  · intro other hne
    rw [Gate.ledger_withLedger, hcharged]
    exact HandleMap.find?_insert_of_ne _ _ hne

/-! ### Every history -/

/-- **No slot leaks, and every grant is recorded.** Between any two phases of any history the table
has promised one slot to each allocation in flight, none while nothing is in flight; live entries and
promised slots are within the capacity, if there is one; and each allocation in flight, if the
runtime grants it, is recorded under its handle with its size, and touches no other handle. -/
theorem slots_kept (settings : Settings) (phases : List Phase) :
    History.Always step?
      (fun t =>
        t.gate.ledger.table.reserved = t.flights.length ∧
          (t.flights = [] → t.gate.ledger.table.reserved = 0) ∧
          (∀ slots, settings.capacity = some slots →
            t.gate.ledger.table.size + t.gate.ledger.table.reserved ≤ slots) ∧
          t.RecordsGrants)
      phases (new settings) := by
  have hkept : ∀ t : Traffic, t.Slotted settings.capacity →
      t.gate.ledger.table.reserved = t.flights.length ∧
        (t.flights = [] → t.gate.ledger.table.reserved = 0) ∧
        (∀ slots, settings.capacity = some slots →
          t.gate.ledger.table.size + t.gate.ledger.table.reserved ≤ slots) ∧
        t.RecordsGrants := by
    intro t hinv
    refine ⟨hinv.reserved_eq, ?_, hinv.occupied_le, t.recordsGrants⟩
    intro hnone
    rw [hinv.reserved_eq, hnone, List.length_nil]
  refine ⟨hkept _ (slotted_new settings), ?_⟩
  refine History.along_of_invariant (I := Slotted settings.capacity) ?_ phases (new settings)
    (slotted_new settings) (History.along_true _ _)
  intro t phase u events hstep hinv _
  have hafter := hinv.of_move (move_of_step? hstep)
  exact ⟨hafter, hkept u hafter⟩

end Traffic

end DeviceQuota
