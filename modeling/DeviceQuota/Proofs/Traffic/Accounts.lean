import DeviceQuota.Proofs.Traffic.Move

/-!
# Every call is accounted for

An allocation that has begun is in flight until it is charged or ends without a charge, unless it was
refused at once; a charge puts an entry into the table, which a release takes out, unless a later
charge of the same handle takes its place. The counters of a ledger know nothing of allocations that
end without a charge and of entries that are replaced; with these two, every allocation and every
entry is counted exactly once.

* **`Phase.begins`**, **`Traffic.endsUncharged`**, **`Traffic.replaces`** — what is counted beside the
  counters of the ledger;
* **`Traffic.exits_of_move`**, **`Traffic.entries_of_move`** — one phase;
* **`Traffic.every_call_accounted`** — every history;
* **`Ledger.counted`**, **`Traffic.counted_le_length`** — why no counter leaves its word.
-/

namespace DeviceQuota

/-- All that a ledger counts one by one, promised slots included. -/
def Ledger.counted (l : Ledger) : Nat := l.allocs + l.frees + l.failed + l.table.reserved

/-- An allocation begins. -/
def Phase.begins : Phase → Bool
  | .request .. => true
  | .settle .. | .release .. => false

namespace Traffic

/-- An allocation ends without a charge: its real call failed, or granted the null handle. -/
def endsUncharged (t : Traffic) : Phase → Bool
  | .settle place real =>
    t.flights[place]?.any fun flight => !real.granted flight.site.vendor
  | .request .. | .release .. => false

/-- An allocation is charged under a handle that is still tracked. -/
def replaces (t : Traffic) : Phase → Bool
  | .settle place real =>
    t.flights[place]?.any fun flight =>
      real.granted flight.site.vendor && (t.gate.ledger.tracked? real.handle).isSome
  | .request .. | .release .. => false

variable {t u : Traffic} {phase : Phase} {events : List Event}

/-- **One phase lets an allocation in or out.** -/
theorem exits_of_move (h : t.Move phase u events) :
    u.gate.ledger.allocs + u.gate.ledger.failed + u.flights.length + (t.endsUncharged phase).toNat
      = t.gate.ledger.allocs + t.gate.ledger.failed + t.flights.length + phase.begins.toNat := by
  cases h with
  | admitted hfree hpass =>
    obtain ⟨l, hrequest, rfl⟩ := Gate.request_eq_ok_iff.1 hpass
    obtain ⟨-, table, -, rfl⟩ := Ledger.request_eq_ok_iff.1 hrequest
    show t.gate.ledger.allocs + t.gate.ledger.failed + (t.flights ++ [_]).length + 0 = _ + 1
    rw [List.length_append, List.length_singleton]
    omega
  | refused =>
    show t.gate.ledger.allocs + (t.gate.ledger.failed + 1) + t.flights.length + 0 = _ + 1
    omega
  | @charged place flight real hflight hgranted =>
    obtain ⟨hplace, -⟩ := List.getElem?_eq_some_iff.1 hflight
    have hlength := List.length_eraseIdx_add_one hplace
    have hcharged : t.endsUncharged (.settle place real) = false := by
      simp [endsUncharged, hflight, hgranted]
    rw [hcharged]
    show t.gate.ledger.allocs + 1 + t.gate.ledger.failed + (t.flights.eraseIdx place).length + 0
      = t.gate.ledger.allocs + t.gate.ledger.failed + t.flights.length + 0
    omega
  | @cancelled place flight real hflight hgranted =>
    obtain ⟨hplace, -⟩ := List.getElem?_eq_some_iff.1 hflight
    have hlength := List.length_eraseIdx_add_one hplace
    have huncharged : t.endsUncharged (.settle place real) = true := by
      simp [endsUncharged, hflight, hgranted]
    rw [huncharged]
    show t.gate.ledger.allocs + t.gate.ledger.failed + (t.flights.eraseIdx place).length + 1
      = t.gate.ledger.allocs + t.gate.ledger.failed + t.flights.length + 0
    omega
  | discharged | untouched => rfl

/-- **One phase lets an entry in or out.** -/
theorem entries_of_move (h : t.Move phase u events) :
    u.gate.ledger.allocs + (t.gate.ledger.table.size + t.gate.ledger.frees)
      = t.gate.ledger.allocs + (u.gate.ledger.table.size + u.gate.ledger.frees)
        + (t.replaces phase).toNat := by
  cases h with
  | admitted hfree hpass =>
    obtain ⟨l, hrequest, rfl⟩ := Gate.request_eq_ok_iff.1 hpass
    obtain ⟨-, table, hslot, rfl⟩ := Ledger.request_eq_ok_iff.1 hrequest
    obtain ⟨-, rfl⟩ := Table.reserve?_eq_ok_iff.1 hslot
    rfl
  | @charged place flight real hflight hgranted =>
    have hreplaces : t.replaces (.settle place real)
        = (t.gate.ledger.table.live.find? real.handle).isSome := by
      simp [replaces, hflight, hgranted, Ledger.tracked?, Table.find?]
    rw [hreplaces]
    show t.gate.ledger.allocs + 1 + (t.gate.ledger.table.live.size + t.gate.ledger.frees)
      = t.gate.ledger.allocs
        + ((t.gate.ledger.table.live.insert real.handle flight.size).size + t.gate.ledger.frees) + _
    -- The table grows by the new entry, unless that takes the place of one.
    rw [HandleMap.size_insert]
    cases t.gate.ledger.table.live.find? real.handle with
    | none =>
      show _ = t.gate.ledger.allocs + (t.gate.ledger.table.live.size + 1 + _) + 0
      omega
    | some stale =>
      show _ = t.gate.ledger.allocs + (t.gate.ledger.table.live.size + _) + 1
      omega
  | @cancelled place flight real hflight hgranted =>
    have hreplaces : t.replaces (.settle place real) = false := by
      simp [replaces, hflight, hgranted]
    rw [hreplaces]
    rfl
  | @discharged site handle size hfree hne hfound =>
    have hsize : (t.gate.ledger.table.live.erase handle).size + 1
        = t.gate.ledger.table.live.size := HandleMap.size_erase hfound
    show t.gate.ledger.allocs + (t.gate.ledger.table.live.size + t.gate.ledger.frees)
      = t.gate.ledger.allocs
        + ((t.gate.ledger.table.live.erase handle).size + (t.gate.ledger.frees + 1)) + 0
    omega
  | refused | untouched => rfl

/-- **One phase** raises one counter, or promises one slot, if it counts anything. -/
theorem counted_le_of_move (h : t.Move phase u events) :
    u.gate.ledger.counted ≤ t.gate.ledger.counted + 1 := by
  simp only [Ledger.counted]
  cases h with
  | admitted hfree hpass =>
    obtain ⟨l, hrequest, rfl⟩ := Gate.request_eq_ok_iff.1 hpass
    obtain ⟨-, table, hslot, rfl⟩ := Ledger.request_eq_ok_iff.1 hrequest
    obtain ⟨-, rfl⟩ := Table.reserve?_eq_ok_iff.1 hslot
    exact Nat.le_refl _
  | refused =>
    show t.gate.ledger.allocs + t.gate.ledger.frees + (t.gate.ledger.failed + 1)
      + t.gate.ledger.table.reserved ≤ _
    omega
  | charged =>
    show t.gate.ledger.allocs + 1 + t.gate.ledger.frees + t.gate.ledger.failed
      + (t.gate.ledger.table.reserved - 1) ≤ _
    omega
  | cancelled =>
    show t.gate.ledger.allocs + t.gate.ledger.frees + t.gate.ledger.failed
      + (t.gate.ledger.table.reserved - 1) ≤ _
    omega
  | discharged =>
    show t.gate.ledger.allocs + (t.gate.ledger.frees + 1) + t.gate.ledger.failed
      + t.gate.ledger.table.reserved ≤ _
    omega
  | untouched => exact Nat.le_succ _

/-- **No counter leaves its word** before there were 2^64 phases. -/
theorem counted_le_length {settings : Settings} {phases : List Phase}
    (h : run? phases (new settings) = some (t, events)) :
    t.gate.ledger.counted ≤ phases.length := by
  have hstart : (new settings).gate.ledger.counted = 0 := rfl
  have hcounted := History.le_add_length_of_run? (f := fun t => t.gate.ledger.counted)
    (fun _ _ _ _ hstep => counted_le_of_move (move_of_step? hstep)) h
  omega

/-- **Every call is accounted for exactly once.** After any history of overlapping calls, each
allocation that has begun is one of those that were charged, were refused, ended without a charge or
are still in flight; and each one that was charged still has its entry, was released, or had its entry
replaced. Where no handle is ever granted while it is tracked, the entries are what was charged and
not released. -/
theorem every_call_accounted (settings : Settings) (phases : List Phase) (t : Traffic)
    (events : List Event) (h : run? phases (new settings) = some (t, events)) :
    phases.countP Phase.begins
        = t.gate.ledger.allocs + t.gate.ledger.failed
          + History.count step? endsUncharged phases (new settings) + t.flights.length ∧
      t.gate.ledger.allocs
        = t.gate.ledger.table.size + t.gate.ledger.frees
          + History.count step? replaces phases (new settings) ∧
      (History.Along step? (fun t phase _ _ => t.replaces phase = false) phases (new settings) →
        t.gate.ledger.allocs = t.gate.ledger.table.size + t.gate.ledger.frees) := by
  have hexits := History.balance_of_run? (p := endsUncharged) (q := fun _ phase => phase.begins)
    (f := fun t => t.gate.ledger.allocs + t.gate.ledger.failed + t.flights.length) (g := fun _ => 0)
    (fun _ _ _ _ hstep => exits_of_move (move_of_step? hstep)) h
  have hentries := History.balance_of_run? (p := fun _ _ => false) (q := replaces)
    (f := fun t => t.gate.ledger.allocs)
    (g := fun t => t.gate.ledger.table.size + t.gate.ledger.frees)
    (fun _ _ _ _ hstep => entries_of_move (move_of_step? hstep)) h
  have hbegun := History.count_eq_countP (r := Phase.begins) h
  have hnothing : History.count step? (fun _ _ => false) phases (new settings) = 0 :=
    History.count_eq_zero_of_along ((History.along_true _ _).mono fun _ _ _ _ _ => rfl)
  rw [hbegun] at hexits
  have hcharged : t.gate.ledger.allocs
      = t.gate.ledger.table.size + t.gate.ledger.frees
        + History.count step? replaces phases (new settings) := by
    have hstart : (new settings).gate.ledger.table.size = 0 := rfl
    have hfresh : (new settings).gate.ledger.allocs = 0 ∧ (new settings).gate.ledger.frees = 0 :=
      ⟨rfl, rfl⟩
    omega
  refine ⟨?_, hcharged, ?_⟩
  · have hfresh : (new settings).gate.ledger.allocs + (new settings).gate.ledger.failed
        + (new settings).flights.length = 0 := rfl
    omega
  · intro hnever
    have hzero := History.count_eq_zero_of_along hnever
    omega

/-- Two allocations overlap and get the same handle, so that the second one replaces the entry of the
first; a third one is refused in between, a fourth one fails, and a fifth one is still in flight when
the handle is released. -/
def overlappingExits : List Phase :=
  [.request ⟨.cuda, "cudaMalloc"⟩ 40, .request ⟨.hip, "hipMalloc"⟩ 30, .settle 0 ⟨0, 16⟩,
    .request ⟨.acl, "aclrtMalloc"⟩ 70, .settle 0 ⟨0, 16⟩, .request ⟨.cuda, "cudaMalloc"⟩ 10,
    .settle 0 ⟨2, 0⟩, .request ⟨.hip, "hipMalloc"⟩ 5, .release ⟨.cuda, "cudaFree"⟩ 16]

theorem every_call_accounted_overlappingExits :
    ∃ t events,
      run? overlappingExits (new ⟨100, .warn, .optimistic, some 2⟩) = some (t, events) ∧
        5 = t.gate.ledger.allocs + t.gate.ledger.failed + 1 + t.flights.length ∧
        t.gate.ledger.allocs = t.gate.ledger.table.size + t.gate.ledger.frees + 1 := by
  have hends : (run? overlappingExits (new ⟨100, .warn, .optimistic, some 2⟩)).isSome = true := by
    decide
  obtain ⟨⟨t, events⟩, hrun⟩ := Option.isSome_iff_exists.1 hends
  obtain ⟨hexits, hentries, -⟩ := every_call_accounted _ _ t events hrun
  exact ⟨t, events, hrun, hexits, hentries⟩

end Traffic

end DeviceQuota
