import DeviceQuota.Proofs.Ledger.Charge
import DeviceQuota.Traffic
import Mathlib.Algebra.BigOperators.Group.List.Basic
import Mathlib.Algebra.GroupWithZero.Nat
import Mathlib.Data.List.Perm.Basic

/-!
# The moves of overlapping calls

A phase can change the traffic in six ways. Every invariant of overlapping calls is proved by going
through them.

* **`Event.isDenial`** and its companions — what an event tells of;
* **`Traffic.Move`** — the six ways, each with what is known when it happens;
* **`Traffic.move_of_step?`** — every step is one of these moves;
* **`Traffic.promised`** — the bytes of the allocations in flight. What is charged and what is
  promised stay below a bound together, as `used_add_promised_le_of_move` says: a settling only
  turns a promise into a charge.
-/

namespace DeviceQuota

namespace Event

/-- The event tells of a request that was denied. -/
def isDenial : Event → Bool
  | overQuota .. | noSlot .. => true
  | _ => false

/-- The event tells of a handle that was still tracked. -/
def isStale : Event → Bool
  | stale .. => true
  | _ => false

/-- The event tells of an allocation that was charged. -/
def isCharge : Event → Bool
  | charged .. => true
  | _ => false

/-- The event tells of a tracked handle that was released. -/
def isRelease : Event → Bool
  | released .. => true
  | _ => false

end Event

namespace Traffic

/-- What a phase does to the traffic, and what it logs: a request is admitted or refused; an
allocation that ends is charged or cancelled; a release discharges its handle or leaves everything
untouched. -/
inductive Move (t : Traffic) : Phase → Traffic → List Event → Prop where
  | admitted {site : CallSite} {size : Bytes} {gate : Gate} (hfree : t.locked = false)
      (hpass : t.gate.request size = .ok gate) :
      Move t (.request site size) ⟨gate, t.flights ++ [⟨site, size⟩]⟩ []
  | refused {site : CallSite} {size : Bytes} {why : Denial} (hfree : t.locked = false)
      (hdenied : t.gate.request size = .error why) :
      Move t (.request site size) ⟨t.gate.refuse, t.flights⟩ [.ofDenial site.function why]
  | charged {place : Nat} {flight : Flight} {real : Outcome}
      (hflight : t.flights[place]? = some flight)
      (hgranted : real.granted flight.site.vendor = true) :
      Move t (.settle place real)
        ⟨t.gate.withLedger (t.gate.ledger.charge real.handle flight.size),
          t.flights.eraseIdx place⟩
        (t.gate.ledger.settle flight.site flight.size real).2
  | cancelled {place : Nat} {flight : Flight} {real : Outcome}
      (hflight : t.flights[place]? = some flight)
      (hgranted : real.granted flight.site.vendor = false) :
      Move t (.settle place real)
        ⟨t.gate.withLedger t.gate.ledger.cancel, t.flights.eraseIdx place⟩
        [.uncharged flight.site.function real.status flight.size]
  | discharged {site : CallSite} {handle : Handle} {size : Bytes} (hfree : t.locked = false)
      (hne : handle ≠ 0) (hfound : t.gate.ledger.tracked? handle = some size) :
      Move t (.release site handle)
        ⟨t.gate.withLedger (t.gate.ledger.discharge handle size), t.flights⟩
        (t.gate.ledger.release site handle).2
  | untouched {site : CallSite} {handle : Handle} (hfree : t.locked = false)
      (habsent : handle = 0 ∨ t.gate.ledger.tracked? handle = none) :
      Move t (.release site handle) t (t.gate.ledger.release site handle).2

variable {t u : Traffic} {phase : Phase} {events : List Event}

theorem move_of_step? (h : t.step? phase = some (u, events)) : t.Move phase u events := by
  cases phase with
  | request site size =>
    simp only [step?] at h
    split at h
    · contradiction
    · next hlocked =>
      have hfree : t.locked = false := by simpa using hlocked
      split at h
      · next gate hpass =>
        obtain ⟨rfl, rfl⟩ := Prod.mk.inj (Option.some.inj h)
        exact .admitted hfree hpass
      · next why hdenied =>
        obtain ⟨rfl, rfl⟩ := Prod.mk.inj (Option.some.inj h)
        exact .refused hfree hdenied
  | settle place real =>
    simp only [step?] at h
    split at h
    · contradiction
    · next flight hflight =>
      obtain ⟨rfl, rfl⟩ := Prod.mk.inj (Option.some.inj h)
      cases hgranted : real.granted flight.site.vendor with
      | true =>
        rw [Ledger.fst_settle_of_granted _ _ hgranted]
        exact .charged hflight hgranted
      | false =>
        rw [Ledger.settle_of_not_granted _ _ hgranted]
        exact .cancelled hflight hgranted
  | release site handle =>
    simp only [step?] at h
    split at h
    · contradiction
    · next hlocked =>
      have hfree : t.locked = false := by simpa using hlocked
      obtain ⟨rfl, rfl⟩ := Prod.mk.inj (Option.some.inj h)
      by_cases hnull : handle = 0
      · subst hnull
        rw [Ledger.release_null]
        exact .untouched hfree (.inl rfl)
      · cases hfound : t.gate.ledger.tracked? handle with
        | some size =>
          rw [Ledger.fst_release_of_tracked site hnull hfound]
          exact .discharged hfree hnull hfound
        | none =>
          rw [Ledger.fst_release_of_untracked site hfound]
          exact .untouched hfree (.inr hfound)

/-! ### What no phase changes -/

theorem limit_of_move (h : t.Move phase u events) : u.gate.limit = t.gate.limit := by
  cases h with
  | admitted hfree hpass =>
    obtain ⟨l, _, rfl⟩ := Gate.request_eq_ok_iff.1 hpass
    rfl
  | refused | charged | cancelled | discharged | untouched => rfl

theorem mode_of_move (h : t.Move phase u events) : u.gate.mode = t.gate.mode := by
  cases h with
  | admitted hfree hpass =>
    obtain ⟨l, _, rfl⟩ := Gate.request_eq_ok_iff.1 hpass
    rfl
  | refused | charged | cancelled | discharged | untouched => rfl

/-! ### Allocations in flight -/

/-- The bytes of the allocations in flight. -/
def promised (t : Traffic) : Nat := (t.flights.map fun flight => flight.size.toNat).sum

/-- At most `n` allocations are in flight at any time of a history on a fresh gate. -/
def InFlightAtMost (n : Nat) (settings : Settings) (phases : List Phase) : Prop :=
  History.Always step? (fun t => t.flights.length ≤ n) phases (new settings)

instance (n : Nat) (settings : Settings) (phases : List Phase) :
    Decidable (InFlightAtMost n settings phases) :=
  inferInstanceAs (Decidable (History.Always ..))

/-- What stands at a place, and the others. -/
theorem perm_cons_eraseIdx {α : Type} {xs : List α} {place : Nat} {x : α}
    (h : xs[place]? = some x) : xs.Perm (x :: xs.eraseIdx place) := by
  obtain ⟨hlt, rfl⟩ := List.getElem?_eq_some_iff.1 h
  exact (List.getElem_cons_eraseIdx_perm hlt).symm

/-- An allocation in flight is part of what is promised. -/
theorem sum_eraseIdx_add {flights : List Flight} {place : Nat} {flight : Flight}
    (h : flights[place]? = some flight) :
    ((flights.eraseIdx place).map fun flight => flight.size.toNat).sum + flight.size.toNat =
      (flights.map fun flight => flight.size.toNat).sum := by
  have hsum := ((perm_cons_eraseIdx h).map fun flight => flight.size.toNat).sum_eq
  rw [List.map_cons, List.sum_cons] at hsum
  omega

/-- In strict mode an admission keeps everyone else away, so that one allocation at most is ever
in flight. -/
theorem length_flights_le_one_of_move (h : t.Move phase u events)
    (hstrict : t.gate.mode = .strict) (hone : t.flights.length ≤ 1) : u.flights.length ≤ 1 := by
  cases h with
  | admitted hfree hpass =>
    have hnone : t.flights = [] := by
      simpa [locked, hstrict, AdmissionMode.holdsLock] using hfree
    simp [hnone]
  | refused | discharged | untouched => exact hone
  | charged | cancelled =>
    exact Nat.le_trans (t.flights.length_eraseIdx_le _) hone

theorem inFlightAtMost_one_of_strict {settings : Settings} (hstrict : settings.mode = .strict)
    (phases : List Phase) : InFlightAtMost 1 settings phases := by
  refine ⟨Nat.zero_le 1, ?_⟩
  refine History.along_of_invariant
    (I := fun t => t.gate.mode = .strict ∧ t.flights.length ≤ 1) ?_ phases (new settings)
    ⟨hstrict, Nat.zero_le 1⟩ (History.along_true _ _)
  intro t phase u events hstep hinv _
  have hmove := move_of_step? hstep
  have hone := length_flights_le_one_of_move hmove hinv.1 hinv.2
  exact ⟨⟨(mode_of_move hmove).trans hinv.1, hone⟩, hone⟩

/-- **Charges and promises share one bound.** Only an admission adds to their sum, and it leaves
the charge and the new promise within the quota: the bound needs room for the quota and for what
was promised before. -/
theorem used_add_promised_le_of_move {bound : Nat} (h : t.Move phase u events)
    (hroom : u.flights.length = t.flights.length + 1 →
      t.gate.limit.toNat + t.promised ≤ bound)
    (hbound : t.gate.ledger.used.toNat + t.promised ≤ bound) :
    u.gate.ledger.used.toNat + u.promised ≤ bound := by
  cases h with
  | @admitted site size gate hfree hpass =>
    obtain ⟨l, hrequest, rfl⟩ := Gate.request_eq_ok_iff.1 hpass
    obtain ⟨hfits, hused, -, -⟩ := Ledger.request_spec hrequest
    have hlimit := hroom (by simp)
    have hpromised : promised ⟨t.gate.withLedger l, t.flights ++ [⟨site, size⟩]⟩
        = t.promised + size.toNat := by
      simp [promised]
    rw [hpromised, Gate.ledger_withLedger, hused]
    omega
  | refused | untouched => exact hbound
  | @charged place flight real hflight hgranted =>
    have hused := t.gate.ledger.toNat_used_charge_le real.handle flight.size
    have hpromised := sum_eraseIdx_add hflight
    simp only [promised, Gate.ledger_withLedger] at hbound ⊢
    omega
  | cancelled hflight hgranted =>
    have hpromised := sum_eraseIdx_add hflight
    show t.gate.ledger.used.toNat + _ ≤ bound
    simp only [promised] at hbound ⊢
    omega
  | @discharged site handle size hfree hne hfound =>
    have hused := t.gate.ledger.toNat_used_discharge handle size
    simp only [promised, Gate.ledger_withLedger] at hbound ⊢
    omega

end Traffic

end DeviceQuota
