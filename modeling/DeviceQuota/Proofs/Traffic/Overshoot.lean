import DeviceQuota.Proofs.Traffic.Move
import Mathlib.Algebra.Group.Action.Defs
import Mathlib.Algebra.Order.BigOperators.Group.List
import Mathlib.Algebra.Order.Group.Nat

/-!
# Bounded overshoot

A request is checked against what is charged, not against what other requests were promised, so
allocations that overlap may exceed the quota together. They exceed it by less than what may be in
flight at a time: with at most `n` allocations in flight, none larger than `M`, neither the charge
nor its peak is ever more than the quota and `n - 1` times `M`.

The charge alone does not keep this bound from phase to phase. The charge and the promises in
flight do, which is `Overshoot.sum_le`: the last request that passed saw the whole charge within
the quota, and only `n - 1` others had been promised by then.

* **`Traffic.Overshoot`** — the invariant;
* **`Traffic.used_le_limit_add_overshoot`** — the bound along every history.
-/

namespace DeviceQuota

/-- The bytes that a phase asks for. -/
def Phase.requested : Phase → Nat
  | .request _ size => size.toNat
  | _ => 0

namespace Traffic

/-- The traffic exceeds the quota by less than what `n` allocations of `most` bytes hold. -/
structure Overshoot (limit : Bytes) (n most : Nat) (t : Traffic) : Prop where
  /-- The quota is that of the beginning. -/
  limit_eq : t.gate.limit = limit
  /-- No allocation in flight is larger than `most`. -/
  flight_le : ∀ flight ∈ t.flights, flight.size.toNat ≤ most
  /-- Charge and promises exceed the quota by at most `n - 1` allocations. -/
  sum_le : t.gate.ledger.used.toNat + t.promised ≤ limit.toNat + (n - 1) * most
  /-- The charge never was larger than that. -/
  peak_le : t.gate.ledger.peak.toNat ≤ limit.toNat + (n - 1) * most

variable {t u : Traffic} {phase : Phase} {events : List Event}

theorem promised_le {most : Nat} (h : ∀ flight ∈ t.flights, flight.size.toNat ≤ most) :
    t.promised ≤ t.flights.length * most := by
  have hmem : ∀ size ∈ t.flights.map fun flight => flight.size.toNat, size ≤ most := by
    intro size hsize
    obtain ⟨flight, hflight, rfl⟩ := List.mem_map.1 hsize
    exact h flight hflight
  have hsum := List.sum_le_card_nsmul _ most hmem
  rwa [List.length_map, smul_eq_mul] at hsum

/-- The peak grows only where the charge does. -/
theorem peak_le_of_move (h : t.Move phase u events) :
    u.gate.ledger.peak.toNat ≤ max t.gate.ledger.peak.toNat u.gate.ledger.used.toNat := by
  cases h with
  | admitted hfree hpass =>
    obtain ⟨l, hrequest, rfl⟩ := Gate.request_eq_ok_iff.1 hpass
    obtain ⟨-, -, hpeak, -⟩ := Ledger.request_spec hrequest
    rw [Gate.ledger_withLedger, hpeak]
    exact Nat.le_max_left _ _
  | refused | cancelled | discharged | untouched => exact Nat.le_max_left _ _
  | @charged place flight real hflight hgranted =>
    exact Nat.le_of_eq (t.gate.ledger.toNat_peak_charge real.handle flight.size)

/-- An allocation in flight was there before, or is the one that the phase asks for. -/
theorem flight_le_of_move {most : Nat} (h : t.Move phase u events)
    (hbefore : ∀ flight ∈ t.flights, flight.size.toNat ≤ most) (hphase : phase.requested ≤ most) :
    ∀ flight ∈ u.flights, flight.size.toNat ≤ most := by
  cases h with
  | admitted hfree hpass =>
    intro flight hmem
    rcases List.mem_append.1 hmem with hold | hnew
    · exact hbefore flight hold
    · obtain rfl := List.mem_singleton.1 hnew
      exact hphase
  | refused | discharged | untouched => exact hbefore
  | charged | cancelled => exact fun flight hmem => hbefore flight (List.mem_of_mem_eraseIdx hmem)

/-- **One phase** keeps the overshoot within its bound. -/
theorem Overshoot.of_move {limit : Bytes} {n most : Nat} (hinv : t.Overshoot limit n most)
    (h : t.Move phase u events) (hflights : u.flights.length ≤ n)
    (hphase : phase.requested ≤ most) : u.Overshoot limit n most := by
  have hroom : u.flights.length = t.flights.length + 1 →
      t.gate.limit.toNat + t.promised ≤ limit.toNat + (n - 1) * most := by
    intro hlonger
    have hothers : t.flights.length ≤ n - 1 := by omega
    have hpromised := (promised_le hinv.flight_le).trans (Nat.mul_le_mul_right most hothers)
    rw [hinv.limit_eq]
    omega
  have hsum := used_add_promised_le_of_move h hroom hinv.sum_le
  have hpeak := peak_le_of_move h
  have hbefore := hinv.peak_le
  exact
    { limit_eq := (limit_of_move h).trans hinv.limit_eq
      flight_le := flight_le_of_move h hinv.flight_le hphase
      sum_le := hsum
      peak_le := by omega }

/-- **Overshoot is bounded.** While at most `n` allocations are in flight at any time and no request
is larger than `most`, neither the charge nor its peak exceeds the quota by more than `n - 1` times
`most`; in particular allocations that do not overlap never exceed it. -/
theorem used_le_limit_add_overshoot (settings : Settings) (phases : List Phase) (n most : Nat)
    (hflights : InFlightAtMost n settings phases)
    (hsizes : ∀ phase ∈ phases, phase.requested ≤ most) :
    History.Always step?
      (fun t => t.gate.ledger.used.toNat ≤ settings.limit.toNat + (n - 1) * most ∧
        t.gate.ledger.peak.toNat ≤ settings.limit.toNat + (n - 1) * most ∧
        (n = 1 → t.gate.ledger.used.toNat ≤ settings.limit.toNat))
      phases (new settings) := by
  have hbounds : ∀ t : Traffic, t.Overshoot settings.limit n most →
      t.gate.ledger.used.toNat ≤ settings.limit.toNat + (n - 1) * most ∧
        t.gate.ledger.peak.toNat ≤ settings.limit.toNat + (n - 1) * most ∧
        (n = 1 → t.gate.ledger.used.toNat ≤ settings.limit.toNat) := by
    intro t hinv
    have hsum := hinv.sum_le
    refine ⟨by omega, hinv.peak_le, ?_⟩
    rintro rfl
    rw [Nat.sub_self, Nat.zero_mul] at hsum
    omega
  have hstart : (new settings).Overshoot settings.limit n most :=
    { limit_eq := rfl
      flight_le := by simp [new]
      sum_le := Nat.zero_le _
      peak_le := Nat.zero_le _ }
  refine ⟨hbounds _ hstart, ?_⟩
  refine History.along_of_invariant (I := Overshoot settings.limit n most) ?_ phases
    (new settings) hstart (hflights.2.and (History.along_of_forall_mem hsizes))
  rintro t phase u events hstep hinv ⟨hlength, hphase⟩
  have hafter := hinv.of_move (move_of_step? hstep) hlength hphase
  exact ⟨hafter, hbounds u hafter⟩

/-- Three overlapping allocations of 60 bytes under a quota of 100: two of them overlap at a time, a
release runs in between, and the third is denied. -/
def overlappingPhases : List Phase :=
  [.request ⟨.cuda, "cudaMalloc"⟩ 60, .request ⟨.hip, "hipMalloc"⟩ 60, .settle 1 ⟨0, 32⟩,
    .settle 0 ⟨0, 16⟩, .request ⟨.acl, "aclrtMalloc"⟩ 60, .release ⟨.cuda, "cudaFree"⟩ 16]

theorem used_le_overlappingPhases :
    (run? overlappingPhases (new ⟨100, .warn, .optimistic, some 8⟩)).isSome = true ∧
      InFlightAtMost 2 ⟨100, .warn, .optimistic, some 8⟩ overlappingPhases ∧
      (∀ phase ∈ overlappingPhases, phase.requested ≤ 60) ∧
      History.Always step?
        (fun t => t.gate.ledger.used.toNat ≤ 100 + (2 - 1) * 60 ∧
          t.gate.ledger.peak.toNat ≤ 100 + (2 - 1) * 60 ∧
          (2 = 1 → t.gate.ledger.used.toNat ≤ 100))
        overlappingPhases (new ⟨100, .warn, .optimistic, some 8⟩) := by
  have hflights : InFlightAtMost 2 ⟨100, .warn, .optimistic, some 8⟩ overlappingPhases := by decide
  have hsizes : ∀ phase ∈ overlappingPhases, phase.requested ≤ 60 := by decide
  exact ⟨by decide, hflights, hsizes, used_le_limit_add_overshoot _ _ _ _ hflights hsizes⟩

end Traffic

end DeviceQuota
