import DeviceQuota.Proofs.Traffic.Move

/-!
# Conservation

Between any two phases of any history the charge is the exact sum of the live sizes, and no sum or
difference of a phase ever stops at an end of the range of a byte count.

Sums of charges stop at the largest word, so this needs a reason why a charge fits. With one
allocation in flight at a time there is one: the request has left room for it, and nothing that
happens in between takes the room away. Allocations that overlap have no such reason, since each
was let through on its own; there the live sizes have to fit after each settling.

* **`Traffic.ClampFree`** — a phase whose sums and differences are those of the natural numbers;
* **`Traffic.Roomy`** — why charges fit;
* **`Traffic.conserved_of_roomy`** — conservation.
-/

namespace DeviceQuota

/-- The phase ends an allocation. -/
def Phase.isSettle : Phase → Bool
  | .settle .. => true
  | _ => false

namespace Traffic

/-- No sum and no difference of a phase stops at an end of the range. -/
def ClampFree (t : Traffic) : Phase → Prop
  | .request .. => True
  | .settle place real =>
    ∀ flight ∈ t.flights[place]?, real.granted flight.site.vendor = true →
      t.gate.ledger.ChargesExactly real.handle flight.size
  | .release _ handle => t.gate.ledger.DischargesExactly handle

/-- The live sizes fit into a word after each settling. -/
def SettlesFit (settings : Settings) (phases : List Phase) : Prop :=
  History.Along step?
    (fun _ phase after _ => phase.isSettle = true → after.gate.ledger.liveTotal < UInt64.size)
    phases (new settings)

instance (settings : Settings) (phases : List Phase) : Decidable (SettlesFit settings phases) :=
  inferInstanceAs (Decidable (History.Along ..))

/-- Why every charge fits: admission is strict, or no two allocations overlap, or the live sizes
fit into a word after each settling. -/
def Roomy (settings : Settings) (phases : List Phase) : Prop :=
  settings.mode = .strict ∨ InFlightAtMost 1 settings phases ∨ SettlesFit settings phases

variable {t u : Traffic} {phase : Phase} {events : List Event}

/-- **One phase.** A conserved ledger stays conserved, and nothing stops at an end, if the live
sizes fit in case the phase is a settling. -/
theorem conserved_of_move (h : t.Move phase u events) (hconserved : t.gate.ledger.Conserved)
    (hfits : phase.isSettle = true → u.gate.ledger.liveTotal < UInt64.size) :
    u.gate.ledger.Conserved ∧ t.ClampFree phase := by
  cases h with
  | admitted hfree hpass =>
    obtain ⟨l, hrequest, rfl⟩ := Gate.request_eq_ok_iff.1 hpass
    obtain ⟨-, hused, -, hlive⟩ := Ledger.request_spec hrequest
    refine ⟨?_, trivial⟩
    show l.used.toNat = l.table.live.total
    rw [hused, hlive]
    exact hconserved
  | refused => exact ⟨hconserved, trivial⟩
  | @charged place flight real hflight hgranted =>
    obtain ⟨hexact, hafter⟩ := Ledger.conserved_charge hconserved (hfits rfl)
    refine ⟨hafter, ?_⟩
    intro other hother _
    obtain rfl : flight = other := Option.some.inj (hflight.symm.trans hother)
    exact hexact
  | @cancelled place flight real hflight hgranted =>
    refine ⟨hconserved, ?_⟩
    intro other hother hgranted'
    obtain rfl : flight = other := Option.some.inj (hflight.symm.trans hother)
    rw [hgranted] at hgranted'
    contradiction
  | discharged hfree hne hfound =>
    obtain ⟨hexact, hafter⟩ := Ledger.conserved_discharge hconserved hfound
    exact ⟨hafter, hexact⟩
  | untouched hfree habsent =>
    refine ⟨hconserved, ?_⟩
    show _ ≤ _
    rw [hconserved]
    exact Ledger.trackedBytes_le_liveTotal _ _

/-- A phase makes nothing live that was not promised. -/
theorem liveTotal_le_of_move (h : t.Move phase u events) :
    u.gate.ledger.liveTotal ≤ t.gate.ledger.liveTotal + t.promised := by
  cases h with
  | admitted hfree hpass =>
    obtain ⟨l, hrequest, rfl⟩ := Gate.request_eq_ok_iff.1 hpass
    obtain ⟨-, -, -, hlive⟩ := Ledger.request_spec hrequest
    show l.table.live.total ≤ _
    rw [hlive]
    exact Nat.le_add_right _ _
  | refused | cancelled | untouched => exact Nat.le_add_right _ _
  | @charged place flight real hflight hgranted =>
    have hsum := t.gate.ledger.liveTotal_charge real.handle flight.size
    have hpromised := sum_eraseIdx_add hflight
    simp only [promised, Gate.ledger_withLedger]
    omega
  | discharged hfree hne hfound =>
    have hsum := Ledger.liveTotal_discharge hfound
    simp only [Gate.ledger_withLedger]
    omega

/-! ### Room for every charge -/

/-- The charge is exact, and with the promises in flight it is within the quota. -/
structure Within (limit : Bytes) (t : Traffic) : Prop where
  /-- The quota is that of the beginning. -/
  limit_eq : t.gate.limit = limit
  /-- The charge is the exact sum of the live sizes. -/
  conserved : t.gate.ledger.Conserved
  /-- The promises in flight have room besides the charge. -/
  sum_le : t.gate.ledger.used.toNat + t.promised ≤ limit.toNat

theorem Within.liveTotal_lt {limit : Bytes} (hinv : t.Within limit) :
    t.gate.ledger.liveTotal + t.promised < UInt64.size := by
  have hword : limit.toNat < UInt64.size := limit.toNat_lt
  have hsum := hinv.sum_le
  rw [hinv.conserved] at hsum
  omega

/-- With one allocation in flight at a time, the room that a request finds is still there when it
is charged. -/
theorem Within.of_move {limit : Bytes} (hinv : t.Within limit) (h : t.Move phase u events)
    (hone : u.flights.length ≤ 1) : u.Within limit := by
  have hroom : u.flights.length = t.flights.length + 1 →
      t.gate.limit.toNat + t.promised ≤ limit.toNat := by
    intro hlonger
    have hnone : t.flights = [] := List.length_eq_zero_iff.1 (by omega)
    simp [promised, hnone, hinv.limit_eq]
  have hfits : u.gate.ledger.liveTotal < UInt64.size :=
    Nat.lt_of_le_of_lt (liveTotal_le_of_move h) hinv.liveTotal_lt
  exact
    { limit_eq := (limit_of_move h).trans hinv.limit_eq
      conserved := (conserved_of_move h hinv.conserved fun _ => hfits).1
      sum_le := used_add_promised_le_of_move h hroom hinv.sum_le }

theorem within_new (settings : Settings) : (new settings).Within settings.limit :=
  ⟨rfl, rfl, Nat.zero_le _⟩

theorem settlesFit_of_inFlightAtMost_one {settings : Settings} {phases : List Phase}
    (hone : InFlightAtMost 1 settings phases) : SettlesFit settings phases := by
  refine History.along_of_invariant (I := Within settings.limit) ?_ phases (new settings)
    (within_new settings) hone.2
  intro t phase u events hstep hinv hafter
  have hwithin := hinv.of_move (move_of_step? hstep) hafter
  exact ⟨hwithin, fun _ => Nat.lt_of_le_of_lt (Nat.le_add_right _ _) hwithin.liveTotal_lt⟩

/-! ### Every history -/

/-- **Conservation over every history.** Between any two phases the charge is the exact sum of the
live sizes, and no phase stops at an end of the range. -/
theorem conserved_of_roomy (settings : Settings) (phases : List Phase)
    (hroomy : Roomy settings phases) :
    History.Always step? (fun t => t.gate.ledger.Conserved) phases (new settings) ∧
      History.Along step? (fun t phase _ _ => t.ClampFree phase) phases (new settings) := by
  have hfits : SettlesFit settings phases := by
    rcases hroomy with hstrict | hone | hfits
    · exact settlesFit_of_inFlightAtMost_one (inFlightAtMost_one_of_strict hstrict phases)
    · exact settlesFit_of_inFlightAtMost_one hone
    · exact hfits
  have halong : History.Along step?
      (fun t phase u _ => u.gate.ledger.Conserved ∧ t.ClampFree phase) phases (new settings) := by
    refine History.along_of_invariant (I := fun t => t.gate.ledger.Conserved) ?_ phases
      (new settings) rfl hfits
    intro t phase u events hstep hconserved hsettle
    have hafter := conserved_of_move (move_of_step? hstep) hconserved hsettle
    exact ⟨hafter.1, hafter⟩
  exact ⟨⟨rfl, halong.mono fun _ _ _ _ h => h.1⟩, halong.mono fun _ _ _ _ h => h.2⟩

/-- Two overlapping allocations that together exceed the quota, the second of which is granted the
address of the first while that one is still tracked. -/
def reusedHandlePhases : List Phase :=
  [.request ⟨.cuda, "cudaMalloc"⟩ 60, .request ⟨.hip, "hipMalloc"⟩ 70,
    .settle 1 ⟨0, 16⟩, .settle 0 ⟨0, 16⟩, .release ⟨.cuda, "cudaFree"⟩ 16]

theorem conserved_reusedHandlePhases :
    (run? reusedHandlePhases (new ⟨100, .warn, .optimistic, none⟩)).isSome = true ∧
      Roomy ⟨100, .warn, .optimistic, none⟩ reusedHandlePhases ∧
      History.Always step? (fun t => t.gate.ledger.Conserved) reusedHandlePhases
        (new ⟨100, .warn, .optimistic, none⟩) ∧
      History.Along step? (fun t phase _ _ => t.ClampFree phase) reusedHandlePhases
        (new ⟨100, .warn, .optimistic, none⟩) := by
  have hroomy : Roomy ⟨100, .warn, .optimistic, none⟩ reusedHandlePhases := .inr (.inr (by decide))
  exact ⟨by decide, hroomy, conserved_of_roomy _ _ hroomy⟩

end Traffic

end DeviceQuota
