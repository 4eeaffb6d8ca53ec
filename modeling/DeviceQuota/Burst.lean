import DeviceQuota.History
import DeviceQuota.Scenario

/-!
# Bursts

The callers of a burst all allocate at once. Each makes its allocations one after the other, and each
allocation takes up to four turns: the request to the gate, the call of the device, the settling, and
a look at the charge. The turns of different callers come in any order, except that a caller waits
for the ledger while another one keeps it locked. A caller whose allocation the device breaks off is
done for; if it kept the ledger locked, the ledger is open again.

`Scenario.run` serves the callers one after the other, which is one of these orders.

* **`Caller`** — where a caller is, and what it recorded;
* **`Burst`** — the callers, the rig that they share, and who keeps the ledger locked;
* **`Burst.turn?`** — a turn of one caller; **`Burst.step?`** — the burst after it. An order of turns
  is a list of places;
* **`Burst.Finished`**, **`Burst.report`** — the end.
-/

namespace DeviceQuota

/-- Where a caller is in an allocation. -/
inductive Stage where
  /-- Between two allocations. -/
  | idle
  /-- The gate has let the request through, and the device has not been asked. -/
  | admitted
  /-- The device has answered, and nothing is settled. -/
  | answered (real : Outcome)
  /-- The allocation is over, with the status and the handle for the record. -/
  | returned (result : Outcome)
  /-- The device broke off the allocation, and the caller with it. -/
  | broken
  deriving DecidableEq, Repr

/-- A caller of a burst. -/
structure Caller where
  stage : Stage
  /-- The allocations that it recorded, in their order. -/
  steps : List Step
  deriving DecidableEq, Repr

/-- A caller between two allocations that recorded nothing. -/
def Caller.new : Caller := ⟨.idle, []⟩

/-- Callers that allocate blocks of one size from one rig. -/
structure Burst where
  size : Bytes
  rig : Rig
  callers : List Caller
  /-- The place of the caller that keeps the ledger locked while it asks the device. -/
  holder : Option Nat

namespace Burst

/-- What a turn of a caller leaves behind. -/
structure Turn where
  caller : Caller
  rig : Rig
  holder : Option Nat
  /-- What the caller records in this turn. -/
  recorded : List Step

/-- A burst before the first turn. -/
def new (params : Scenario.Params) : Burst where
  size := params.size
  rig := .new params.limit params.mode
  callers := List.replicate params.threads .new
  holder := none

/-- A caller other than that at `place` keeps the ledger locked. -/
def closed (b : Burst) (place : Nat) : Bool := b.holder.any fun holder => holder != place

/-- The record of an allocation with the result `result`, by a caller that looks at the charge now. -/
def record (b : Burst) (result : Outcome) : Step :=
  ⟨.allocate, b.size, result.status, result.handle, b.rig.gate.ledger.used⟩

/-- A turn of the caller at `place`; `none` where it has nothing left to do or has to wait. -/
def turn? (b : Burst) (place : Nat) : Caller → Option Turn
  | ⟨.idle, steps⟩ =>
    if steps.length < Scenario.burstPerThread && !b.closed place then
      match b.rig.gate.request b.size with
      | .ok gate =>
        let holder := if gate.mode.holdsLock then some place else none
        some ⟨⟨.admitted, steps⟩, ⟨gate, b.rig.device⟩, holder, []⟩
      | .error why =>
        let status := (Refusal.denied why).status Rig.mallocSite.vendor
        some ⟨⟨.returned ⟨status, 0⟩, steps⟩, ⟨b.rig.gate.refuse, b.rig.device⟩, none, []⟩
    else none
  | ⟨.admitted, steps⟩ =>
    match b.rig.device.malloc b.size with
    | (.ok real, asked) => some ⟨⟨.answered real, steps⟩, ⟨b.rig.gate, asked⟩, b.holder, []⟩
    | (.error _, asked) =>
      let holder := if b.holder = some place then none else b.holder
      some ⟨⟨.broken, steps⟩, ⟨b.rig.gate, asked⟩, holder, []⟩
  | ⟨.answered real, steps⟩ =>
    if b.closed place then none
    else
      let settled := (b.rig.gate.ledger.settle Rig.mallocSite b.size real).1
      let handle := if real.status = 0 then real.handle else 0
      some ⟨⟨.returned ⟨real.status, handle⟩, steps⟩,
        ⟨b.rig.gate.withLedger settled, b.rig.device⟩, none, []⟩
  | ⟨.returned result, steps⟩ =>
    if b.closed place then none
    else
      let step := b.record result
      some ⟨⟨.idle, steps ++ [step]⟩, b.rig, b.holder, [step]⟩
  | ⟨.broken, _⟩ => none

/-- The burst after a turn of the caller at `place`. -/
def take (b : Burst) (place : Nat) (turn : Turn) : Burst :=
  { b with
    rig := turn.rig
    callers := b.callers.set place turn.caller
    holder := turn.holder }

/-- The burst after the next turn of the caller at `place`, and what the caller records. -/
def step? (b : Burst) (place : Nat) : Option (Burst × List Step) :=
  b.callers[place]?.bind fun caller =>
    (b.turn? place caller).map fun turn => (b.take place turn, turn.recorded)

/-- Every caller has made all its allocations. -/
def Finished (b : Burst) : Prop :=
  ∀ caller ∈ b.callers, caller.stage = .idle ∧ caller.steps.length = Scenario.burstPerThread

instance decidableFinished (b : Burst) : Decidable b.Finished :=
  inferInstanceAs (Decidable (∀ caller ∈ b.callers, _))

/-- The report of a burst. Its steps are those of the first caller, then those of the second, and so
on, whatever the order of the turns. -/
def report (b : Burst) : Scenario.Report :=
  Scenario.finish .burst (b.callers.flatMap Caller.steps) b.rig

/-- A caller waits for nobody while the ledger is open. -/
theorem closed_of_holder_eq_none {b : Burst} (h : b.holder = none) (place : Nat) :
    b.closed place = false := by
  simp [closed, h]

/-- A caller does not wait for itself. -/
theorem closed_of_holder_eq_self {b : Burst} {place : Nat} (h : b.holder = some place) :
    b.closed place = false := by
  simp [closed, h]

theorem step?_of_turn? {b : Burst} {place : Nat} {caller : Caller} {turn : Turn}
    (hcaller : b.callers[place]? = some caller) (hturn : b.turn? place caller = some turn) :
    b.step? place = some (b.take place turn, turn.recorded) := by
  simp [step?, hcaller, hturn]

end Burst

end DeviceQuota
