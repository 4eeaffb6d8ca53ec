import DeviceQuota.Traffic

/-!
# Overlapping calls and a device

Between the two phases of an allocation the device is asked for memory, and after the phase of a
release it is asked to take memory back. Calls of any number of callers overlap, so the device and
the ledger change at different times, and each keeps its own record of what is live.

* **`Exchange`** — a gate, the record of the device, and the calls under way;
* **`Exchange.Action`** — the five steps: request, answer of the device, settling, release, and the
  device's own release;
* **`Exchange.step?`** — one step. The steps of the ledger are those of `Traffic`;
* **`Exchange.accounted`** — where the bytes of the device should be found: in the table, granted
  and not yet settled, or taken out of the table and not yet freed;
* **`Exchange.GrantsFresh`**, **`Exchange.ReleasesOwned`** — what a device and its callers owe.

The device is not a particular one: it answers each request as it likes. `run?_allocate` says that
an allocation whose steps follow each other is an allocation of the gate.
-/

namespace DeviceQuota

/-- An allocation that passed its request, and what the device answered, if it did. -/
structure Crossing where
  flight : Flight
  answer : Option Outcome
  deriving DecidableEq, Repr

/-- What the device granted to an allocation that is not settled. -/
def Crossing.grant? (c : Crossing) : Option (Handle × Bytes) :=
  match c.answer with
  | some real => if real.granted c.flight.site.vendor then some (real.handle, c.flight.size) else none
  | none => none

theorem Crossing.grant?_of_granted {flight : Flight} {real : Outcome}
    (h : real.granted flight.site.vendor = true) :
    Crossing.grant? ⟨flight, some real⟩ = some (real.handle, flight.size) := by
  simp [grant?, h]

theorem Crossing.grant?_of_not_granted {flight : Flight} {real : Outcome}
    (h : real.granted flight.site.vendor = false) :
    Crossing.grant? ⟨flight, some real⟩ = none := by
  simp [grant?, h]

/-- A grant has the size that was asked for. -/
theorem Crossing.size_of_grant? {crossing : Crossing} {grant : Handle × Bytes}
    (h : crossing.grant? = some grant) : grant.2 = crossing.flight.size := by
  unfold grant? at h
  split at h
  · split at h
    · rw [← Option.some.inj h]
    · contradiction
  · contradiction

/-- A gate, a device behind it, and the calls under way. -/
structure Exchange where
  gate : Gate
  /-- The live addresses of the device with their sizes. -/
  device : HandleMap
  /-- The allocations under way, the latest last. -/
  crossings : List Crossing
  /-- The releases under way, with the sizes that they took out of the table. -/
  leaving : List (Handle × Bytes)
  /-- The handles that allocations returned and callers did not release. -/
  owned : List Handle

namespace Exchange

/-- A step that a call takes. -/
inductive Action where
  /-- An allocation of `size` bytes asks the ledger. -/
  | request (site : CallSite) (size : Bytes)
  /-- The device answers the allocation at a place among those under way. -/
  | answer (place : Nat) (real : Outcome)
  /-- An allocation that was answered is settled, and returns. -/
  | settle (place : Nat)
  /-- A release takes its handle out of the table. -/
  | release (site : CallSite) (handle : Handle)
  /-- The device frees the handle of the release at a place among those under way. -/
  | free (place : Nat)
  deriving DecidableEq, Repr

/-- A fresh gate in front of a device that holds nothing. -/
def new (settings : Settings) : Exchange := ⟨.new settings, .empty, [], [], []⟩

/-- What the ledger sees. -/
def traffic (e : Exchange) : Traffic := ⟨e.gate, e.crossings.map Crossing.flight⟩

/-- The device's answer to an allocation: memory, if the answer grants it. -/
def answered (e : Exchange) (place : Nat) (flight : Flight) (real : Outcome) : Exchange :=
  { e with
    device := if real.granted flight.site.vendor then e.device.insert real.handle flight.size
      else e.device
    crossings := e.crossings.set place ⟨flight, some real⟩ }

theorem device_answered_of_granted (e : Exchange) (place : Nat) {flight : Flight} {real : Outcome}
    (h : real.granted flight.site.vendor = true) :
    (e.answered place flight real).device = e.device.insert real.handle flight.size := by
  simp [answered, h]

theorem device_answered_of_not_granted (e : Exchange) (place : Nat) {flight : Flight}
    {real : Outcome} (h : real.granted flight.site.vendor = false) :
    (e.answered place flight real).device = e.device := by
  simp [answered, h]

/-- The end of an allocation. Its caller owns the handle, if there is one. -/
def settled (e : Exchange) (place : Nat) (flight : Flight) (real : Outcome) : Exchange :=
  { e with
    gate := e.gate.withLedger (e.gate.ledger.settle flight.site flight.size real).1
    crossings := e.crossings.eraseIdx place
    owned := if real.granted flight.site.vendor then real.handle :: e.owned else e.owned }

theorem ledger_settled_of_granted (e : Exchange) (place : Nat) {flight : Flight} {real : Outcome}
    (h : real.granted flight.site.vendor = true) :
    (e.settled place flight real).gate.ledger
      = e.gate.ledger.charge real.handle flight.size :=
  Ledger.fst_settle_of_granted _ _ h

theorem ledger_settled_of_not_granted (e : Exchange) (place : Nat) {flight : Flight}
    {real : Outcome} (h : real.granted flight.site.vendor = false) :
    (e.settled place flight real).gate.ledger = e.gate.ledger.cancel := by
  simp [settled, Ledger.settle_of_not_granted _ _ h]

theorem owned_settled_of_granted (e : Exchange) (place : Nat) {flight : Flight} {real : Outcome}
    (h : real.granted flight.site.vendor = true) :
    (e.settled place flight real).owned = real.handle :: e.owned := by
  simp [settled, h]

theorem owned_settled_of_not_granted (e : Exchange) (place : Nat) {flight : Flight}
    {real : Outcome} (h : real.granted flight.site.vendor = false) :
    (e.settled place flight real).owned = e.owned := by
  simp [settled, h]

/-- The beginning of a release, whether or not the handle was tracked. -/
def released (e : Exchange) (site : CallSite) (handle : Handle) : Exchange :=
  { e with
    gate := e.gate.withLedger (e.gate.ledger.release site handle).1
    leaving := e.leaving ++ [(handle, (e.gate.ledger.tracked? handle).getD 0)]
    owned := e.owned.erase handle }

/-- The exchange after a step and the events logged; `none` where the step is not possible. The
device is never locked, and the release of the null handle does not ask for the lock. -/
def step? (e : Exchange) : Action → Option (Exchange × List Event)
  | .request site size =>
    if e.traffic.locked then none
    else
      match e.gate.request size with
      | .ok gate =>
        some ({ e with gate := gate, crossings := e.crossings ++ [⟨⟨site, size⟩, none⟩] }, [])
      | .error why => some ({ e with gate := e.gate.refuse }, [.ofDenial site.function why])
  | .answer place real =>
    match e.crossings[place]? with
    | some ⟨flight, none⟩ => some (e.answered place flight real, [])
    | _ => none
  | .settle place =>
    match e.crossings[place]? with
    | some ⟨flight, some real⟩ =>
      some (e.settled place flight real, (e.gate.ledger.settle flight.site flight.size real).2)
    | _ => none
  | .release site handle =>
    if e.traffic.locked && handle != 0 then none
    else some (e.released site handle, (e.gate.ledger.release site handle).2)
  | .free place =>
    match e.leaving[place]? with
    | some (handle, _) =>
      some ({ e with
        device := e.device.erase handle
        leaving := e.leaving.eraseIdx place }, [])
    | none => none

/-- An allocation that passes, with nothing in between, does to the gate what `Gate.allocate` does. -/
theorem run?_allocate {e : Exchange} {admitted : Gate} {size : Bytes} (site : CallSite)
    (real : Outcome) (alone : e.crossings = []) (passes : e.gate.request size = .ok admitted) :
    (History.run? step? [.request site size, .answer 0 real, .settle 0] e).map
        (fun reached => (reached.1.gate, reached.1.crossings, reached.2)) =
      some ((e.gate.allocate site size real).gate, [], (e.gate.allocate site size real).events) := by
  simp [History.run?, step?, traffic, Traffic.locked, answered, settled, Gate.allocate, alone,
    passes]

/-- What the device granted to allocations that are not settled. -/
def granted (e : Exchange) : List (Handle × Bytes) := e.crossings.filterMap Crossing.grant?

/-- What is in the table, granted and not settled, or taken out of the table and not freed. -/
def accounted (e : Exchange) : List (Handle × Bytes) :=
  e.gate.ledger.table.live.entries ++ (e.granted ++ e.leaving)

/-- The bytes granted to allocations that are not settled. -/
def grantedBytes (e : Exchange) : Nat := HandleMap.sumSizes e.granted

/-- The bytes taken out of the table and not yet freed. -/
def leavingBytes (e : Exchange) : Nat := HandleMap.sumSizes e.leaving

/-- No call is under way. -/
def Idle (e : Exchange) : Prop := e.crossings = [] ∧ e.leaving = []

/-- A step in which the device grants an address only if it is not live at that moment. -/
def GrantsFresh (e : Exchange) : Action → Prop
  | .answer place real =>
    ∀ crossing ∈ e.crossings[place]?, real.granted crossing.flight.site.vendor = true →
      e.device.find? real.handle = none
  | _ => True

/-- A step in which a caller releases only a handle that an allocation returned and that nobody
released since. -/
def ReleasesOwned (e : Exchange) : Action → Prop
  | .release _ handle => handle ∈ e.owned
  | _ => True

/-- A step that does not settle an allocation on a handle that is still tracked. -/
def SettlesFresh (e : Exchange) : Action → Prop
  | .settle place =>
    ∀ crossing ∈ e.crossings[place]?, ∀ grant ∈ crossing.grant?,
      e.gate.ledger.tracked? grant.1 = none
  | _ => True

instance (e : Exchange) : DecidablePred e.GrantsFresh
  | .answer .. => inferInstanceAs (Decidable (∀ crossing ∈ e.crossings[_]?, _ → _))
  | .request .. | .settle .. | .release .. | .free .. => inferInstanceAs (Decidable True)

instance (e : Exchange) : DecidablePred e.ReleasesOwned
  | .release .. => inferInstanceAs (Decidable (_ ∈ e.owned))
  | .request .. | .answer .. | .settle .. | .free .. => inferInstanceAs (Decidable True)

end Exchange

end DeviceQuota
