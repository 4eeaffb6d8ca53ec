import DeviceQuota.Gate
import DeviceQuota.History

/-!
# Overlapping calls

Calls of several threads overlap in any way. The ledger sees only their phases: a request, the
settling of a request that passed, and the beginning of a release. A history of phases is possible
if each settling has its request before it; in strict mode nothing happens between the two.

* **`Flight`** — an allocation that passed its request and is not settled;
* **`Traffic`** — a gate and the allocations in flight;
* **`Traffic.step?`** — one phase, and **`Traffic.run?`**, a history of phases; `none` where a
  phase is not possible.

`run?_allocate` says that an allocation with nothing in between is its two phases in a row.
-/

namespace DeviceQuota

/-- An allocation that passed its request and is not settled. -/
structure Flight where
  site : CallSite
  /-- The number of bytes asked for. -/
  size : Bytes
  deriving DecidableEq, Repr

/-- What the ledger sees of a call at a time. -/
inductive Phase where
  /-- An allocation of `size` bytes begins. -/
  | request (site : CallSite) (size : Bytes)
  /-- The allocation at a place among those in flight ends. -/
  | settle (place : Nat) (real : Outcome)
  | release (site : CallSite) (handle : Handle)
  deriving DecidableEq, Repr

/-- A gate and the allocations in flight, the latest last. -/
structure Traffic where
  gate : Gate
  flights : List Flight

namespace Traffic

/-- A fresh gate with nothing in flight. -/
def new (settings : Settings) : Traffic := ⟨.new settings, []⟩

/-- An allocation in flight keeps everyone else from the ledger. -/
def locked (t : Traffic) : Bool := t.gate.mode.holdsLock && !t.flights.isEmpty

/-- The traffic after a phase and the events logged; `none` where the phase is not possible. -/
def step? (t : Traffic) : Phase → Option (Traffic × List Event)
  | .request site size =>
    if t.locked then none
    else
      match t.gate.request size with
      | .ok gate => some (⟨gate, t.flights ++ [⟨site, size⟩]⟩, [])
      | .error why => some (⟨t.gate.refuse, t.flights⟩, [.ofDenial site.function why])
  | .settle place real =>
    match t.flights[place]? with
    | none => none
    | some flight =>
      let (settled, events) := t.gate.ledger.settle flight.site flight.size real
      some (⟨t.gate.withLedger settled, t.flights.eraseIdx place⟩, events)
  | .release site handle =>
    if t.locked then none
    else
      let (released, events) := t.gate.ledger.release site handle
      some (⟨t.gate.withLedger released, t.flights⟩, events)

/-- The traffic after a history of phases and the events logged. -/
def run? : List Phase → Traffic → Option (Traffic × List Event) := History.run? step?

/-- Nothing is locked while nothing is in flight. -/
theorem locked_of_flights_eq_nil {t : Traffic} (h : t.flights = []) : t.locked = false := by
  simp [locked, h]

/-- An allocation that passes, with nothing in between, is its two phases in a row. -/
theorem run?_allocate {g admitted : Gate} {size : Bytes} (site : CallSite) (real : Outcome)
    (passes : g.request size = .ok admitted) :
    run? [.request site size, .settle 0 real] ⟨g, []⟩ =
      some (⟨(g.allocate site size real).gate, []⟩, (g.allocate site size real).events) := by
  simp [run?, History.run?, step?, locked, passes, Gate.allocate]

end Traffic

end DeviceQuota
