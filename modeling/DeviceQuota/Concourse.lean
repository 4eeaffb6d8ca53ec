import DeviceQuota.History
import DeviceQuota.Hook

/-!
# Overlapping calls of hooks

Hooks are called from several threads at once, and a runtime's function may itself call hooks. A call
comes in stages: it looks its function up; it passes the gate, and the function goes to work; the
function returns, and the call is accounted for and answered. Other calls may come between any two
stages. In strict mode an allocation holds the ledger while its function is at work, and a stage that
needs the ledger is not possible meanwhile.

* **`Passage`** — what a call asks of the gate, once its function was found;
* **`Visit`** — such a call under way, with **`Visit.enter`** and **`Visit.leave`**, its two stages at
  the gate;
* **`Concourse`** — hooks and the calls under way;
* **`Concourse.step?`** — one stage of a call, and **`Concourse.run?`**, a history of stages; `none`
  where a stage is not possible.

`run?_call` says that a call with nothing in between is the call of a hook.
-/

namespace DeviceQuota

/-- What a call asks of the gate, with the arguments of the runtime's function and what it does. -/
inductive Passage where
  | allocate (size : Bytes) (extra : Int) (out : Cell) (real : Granting)
  | free (handle : Handle) (status : Status)
  | query (extra : Int) (free total : Cell) (real : Measuring)
  deriving DecidableEq, Repr

/-- What a hook of `vendor` asks of the gate. -/
def HookCall.passage (vendor : Vendor) : HookCall → Passage
  | allocate size policy out real => .allocate size (Hooks.extraOf vendor policy) out real
  | allocateManaged size flags out real => .allocate size flags.toNat out real
  | free handle status => .free handle status
  | memInfo attr left all real => .query (Hooks.extraOf vendor attr) left all real

/-- What a stage of a call puts out. -/
inductive Sign where
  | logged (event : Event)
  /-- The call is over. -/
  | answered (status : Status) (targets : Targets) (realCalls : List RealCall)
  deriving DecidableEq, Repr

/-- What a whole call puts out. -/
def HookResult.signs (result : HookResult) : List Sign :=
  result.events.map .logged ++ [.answered result.status result.targets result.realCalls]

/-- A call whose function was found. -/
structure Visit where
  site : CallSite
  address : Address
  passage : Passage
  /-- The call passed the gate, and the runtime's function is at work. -/
  inside : Bool
  deriving DecidableEq, Repr

/-- What a stage at the gate leads to. -/
structure Turn where
  /-- The call, unless it is over. -/
  visit : Option Visit
  gate : Gate
  signs : List Sign

namespace Visit

/-- The runtime's function is at work on an allocation. -/
def allocating (v : Visit) : Bool :=
  match v.passage with
  | .allocate .. => v.inside
  | _ => false

/-- A call asks the gate, before its function goes to work. -/
def enter (v : Visit) (g : Gate) (locked : Bool) : Option Turn :=
  match v.passage with
  | .allocate size _ out _ =>
    if locked then none
    else
      match g.request size with
      | .error why =>
        some ⟨none, g.refuse, [.logged (.ofDenial v.site.function why),
          .answered ((Refusal.denied why).status v.site.vendor) (.handle out) []]⟩
      | .ok admitted => some ⟨some { v with inside := true }, admitted, []⟩
  | .free handle _ =>
    if locked && handle != 0 then none
    else
      let (released, events) := g.ledger.release v.site handle
      some ⟨some { v with inside := true }, g.withLedger released, events.map .logged⟩
  | .query .. => some ⟨some { v with inside := true }, g, []⟩

/-- The function of a call has returned. -/
def leave (v : Visit) (g : Gate) (locked : Bool) : Option Turn :=
  match v.passage with
  | .allocate size extra out real =>
    let stored := out.store? real.stored
    let handle := if v.site.vendor.isSuccess real.status then stored.load else 0
    let (settled, events) := g.ledger.settle v.site size ⟨real.status, handle⟩
    some ⟨none, g.withLedger settled, events.map .logged ++
      [.answered real.status (.handle stored) [⟨v.address, v.site.function, some size, extra⟩]]⟩
  | .free handle status =>
    some ⟨none, g, [.answered status .none [⟨v.address, v.site.function, some handle, 0⟩]]⟩
  | .query extra free total real =>
    if locked && v.site.vendor.isSuccess real.status then none
    else
      let (answer, events) := g.answerQuery v.site real.status
      let free := free.store? real.free
      let total := total.store? real.total
      let asked : List RealCall := [⟨v.address, v.site.function, none, extra⟩]
      let sign := match answer with
        | .ok info =>
          Sign.answered v.site.vendor.codes.success
            (.memory (free.store info.free) (total.store info.total)) asked
        | .error status => Sign.answered status (.memory free total) asked
      some ⟨none, g, events.map .logged ++ [sign]⟩

/-- The next stage of a call at the gate. -/
def proceed (v : Visit) (g : Gate) (locked : Bool) : Option Turn :=
  if v.inside then v.leave g locked else v.enter g locked

end Visit

/-- Hooks, and the calls of hooks under way. -/
structure Concourse where
  hooks : Hooks
  /-- The calls whose function was found and that are not over, the latest last. -/
  visits : List Visit

namespace Concourse

/-- A stage of a call. -/
inductive Stage where
  /-- A hook of `vendor` is called and looks its function up. -/
  | arrive (resolver : Resolver) (vendor : Vendor) (call : HookCall)
  /-- The call at a place among those under way goes on. -/
  | proceed (place : Nat)

/-- Fresh hooks and no call. -/
def new (settings : Settings) (managed : Bool) : Concourse := ⟨.new settings managed, []⟩

/-- An allocation at work keeps everyone else from the ledger. -/
def locked (c : Concourse) : Bool :=
  c.hooks.gate.mode.holdsLock && c.visits.any Visit.allocating

/-- A call looks its function up. It is given up where there is no such function, or where it is not
found. -/
def arrive (c : Concourse) (resolver : Resolver) (vendor : Vendor) (call : HookCall) :
    Concourse × List Sign :=
  match (c.hooks.family vendor).get? call.role with
  | none => (c, (c.hooks.giveUp vendor call []).signs)
  | some binding =>
    let search := binding.resolve resolver
    let searched :=
      c.hooks.withFamily ((c.hooks.family vendor).set search.binding call.role) vendor
    match search.found with
    | none => (⟨searched, c.visits⟩, (searched.giveUp vendor call search.events).signs)
    | some address =>
      (⟨searched, c.visits ++ [⟨call.site vendor, address, call.passage vendor, false⟩]⟩,
        search.events.map .logged)

/-- The concourse after a stage of the call at a place. -/
def follow (c : Concourse) (place : Nat) (turn : Turn) : Concourse where
  hooks := c.hooks.withGate turn.gate
  visits := match turn.visit with
    | some visit => c.visits.set place visit
    | none => c.visits.eraseIdx place

/-- The concourse after a stage and what it puts out; `none` where the stage is not possible. -/
def step? (c : Concourse) : Stage → Option (Concourse × List Sign)
  | .arrive resolver vendor call => some (c.arrive resolver vendor call)
  | .proceed place =>
    match c.visits[place]? with
    | none => none
    | some visit =>
      (visit.proceed c.hooks.gate c.locked).map fun turn => (c.follow place turn, turn.signs)

/-- The concourse after a history of stages and what they put out. -/
def run? : List Stage → Concourse → Option (Concourse × List Sign) := History.run? step?

end Concourse

/-! ### Whole calls -/

/-- A call whose function was found, as a whole. -/
def Hooks.serve (h : Hooks) (v : Visit) : HookResult :=
  match v.passage with
  | .allocate size extra out real => h.passAllocation v.site v.address size extra out real
  | .free handle status => h.passFree v.site v.address handle status
  | .query extra free total real => h.passQuery v.site v.address extra free total real

theorem Hooks.pass_eq_serve (h : Hooks) (vendor : Vendor) (address : Address) (call : HookCall) :
    h.pass vendor address call
      = h.serve ⟨call.site vendor, address, call.passage vendor, false⟩ := by
  cases call <;> rfl

namespace Concourse

/-- A call at the gate with nothing in between: one stage if it is denied, else two. -/
theorem run?_serve (h : Hooks) {v : Visit} (houtside : v.inside = false) :
    ∃ n, n ≤ 2 ∧ run? (List.replicate n (.proceed 0)) ⟨h, [v]⟩
      = some (⟨(h.serve v).hooks, []⟩, (h.serve v).signs) := by
  obtain ⟨site, address, passage, inside⟩ := v
  obtain rfl : inside = false := houtside
  cases passage with
  | allocate size extra out real =>
    cases hrequest : h.gate.request size with
    | error why =>
      refine ⟨1, by decide, ?_⟩
      simp [run?, History.run?, step?, Visit.proceed, Visit.enter, locked, Visit.allocating,
        hrequest, follow, Hooks.serve, Hooks.passAllocation, Gate.allocate, HookResult.signs]
    | ok admitted =>
      refine ⟨2, by decide, ?_⟩
      simp [run?, History.run?, step?, Visit.proceed, Visit.enter, Visit.leave, locked,
        Visit.allocating, hrequest, follow, Hooks.serve, Hooks.passAllocation, Gate.allocate,
        HookResult.signs, Hooks.withGate]
  | free handle status =>
    refine ⟨2, by decide, ?_⟩
    simp [run?, History.run?, step?, Visit.proceed, Visit.enter, Visit.leave, locked,
      Visit.allocating, follow, Hooks.serve, Hooks.passFree, Gate.release, HookResult.signs,
      Hooks.withGate]
  | query extra free total real =>
    refine ⟨2, by decide, ?_⟩
    cases hsuccess : site.vendor.isSuccess real.status with
    | true =>
      simp [run?, History.run?, step?, Visit.proceed, Visit.enter, Visit.leave, locked,
        Visit.allocating, follow, Hooks.serve, Hooks.passQuery, Gate.query, Gate.answerQuery,
        HookResult.signs, Hooks.withGate, hsuccess]
    | false =>
      simp [run?, History.run?, step?, Visit.proceed, Visit.enter, Visit.leave, locked,
        Visit.allocating, follow, Hooks.serve, Hooks.passQuery, Gate.query, Gate.answerQuery,
        HookResult.signs, Hooks.withGate, hsuccess]

/-- **A call with nothing in between is the call of the hook.** -/
theorem run?_call (h : Hooks) (resolver : Resolver) (vendor : Vendor) (call : HookCall) :
    ∃ n, n ≤ 2 ∧ run? (.arrive resolver vendor call :: List.replicate n (.proceed 0)) ⟨h, []⟩
      = some (⟨(h.call resolver vendor call).hooks, []⟩, (h.call resolver vendor call).signs) := by
  cases hrole : (h.family vendor).get? call.role with
  | none =>
    refine ⟨0, by decide, ?_⟩
    simp [run?, History.run?, step?, arrive, Hooks.call, hrole, Hooks.giveUp]
  | some binding =>
    cases hfound : (binding.resolve resolver).found with
    | none =>
      refine ⟨0, by decide, ?_⟩
      simp [run?, History.run?, step?, arrive, Hooks.call, hrole, hfound, Hooks.giveUp]
    | some address =>
      obtain ⟨n, hn, hrun⟩ := run?_serve
        (h.withFamily ((h.family vendor).set (binding.resolve resolver).binding call.role) vendor)
        (v := ⟨call.site vendor, address, call.passage vendor, false⟩) rfl
      rw [run?, ← Hooks.pass_eq_serve] at hrun
      refine ⟨n, hn, ?_⟩
      simp [run?, History.run?, step?, arrive, Hooks.call, hrole, hfound, hrun, HookResult.signs]

end Concourse

end DeviceQuota
