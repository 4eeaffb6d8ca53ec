import DeviceQuota.History
import DeviceQuota.Hook

/-!
# The runtimes behind the hooks

The hooks of all vendors charge one ledger. Behind the hooks each vendor has a runtime of its own,
which hands out addresses and takes them back, and which knows nothing of the other runtimes.

* **`Runtimes`** — the hooks, and what each runtime has handed out and not taken back;
* **`Runtimes.Action`** — the call of a vendor's hook, with what can be looked up at that moment;
* **`HookCall.grant?`**, **`HookCall.freed?`** — what a call got from its runtime or gave back to it;
* **`Runtimes.step?`** — one call. No call begins before the one before it has returned;
* **`Runtimes.GrantsFresh`**, **`Runtimes.GrantsApart`**, **`Runtimes.FreesOwned`** — what runtimes
  and callers owe.

The runtimes are not particular ones: each call carries what the runtime answers.
-/

namespace DeviceQuota

/-- The runtime's own function was called and succeeded. -/
def HookResult.succeeded (result : HookResult) (vendor : Vendor) : Bool :=
  !result.realCalls.isEmpty && vendor.isSuccess result.status

/-- What the caller's variable for a handle holds after a call; zero where there is none. -/
def HookResult.address (result : HookResult) : Handle :=
  match result.targets with
  | .handle out => out.load
  | _ => 0

namespace HookCall

/-- The vendor whose runtime a call is meant for. -/
def owner (call : HookCall) (vendor : Vendor) : Vendor := (call.site vendor).vendor

/-- The allocation that a call got from its runtime: the address, and the size that was asked for.
A success that leaves a null address hands out nothing. -/
def grant? (call : HookCall) (vendor : Vendor) (result : HookResult) : Option (Handle × Bytes) :=
  match call with
  | allocate size _ _ _ | allocateManaged size _ _ _ =>
    if result.succeeded (call.owner vendor) && result.address != 0 then some (result.address, size)
    else none
  | _ => none

/-- The address that a call gave back to its runtime. -/
def freed? (call : HookCall) (vendor : Vendor) (result : HookResult) : Option Handle :=
  match call with
  | free handle _ => if result.succeeded vendor then some handle else none
  | _ => none

end HookCall

/-- The hooks of all vendors, and the runtimes behind them. -/
structure Runtimes where
  hooks : Hooks
  /-- The addresses that a vendor's runtime handed out and did not take back, with their sizes. -/
  live : Vendor → HandleMap

namespace Runtimes

/-- The call of a hook of `vendor`. -/
structure Action where
  resolver : Resolver
  vendor : Vendor
  call : HookCall

/-- Fresh hooks in front of runtimes that handed out nothing. -/
def new (settings : Settings) (managed : Bool) : Runtimes := ⟨.new settings managed, fun _ => .empty⟩

/-- What the call of a hook does. -/
def result (r : Runtimes) (action : Action) : HookResult :=
  r.hooks.call action.resolver action.vendor action.call

/-- The allocation that a call gets from its runtime. -/
def grant? (r : Runtimes) (action : Action) : Option (Handle × Bytes) :=
  action.call.grant? action.vendor (r.result action)

/-- What the runtime of a call has handed out after the call. -/
def exchanged (r : Runtimes) (action : Action) : HandleMap :=
  let before := r.live (action.call.owner action.vendor)
  match r.grant? action, action.call.freed? action.vendor (r.result action) with
  | some (handle, size), _ => before.insert handle size
  | none, some handle => before.erase handle
  | none, none => before

/-- The runtimes after a call, and the events logged. -/
def step? (r : Runtimes) (action : Action) : Option (Runtimes × List Event) :=
  some
    ({ hooks := (r.result action).hooks
       live := fun v =>
        if v = action.call.owner action.vendor then r.exchanged action else r.live v },
      (r.result action).events)

/-- Everything that the runtimes handed out and did not take back, vendor by vendor. -/
def entries (r : Runtimes) : List (Handle × Bytes) := Vendor.all.flatMap fun v => (r.live v).entries

/-- The bytes of all live allocations of all vendors. -/
def total (r : Runtimes) : Nat := HandleMap.sumSizes r.entries

/-- A call in which the runtime hands out an address only if it has not handed it out already. -/
def GrantsFresh (r : Runtimes) (action : Action) : Prop :=
  ∀ grant ∈ r.grant? action, (r.live (action.call.owner action.vendor)).find? grant.1 = none

/-- A call in which the runtime hands out an address only if no runtime has handed it out already. -/
def GrantsApart (r : Runtimes) (action : Action) : Prop :=
  ∀ grant ∈ r.grant? action, ∀ v ∈ Vendor.all, (r.live v).find? grant.1 = none

/-- A call in which the caller frees a handle only if it is null or live with the same vendor, and
the runtime does not fail to free it. -/
def FreesOwned (r : Runtimes) (action : Action) : Prop :=
  match action.call with
  | .free handle status =>
    action.vendor.isSuccess status = true ∧
      (handle = 0 ∨ ((r.live action.vendor).find? handle).isSome = true)
  | _ => True

instance (r : Runtimes) (action : Action) : Decidable (r.GrantsFresh action) :=
  Option.decidableForallMem (r.grant? action)

instance (r : Runtimes) (action : Action) : Decidable (r.GrantsApart action) :=
  Option.decidableForallMem (r.grant? action)

instance (r : Runtimes) : DecidablePred r.FreesOwned
  | ⟨_, _, .free ..⟩ => inferInstanceAs (Decidable (_ ∧ _))
  | ⟨_, _, .allocate ..⟩ | ⟨_, _, .allocateManaged ..⟩ | ⟨_, _, .memInfo ..⟩ =>
    inferInstanceAs (Decidable True)

end Runtimes

end DeviceQuota
