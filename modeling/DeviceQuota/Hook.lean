import DeviceQuota.Binding.Family
import DeviceQuota.Gate

/-!
# Hooks

A hook stands in front of a function of a runtime and has its parameters. It looks the function up,
passes the call through the gate, and calls the function with the arguments that it was given.
Results come back through pointers, which the caller may leave null.

* **`Cell`** — a caller's variable, and whether its address was passed;
* **`HookCall`** — a call of a hook, with what the runtime's function would do;
* **`Hooks`** — a gate with the bindings of all vendors;
* **`Hooks.call`** — the call of a hook, and **`HookResult`**, what it did.
-/

namespace DeviceQuota

/-- A variable of a caller that a function may store into. -/
structure Cell where
  value : UInt64
  /-- The caller passed null in place of its address. -/
  isNull : Bool
  deriving DecidableEq, Repr

namespace Cell

/-- A value stored through the pointer. A null pointer takes nothing. -/
def store (c : Cell) (value : UInt64) : Cell := if c.isNull then c else { c with value := value }

/-- A value stored through the pointer, if there is one to store. -/
def store? (c : Cell) (value : Option UInt64) : Cell :=
  match value with
  | some v => c.store v
  | none => c

/-- The value read through the pointer; zero through a null pointer. -/
def load (c : Cell) : UInt64 := if c.isNull then 0 else c.value

@[simp] theorem store?_none (c : Cell) : c.store? none = c := rfl

theorem store_of_isNull {c : Cell} (value : UInt64) (h : c.isNull = true) : c.store value = c := by
  simp [store, h]

theorem store_of_not_isNull {c : Cell} (value : UInt64) (h : c.isNull = false) :
    c.store value = ⟨value, false⟩ := by
  simp [store, h]

end Cell

/-- What a function of a runtime that allocates would do. -/
structure Granting where
  status : Status
  /-- The handle that it stores, if it stores one. -/
  stored : Option Handle
  deriving DecidableEq, Repr

/-- What a function of a runtime that reports memory would do. -/
structure Measuring where
  status : Status
  /-- The free memory that it stores, if it does. -/
  free : Option Bytes
  /-- The total memory that it stores, if it does. -/
  total : Option Bytes
  deriving DecidableEq, Repr

/-- A call of a hook. -/
inductive HookCall where
  /-- Device memory. ACL takes a policy as well. -/
  | allocate (size : Bytes) (policy : Int32) (out : Cell) (real : Granting)
  | allocateManaged (size : Bytes) (flags : UInt32) (out : Cell) (real : Granting)
  /-- Memory given back. -/
  | free (handle : Handle) (status : Status)
  /-- Memory left. ACL takes an attribute as well. -/
  | memInfo (attr : Int32) (free total : Cell) (real : Measuring)
  deriving DecidableEq, Repr

/-- A call of a runtime's own function, with the arguments that it received. -/
structure RealCall where
  /-- Where the function was found. -/
  address : Address
  function : String
  /-- The size or the handle, for functions that take one. -/
  argument : Option UInt64
  /-- The flags, policy or attribute; zero for functions that take none. -/
  extra : Int
  deriving DecidableEq, Repr

/-- The caller's variables after a call. -/
inductive Targets where
  | none
  | handle (out : Cell)
  | memory (free total : Cell)
  deriving DecidableEq, Repr

namespace HookCall

/-- What the hooked function is for. -/
def role : HookCall → Role
  | allocate .. => .allocate
  | allocateManaged .. => .allocateManaged
  | free .. => .free
  | memInfo .. => .memInfo

/-- The hooked function, when it is called as one of `vendor`'s. Managed memory is CUDA's whoever
asks. -/
def site (vendor : Vendor) : HookCall → CallSite
  | allocateManaged .. => ⟨.cuda, Vendor.cuda.symbol .allocateManaged⟩
  | call => ⟨vendor, vendor.symbol call.role⟩

/-- The caller's variables before the call. -/
def targets : HookCall → Targets
  | allocate _ _ out _ => .handle out
  | allocateManaged _ _ out _ => .handle out
  | free .. => .none
  | memInfo _ left all _ => .memory left all

end HookCall

/-- A gate with the bindings of all vendors. -/
structure Hooks where
  gate : Gate
  cuda : Family
  acl : Family
  hip : Family

/-- The end of a hook's call. -/
structure HookResult where
  /-- The status that the caller gets. -/
  status : Status
  targets : Targets
  /-- The calls of the runtime's own functions. -/
  realCalls : List RealCall
  events : List Event
  hooks : Hooks

namespace Hooks

/-- A fresh gate and bindings before any look-up; `managed` asks for managed memory. -/
def new (settings : Settings) (managed : Bool) : Hooks :=
  ⟨.new settings, .new .cuda managed, .new .acl managed, .new .hip managed⟩

/-- The bindings of a vendor. -/
def family (h : Hooks) : Vendor → Family
  | .cuda => h.cuda
  | .acl => h.acl
  | .hip => h.hip

/-- The hooks with other bindings of a vendor. -/
def withFamily (h : Hooks) (f : Family) : Vendor → Hooks
  | .cuda => { h with cuda := f }
  | .acl => { h with acl := f }
  | .hip => { h with hip := f }

/-- The hooks with another gate. -/
def withGate (h : Hooks) (g : Gate) : Hooks := { h with gate := g }

/-- All bindings, vendor by vendor. -/
def bindings (h : Hooks) : List Binding := Vendor.all.flatMap fun v => (h.family v).toList

@[simp] theorem gate_withFamily (h : Hooks) (f : Family) (v : Vendor) :
    (h.withFamily f v).gate = h.gate := by
  cases v <;> rfl

@[simp] theorem family_withFamily_self (h : Hooks) (f : Family) (v : Vendor) :
    (h.withFamily f v).family v = f := by
  cases v <;> rfl

@[simp] theorem gate_withGate (h : Hooks) (g : Gate) : (h.withGate g).gate = g := rfl

@[simp] theorem family_withGate (h : Hooks) (g : Gate) (v : Vendor) :
    (h.withGate g).family v = h.family v := by
  cases v <;> rfl

/-- An allocation whose function was found. The handle is read through the caller's pointer after
the function has returned, and only if it was successful. -/
def passAllocation (h : Hooks) (site : CallSite) (address : Address) (size : Bytes) (extra : Int)
    (out : Cell) (real : Granting) : HookResult :=
  let stored := out.store? real.stored
  let handle := if site.vendor.isSuccess real.status then stored.load else 0
  let reply := h.gate.allocate site size ⟨real.status, handle⟩
  { status := reply.answer
    targets := .handle (if reply.reached then stored else out)
    realCalls := if reply.reached then [⟨address, site.function, some size, extra⟩] else []
    events := reply.events
    hooks := h.withGate reply.gate }

/-- A release whose function was found. -/
def passFree (h : Hooks) (site : CallSite) (address : Address) (handle : Handle)
    (status : Status) : HookResult :=
  let reply := h.gate.release site handle status
  { status := reply.answer
    targets := .none
    realCalls := [⟨address, site.function, some handle, 0⟩]
    events := reply.events
    hooks := h.withGate reply.gate }

/-- A memory query whose function was found. Where it was successful, the quota's figures take the
place of what it stored. -/
def passQuery (h : Hooks) (site : CallSite) (address : Address) (extra : Int) (free total : Cell)
    (real : Measuring) : HookResult :=
  let reply := h.gate.query site real.status
  let free := free.store? real.free
  let total := total.store? real.total
  let result : HookResult :=
    { status := site.vendor.codes.success
      targets := .memory free total
      realCalls := [⟨address, site.function, none, extra⟩]
      events := reply.events
      hooks := h.withGate reply.gate }
  match reply.answer with
  | .ok info => { result with targets := .memory (free.store info.free) (total.store info.total) }
  | .error status => { result with status := status }

/-- What the runtime's function is given besides size, handle and pointers. Only ACL takes a policy
and an attribute. -/
def extraOf (vendor : Vendor) (extra : Int32) : Int :=
  match vendor with
  | .acl => extra.toInt
  | _ => 0

/-- A call whose function was found at `address`. -/
def pass (h : Hooks) (vendor : Vendor) (address : Address) (call : HookCall) : HookResult :=
  let site := call.site vendor
  match call with
  | .allocate size policy out real =>
    h.passAllocation site address size (extraOf vendor policy) out real
  | .allocateManaged size flags out real =>
    h.passAllocation site address size flags.toNat out real
  | .free handle status => h.passFree site address handle status
  | .memInfo attr free total real =>
    h.passQuery site address (extraOf vendor attr) free total real

/-- A call that was given up. -/
def giveUp (h : Hooks) (vendor : Vendor) (call : HookCall) (events : List Event) : HookResult :=
  { status := (call.site vendor).vendor.codes.invalidValue
    targets := call.targets
    realCalls := []
    events := events
    hooks := h }

/-- The call of a hook over the bindings of `vendor`. A family without such a function, and a
function that is not found, end the call with the code for an invalid argument; the gate is not
asked. -/
def call (h : Hooks) (resolver : Resolver) (vendor : Vendor) (call : HookCall) : HookResult :=
  match (h.family vendor).get? call.role with
  | none => h.giveUp vendor call []
  | some binding =>
    let search := binding.resolve resolver
    let searched := h.withFamily ((h.family vendor).set search.binding call.role) vendor
    match search.found with
    | none => searched.giveUp vendor call search.events
    | some address =>
      let result := searched.pass vendor address call
      { result with events := search.events ++ result.events }

/-- The counters stored through three pointers. -/
def storeStats (h : Hooks) (allocs frees failed : Cell) : Cell × Cell × Cell :=
  (allocs.store (UInt64.ofNat h.gate.ledger.allocs),
    frees.store (UInt64.ofNat h.gate.ledger.frees),
    failed.store (UInt64.ofNat h.gate.ledger.failed))

/-- A silent look-up of a vendor's functions. -/
def probe (h : Hooks) (resolver : Resolver) (vendor : Vendor) : Hooks :=
  h.withFamily ((h.family vendor).probe resolver) vendor

end Hooks

end DeviceQuota
