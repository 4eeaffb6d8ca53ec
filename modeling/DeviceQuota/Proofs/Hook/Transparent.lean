import DeviceQuota.Proofs.Hook.Call

/-!
# Hooks are transparent

A caller who reaches a runtime through a hook gets what the runtime gives: its own function is called
once, with the caller's own arguments, and its status and what it stores come back as they are. The
exceptions are those that hooks are there for: allocations that the gate denies, and the figures of a
memory query that succeeds.

* **`HookCall.forwarded`** — the call that each hook owes its runtime, hook by hook;
* **`Cell.Received`** — what a caller's variable holds when something may have been stored into it;
* **`HookResult.Allocates`**, **`HookResult.Frees`**, **`HookResult.Measures`** — what each kind of hook
  owes its caller, and **`HookResult.Transparent`**, what the hook of a call does;
* **`Hooks.transparent_pass`** — every call that is passed on;
* **`Hooks.call_transparent`** — every call whose function is found.
-/

namespace DeviceQuota

/-- The call of the runtime's own function, which was found at `address`. Only ACL's functions take a
policy or an attribute; managed memory is CUDA's. -/
def HookCall.forwarded (vendor : Vendor) (address : Address) : HookCall → RealCall
  | allocate size policy _ _ =>
    match vendor with
    | .cuda => ⟨address, "cudaMalloc", some size, 0⟩
    | .acl => ⟨address, "aclrtMalloc", some size, policy.toInt⟩
    | .hip => ⟨address, "hipMalloc", some size, 0⟩
  | allocateManaged size flags _ _ => ⟨address, "cudaMallocManaged", some size, flags.toNat⟩
  | free handle _ =>
    match vendor with
    | .cuda => ⟨address, "cudaFree", some handle, 0⟩
    | .acl => ⟨address, "aclrtFree", some handle, 0⟩
    | .hip => ⟨address, "hipFree", some handle, 0⟩
  | memInfo attr _ _ _ =>
    match vendor with
    | .cuda => ⟨address, "cudaMemGetInfo", none, 0⟩
    | .acl => ⟨address, "aclrtGetMemInfo", none, attr.toInt⟩
    | .hip => ⟨address, "hipMemGetInfo", none, 0⟩

/-- A caller's variable before and after a value was stored through its pointer, or after nothing was.
Through a null pointer nothing is stored. -/
structure Cell.Received (before : Cell) (stored : Option UInt64) (after : Cell) : Prop where
  isNull_eq : after.isNull = before.isNull
  value_eq : ∀ value, stored = some value → before.isNull = false → after.value = value
  unchanged : stored = none ∨ before.isNull = true → after = before

namespace HookResult

/-- What the hook of an allocation owes its caller, on the gate `g`. -/
structure Allocates (result : HookResult) (g : Gate) (vendor : Vendor) (size : Bytes) (out : Cell)
    (real : Granting) (forwarded : RealCall) : Prop where
  /-- The caller's variable holds what the runtime left in it. The size is charged under that value if
  the runtime succeeded, the variable is there and the value is not null; otherwise nothing is. -/
  admitted : ∀ admitted, g.request size = .ok admitted →
    result.realCalls = [forwarded] ∧ result.status = real.status ∧
      ∃ left : Cell, result.targets = .handle left ∧ out.Received real.stored left ∧
        if vendor.isSuccess real.status = true ∧ left.isNull = false ∧ left.value ≠ 0 then
          result.hooks.gate = admitted.withLedger (admitted.ledger.charge left.value size) ∧
            result.hooks.gate.ledger.tracked? left.value = some size
        else result.hooks.gate = g
  /-- A denied allocation does not reach the runtime, and leaves the caller's variable alone. -/
  denied : ∀ why, g.request size = .error why →
    result.realCalls = [] ∧ result.status = vendor.codes.outOfMemory ∧
      result.targets = .handle out ∧ result.hooks.gate = g.refuse

/-- What the hook of a release owes its caller, whether or not the handle is tracked. -/
structure Frees (result : HookResult) (g : Gate) (site : CallSite) (handle : Handle) (status : Status)
    (forwarded : RealCall) : Prop where
  realCalls_eq : result.realCalls = [forwarded]
  status_eq : result.status = status
  gate_eq : result.hooks.gate = g.released site handle

/-- What the hook of a memory query owes its caller. -/
structure Measures (result : HookResult) (g : Gate) (vendor : Vendor) (free total : Cell)
    (real : Measuring) (forwarded : RealCall) : Prop where
  realCalls_eq : result.realCalls = [forwarded]
  status_eq : result.status = real.status
  gate_eq : result.hooks.gate = g
  /-- The quota's figures are there whatever the runtime stored. -/
  success : vendor.isSuccess real.status = true →
    ∃ (left : Bytes) (freeAfter totalAfter : Cell), result.targets = .memory freeAfter totalAfter ∧
      left.toNat = g.limit.toNat - g.ledger.used.toNat ∧
      free.Received (some left) freeAfter ∧ total.Received (some g.limit) totalAfter
  /-- What the runtime stored is there. -/
  failure : vendor.isSuccess real.status = false →
    ∃ freeAfter totalAfter : Cell, result.targets = .memory freeAfter totalAfter ∧
      free.Received real.free freeAfter ∧ total.Received real.total totalAfter

/-- What a hook owes its caller. -/
def Transparent (result : HookResult) (g : Gate) (vendor : Vendor) (address : Address)
    (call : HookCall) : Prop :=
  match call with
  | .allocate size _ out real =>
    result.Allocates g vendor size out real (call.forwarded vendor address)
  | .allocateManaged size _ out real =>
    result.Allocates g .cuda size out real (call.forwarded vendor address)
  | .free handle status =>
    result.Frees g (call.site vendor) handle status (call.forwarded vendor address)
  | .memInfo _ free total real =>
    result.Measures g vendor free total real (call.forwarded vendor address)

/-- What a hook owes its caller does not depend on what it logs. -/
theorem Transparent.with_events {result : HookResult} {g : Gate} {vendor : Vendor}
    {address : Address} {call : HookCall} (h : result.Transparent g vendor address call)
    (events : List Event) :
    { result with events := events }.Transparent g vendor address call := by
  cases call with
  | allocate | allocateManaged => exact ⟨h.admitted, h.denied⟩
  | free => exact ⟨h.realCalls_eq, h.status_eq, h.gate_eq⟩
  | memInfo => exact ⟨h.realCalls_eq, h.status_eq, h.gate_eq, h.success, h.failure⟩

end HookResult

/-! ### The caller's variables -/

namespace Cell

theorem isNull_store (c : Cell) (value : UInt64) : (c.store value).isNull = c.isNull := by
  unfold store
  split <;> rfl

theorem isNull_store? (c : Cell) (value : Option UInt64) : (c.store? value).isNull = c.isNull := by
  cases value with
  | none => rfl
  | some value => exact c.isNull_store value

/-- **What is stored is there** afterwards, unless the pointer is null. -/
theorem received_store? (c : Cell) (stored : Option UInt64) : c.Received stored (c.store? stored) where
  isNull_eq := c.isNull_store? stored
  value_eq := by
    rintro value rfl hnull
    exact congrArg Cell.value (store_of_not_isNull value hnull)
  unchanged := by
    rintro (rfl | hnull)
    · exact c.store?_none
    · cases stored with
      | none => rfl
      | some value => exact store_of_isNull value hnull

/-- What was stored before does not matter. -/
theorem store_store? (c : Cell) (before : Option UInt64) (value : UInt64) :
    (c.store? before).store value = c.store value := by
  cases before with
  | none => rfl
  | some before =>
    show (c.store before).store value = c.store value
    cases hnull : c.isNull with
    | true => rw [store_of_isNull before hnull]
    | false =>
      rw [store_of_not_isNull before hnull, store_of_not_isNull value hnull,
        store_of_not_isNull value rfl]

/-- What is read is not null exactly if there is a variable, and its value is not null. -/
theorem load_ne_zero_iff (c : Cell) : (c.load != 0) = true ↔ c.isNull = false ∧ c.value ≠ 0 := by
  rw [load, bne_iff_ne]
  cases c.isNull <;> simp

theorem load_eq_value {c : Cell} (h : c.isNull = false) : c.load = c.value := by
  rw [load, h]
  rfl

end Cell

theorem Granting.granted_outcome_iff (real : Granting) (site : CallSite) (out : Cell) :
    (real.outcome site out).granted site.vendor = true ↔
      site.vendor.isSuccess real.status = true ∧ (out.store? real.stored).isNull = false ∧
        (out.store? real.stored).value ≠ 0 := by
  rw [granted_outcome, Bool.and_eq_true, Cell.load_ne_zero_iff]

namespace Hooks

/-! ### Each kind of hook -/

theorem allocates_of_passAllocation (h : Hooks) (site : CallSite) (address : Address) (size : Bytes)
    (extra : Int) (out : Cell) (real : Granting) :
    (h.passAllocation site address size extra out real).Allocates h.gate site.vendor size out real
      ⟨address, site.function, some size, extra⟩ where
  admitted := by
    intro admitted hpass
    rw [passAllocation_of_admitted site address extra out real hpass]
    refine ⟨rfl, rfl, _, rfl, out.received_store? real.stored, ?_⟩
    have hiff := real.granted_outcome_iff site out
    by_cases hcharged : site.vendor.isSuccess real.status = true ∧
        (out.store? real.stored).isNull = false ∧ (out.store? real.stored).value ≠ 0
    · have hgate : admitted.settled site size (real.outcome site out)
          = admitted.withLedger
              (admitted.ledger.charge (out.store? real.stored).value size) := by
        rw [Gate.settled, Ledger.fst_settle_of_granted _ _ (hiff.2 hcharged),
          Granting.handle_outcome out hcharged.1,
          Cell.load_eq_value hcharged.2.1]
      rw [if_pos hcharged]
      refine ⟨hgate, ?_⟩
      show (admitted.settled site size (real.outcome site out)).ledger.tracked? _ = some size
      rw [hgate]
      exact HandleMap.find?_insert_self _ _ _
    · have hnot : (real.outcome site out).granted site.vendor = false := by
        rw [← Bool.not_eq_true]
        exact fun hgranted => hcharged (hiff.1 hgranted)
      -- The slot that the request was promised is given back, and nothing else has changed.
      obtain ⟨l, hrequest, rfl⟩ := Gate.request_eq_ok_iff.1 hpass
      rw [if_neg hcharged]
      show (h.gate.withLedger l).settled site size (real.outcome site out) = h.gate
      rw [Gate.settled, Ledger.settle_of_not_granted _ _ hnot]
      show (h.gate.withLedger l).withLedger l.cancel = h.gate
      rw [Ledger.cancel_of_request hrequest]
      rfl
  denied := by
    intro why hdenied
    rw [passAllocation_of_denied site address extra out real hdenied]
    exact ⟨rfl, rfl, rfl, rfl⟩

theorem frees_of_passFree (h : Hooks) (site : CallSite) (address : Address) (handle : Handle)
    (status : Status) :
    (h.passFree site address handle status).Frees h.gate site handle status
      ⟨address, site.function, some handle, 0⟩ :=
  ⟨rfl, rfl, rfl⟩

theorem measures_of_passQuery (h : Hooks) (site : CallSite) (address : Address) (extra : Int)
    (free total : Cell) (real : Measuring) :
    (h.passQuery site address extra free total real).Measures h.gate site.vendor free total real
      ⟨address, site.function, none, extra⟩ := by
  cases hsuccess : site.vendor.isSuccess real.status with
  | true =>
    rw [passQuery_of_success site address extra free total hsuccess]
    refine ⟨rfl, (eq_of_beq hsuccess).symm, rfl, fun _ => ⟨h.gate.memInfo.free, _, _, rfl,
      Bytes.toNat_minus _ _, ?_, ?_⟩, fun hno => ?_⟩
    · rw [Cell.store_store?]
      exact free.received_store? (some _)
    · rw [Cell.store_store?]
      exact total.received_store? (some _)
    · rw [hsuccess] at hno
      cases hno
  | false =>
    rw [passQuery_of_failure site address extra free total hsuccess]
    refine ⟨rfl, rfl, rfl, fun hyes => ?_, fun _ => ⟨_, _, rfl, free.received_store? real.free,
      total.received_store? real.total⟩⟩
    rw [hsuccess] at hyes
    cases hyes

theorem transparent_pass (h : Hooks) (vendor : Vendor) (address : Address) (call : HookCall) :
    (h.pass vendor address call).Transparent h.gate vendor address call := by
  cases call with
  | allocate size policy out real =>
    cases vendor <;> exact h.allocates_of_passAllocation _ address size _ out real
  | allocateManaged size flags out real =>
    exact h.allocates_of_passAllocation ⟨.cuda, _⟩ address size _ out real
  | free handle status =>
    cases vendor <;> exact h.frees_of_passFree _ address handle status
  | memInfo attr free total real =>
    cases vendor <;> exact h.measures_of_passQuery _ address _ free total real

/-- **Hooks are transparent.** Whatever the gate has recorded, the caller passes and the runtime does:
a call whose function is found calls it once, with the caller's own arguments, unless it is an
allocation that the gate denies, and returns its status. An allocation leaves the caller's variable to
the runtime, and charges its size under the value that is there afterwards. A release always arrives.
A memory query that succeeds shows what is left of the quota, and the quota. -/
theorem call_transparent (h : Hooks) (resolver : Resolver) (vendor : Vendor) (call : HookCall)
    (binding : Binding) (address : Address)
    (hbinding : (h.family vendor).get? call.role = some binding)
    (hfound : (binding.resolve resolver).found = some address) :
    (h.call resolver vendor call).Transparent h.gate vendor address call := by
  obtain ⟨searched, hgate, hcall⟩ := call_of_found hbinding hfound
  rw [hcall, ← hgate]
  exact (searched.transparent_pass vendor address call).with_events _

/-- ACL grants half of a quota of 120 bytes; the policy is passed on to it. -/
def aclHalf : HookCall := .allocate 60 (-1) ⟨0, false⟩ ⟨0, some 16⟩

/-- HIP is asked how much memory is free. The caller does not ask for the total. -/
def hipLeft : HookCall := .memInfo 0 ⟨7, false⟩ ⟨8, true⟩ ⟨0, some 1000, some 2000⟩

/-- The hooks after `aclHalf`. -/
def halfFull : Hooks :=
  ((new ⟨120, .warn, .strict, some 2⟩ false).call (fun _ => some 4096) .acl aclHalf).hooks

/-- The allocation is charged under the handle that ACL stored, and HIP's caller is told what is left
of the quota in place of the 1000 bytes that HIP stored. -/
theorem call_transparent_halfFull :
    ((new ⟨120, .warn, .strict, some 2⟩ false).family .acl).get? aclHalf.role
        = some (.new "aclrtMalloc") ∧
      ((Binding.new "aclrtMalloc").resolve fun _ => some 4096).found = some 4096 ∧
      halfFull.gate.ledger.tracked? 16 = some 60 ∧
      (halfFull.family .hip).get? hipLeft.role = some (.new "hipMemGetInfo") ∧
      ((Binding.new "hipMemGetInfo").resolve fun _ => some 8192).found = some 8192 ∧
      ∃ free, (halfFull.call (fun _ => some 8192) .hip hipLeft).targets = .memory free ⟨8, true⟩ ∧
        free.value.toNat = 60 := by
  have hallocates : HookResult.Allocates
      ((new ⟨120, .warn, .strict, some 2⟩ false).call (fun _ => some 4096) .acl aclHalf)
      (.new ⟨120, .warn, .strict, some 2⟩) .acl 60 ⟨0, false⟩ ⟨0, some 16⟩
      ⟨4096, "aclrtMalloc", some 60, -1⟩ := call_transparent _ _ _ aclHalf _ _ rfl rfl
  obtain ⟨-, -, left, -, hleft, hcharged⟩ := hallocates.admitted _ rfl
  have hvalue : left.value = 16 := hleft.value_eq 16 rfl rfl
  rw [hvalue, if_pos ⟨rfl, hleft.isNull_eq, by decide⟩] at hcharged
  have hmeasures : HookResult.Measures (halfFull.call (fun _ => some 8192) .hip hipLeft)
      halfFull.gate .hip ⟨7, false⟩ ⟨8, true⟩ ⟨0, some 1000, some 2000⟩
      ⟨8192, "hipMemGetInfo", none, 0⟩ := call_transparent _ _ _ hipLeft _ _ rfl rfl
  obtain ⟨figure, free, total, htargets, hfigure, hfree, htotal⟩ := hmeasures.success rfl
  obtain rfl : total = ⟨8, true⟩ := htotal.unchanged (.inr rfl)
  refine ⟨rfl, rfl, hcharged.2, rfl, rfl, free, htargets, ?_⟩
  rw [hfree.value_eq figure rfl rfl, hfigure]
  decide

end Hooks

end DeviceQuota
