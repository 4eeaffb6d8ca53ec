import DeviceQuota.Hook
import DeviceQuota.Proofs.Script.Run

/-!
# The call of a hook

The call of a hook is given up before the gate is asked, or its function was found and the call is
passed on. A call that is passed on does to the gate what the call of the gate does.

* **`Hooks.call_cases`** — given up or passed on; **`Hooks.call_of_found`** — passed on, where the
  function is found;
* **`Granting.outcome`** — what a hook reports to the gate when the runtime's function has returned;
* **`passAllocation_of_denied`**, **`passAllocation_of_admitted`**, **`gate_passFree`**,
  **`gate_passQuery`**, **`passQuery_of_success`**, **`passQuery_of_failure`** — a call that is passed
  on.
-/

namespace DeviceQuota

/-- What a hook reports to the gate: the status, and the handle that the caller's variable holds if
the runtime was successful. -/
def Granting.outcome (real : Granting) (site : CallSite) (out : Cell) : Outcome :=
  ⟨real.status, if site.vendor.isSuccess real.status then (out.store? real.stored).load else 0⟩

theorem Granting.granted_outcome (real : Granting) (site : CallSite) (out : Cell) :
    (real.outcome site out).granted site.vendor
      = (site.vendor.isSuccess real.status && (out.store? real.stored).load != 0) := by
  cases hsuccess : site.vendor.isSuccess real.status with
  | true => simp [outcome, Outcome.granted, hsuccess]
  | false => simp [outcome, Outcome.granted, hsuccess]

theorem Granting.handle_outcome {real : Granting} {site : CallSite} (out : Cell)
    (hsuccess : site.vendor.isSuccess real.status = true) :
    (real.outcome site out).handle = (out.store? real.stored).load := by
  simp [outcome, hsuccess]

namespace Hooks

/-- **A call is given up or passed on.** Looking a function up does not touch the gate. -/
theorem call_cases (h : Hooks) (resolver : Resolver) (vendor : Vendor) (call : HookCall) :
    (∃ (after : Hooks) (events : List Event), after.gate = h.gate ∧
      h.call resolver vendor call = after.giveUp vendor call events) ∨
    ∃ (found : Hooks) (address : Address) (events : List Event), found.gate = h.gate ∧
      h.call resolver vendor call =
        { found.pass vendor address call with
          events := events ++ (found.pass vendor address call).events } := by
  unfold Hooks.call
  split
  · exact .inl ⟨h, [], rfl, rfl⟩
  · next binding _ =>
    simp only
    split
    · exact .inl ⟨_, _, gate_withFamily .., rfl⟩
    · exact .inr ⟨_, _, _, gate_withFamily .., rfl⟩

variable {h : Hooks} {size : Bytes}

/-- A call whose function is found is passed on to it. -/
theorem call_of_found {resolver : Resolver} {vendor : Vendor} {call : HookCall} {binding : Binding}
    {address : Address} (hbinding : (h.family vendor).get? call.role = some binding)
    (hfound : (binding.resolve resolver).found = some address) :
    ∃ searched : Hooks, searched.gate = h.gate ∧
      h.call resolver vendor call =
        { searched.pass vendor address call with
          events := (binding.resolve resolver).events
            ++ (searched.pass vendor address call).events } := by
  unfold Hooks.call
  rw [hbinding]
  simp only [hfound]
  exact ⟨_, gate_withFamily .., rfl⟩

/-- An allocation that the gate denies does not reach the runtime. -/
theorem passAllocation_of_denied {why : Denial} (site : CallSite) (address : Address) (extra : Int)
    (out : Cell) (real : Granting) (hdenied : h.gate.request size = .error why) :
    h.passAllocation site address size extra out real =
      { status := (Refusal.denied why).status site.vendor
        targets := .handle out
        realCalls := []
        events := [.ofDenial site.function why]
        hooks := h.withGate h.gate.refuse } := by
  simp [passAllocation, Gate.allocate, hdenied]

/-- An allocation that the gate lets through reaches the runtime once and is settled. -/
theorem passAllocation_of_admitted {admitted : Gate} (site : CallSite) (address : Address)
    (extra : Int) (out : Cell) (real : Granting) (hpass : h.gate.request size = .ok admitted) :
    h.passAllocation site address size extra out real =
      { status := real.status
        targets := .handle (out.store? real.stored)
        realCalls := [⟨address, site.function, some size, extra⟩]
        events := (admitted.ledger.settle site size (real.outcome site out)).2
        hooks := h.withGate (admitted.settled site size (real.outcome site out)) } := by
  simp [passAllocation, Gate.allocate, hpass, Granting.outcome, Gate.settled]

theorem gate_passFree (h : Hooks) (site : CallSite) (address : Address) (handle : Handle)
    (status : Status) :
    (h.passFree site address handle status).hooks.gate = h.gate.released site handle := rfl

theorem gate_passQuery (h : Hooks) (site : CallSite) (address : Address) (extra : Int)
    (free total : Cell) (real : Measuring) :
    (h.passQuery site address extra free total real).hooks.gate = h.gate := by
  unfold passQuery
  simp only
  split <;> rfl

/-- Where the runtime is successful, the quota's figures take the place of its own. -/
theorem passQuery_of_success {real : Measuring} (site : CallSite) (address : Address) (extra : Int)
    (free total : Cell) (hsuccess : site.vendor.isSuccess real.status = true) :
    h.passQuery site address extra free total real =
      { status := site.vendor.codes.success
        targets := .memory ((free.store? real.free).store h.gate.memInfo.free)
          ((total.store? real.total).store h.gate.memInfo.total)
        realCalls := [⟨address, site.function, none, extra⟩]
        events := [.queried site.function h.gate.memInfo.free h.gate.memInfo.total]
        hooks := h.withGate h.gate } := by
  simp [passQuery, Gate.query, Gate.answerQuery, hsuccess]

theorem passQuery_of_failure {real : Measuring} (site : CallSite) (address : Address) (extra : Int)
    (free total : Cell) (hfailure : site.vendor.isSuccess real.status = false) :
    h.passQuery site address extra free total real =
      { status := real.status
        targets := .memory (free.store? real.free) (total.store? real.total)
        realCalls := [⟨address, site.function, none, extra⟩]
        events := []
        hooks := h.withGate h.gate } := by
  simp [passQuery, Gate.query, Gate.answerQuery, hfailure]

end Hooks

end DeviceQuota
