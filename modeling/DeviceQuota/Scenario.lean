import DeviceQuota.Device
import DeviceQuota.Gate

/-!
# Scenarios

A scenario drives a fresh gate in front of a simulated device and records every call. There are
three: one allocation is refused until another is released; allocations of one size go on until one
is refused, and are then released; several callers allocate four times each. If the device breaks off
an allocation, the scenario ends there, without a report.

* **`Rig`** — a gate and the device behind it, with the three calls;
* **`Scenario`** — the scenarios, and **`Scenario.run`**, what a run of one reports;
* **`Scenario.Params`**, **`Scenario.Problem`** — parameters, and why a run reports nothing.
-/

namespace DeviceQuota

/-- What a step of a scenario was. -/
inductive StepKind where
  | allocate | free | memInfo
  deriving DecidableEq, Repr

/-- A step of a scenario. -/
structure Step where
  kind : StepKind
  /-- The size asked for or released, or the free memory reported. -/
  size : Bytes
  status : Status
  handle : Handle
  /-- The bytes charged after the step. -/
  usedAfter : Bytes
  deriving DecidableEq, Repr

/-- A computation whose first part is done. -/
@[simp] theorem ok_bind {ε α β : Type} (a : α) (f : α → Except ε β) :
    (Except.ok a >>= f) = f a := rfl

/-- A computation in two parts that ends well. -/
theorem exists_of_bind_eq_ok {ε α β : Type} {x : Except ε α} {f : α → Except ε β} {result : β}
    (h : x >>= f = .ok result) : ∃ a, x = .ok a ∧ f a = .ok result := by
  cases x with
  | error why => contradiction
  | ok a => exact ⟨a, rfl, h⟩

/-- A gate and the device behind it. -/
structure Rig where
  gate : Gate
  device : Device

namespace Rig

/-- The function that allocations are made through. -/
def mallocSite : CallSite := ⟨.cuda, "cudaMalloc"⟩

/-- The function that releases are made through. -/
def freeSite : CallSite := ⟨.cuda, "cudaFree"⟩

/-- The function that memory is queried through. -/
def memInfoSite : CallSite := ⟨.cuda, "cudaMemGetInfo"⟩

/-- A fresh gate in front of a device without a bound of its own. -/
def new (limit : Bytes) (mode : AdmissionMode) : Rig where
  gate := .new { Settings.standard with limit := limit, mode := mode }
  device := .new (Bytes.clamp Bytes.greatest)

/-- The device's part in an allocation: its result, and the device afterwards. The device is asked
only if the gate lets the request through; the caller's handle is null until then. -/
def ask (rig : Rig) (size : Bytes) : Except Device.Panic (Outcome × Device) :=
  match rig.gate.request size with
  | .error _ => .ok (⟨Device.success, 0⟩, rig.device)
  | .ok _ =>
    match rig.device.malloc size with
    | (.ok real, asked) => .ok (real, asked)
    | (.error why, _) => .error why

/-- An allocation of `size` bytes. -/
def allocate (rig : Rig) (size : Bytes) : Except Device.Panic (Step × Rig) := do
  let (real, device) ← rig.ask size
  let reply := rig.gate.allocate mallocSite size real
  let granted := if reply.answer = 0 then real.handle else 0
  .ok (⟨.allocate, size, reply.answer, granted, reply.gate.ledger.used⟩, ⟨reply.gate, device⟩)

/-- A release of `handle`. -/
def free (rig : Rig) (handle : Handle) : Step × Rig :=
  let size := (rig.gate.ledger.tracked? handle).getD 0
  let (status, freed) := rig.device.free handle
  let reply := rig.gate.release freeSite handle status
  (⟨.free, size, reply.answer, handle, reply.gate.ledger.used⟩, ⟨reply.gate, freed⟩)

/-- A memory query. -/
def memInfo (rig : Rig) : Step × Rig :=
  let reply := rig.gate.query memInfoSite Device.memInfo
  let (status, free) := match reply.answer with
    | .ok info => (Device.success, info.free)
    | .error status => (status, 0)
  (⟨.memInfo, free, status, 0, reply.gate.ledger.used⟩, ⟨reply.gate, rig.device⟩)

/-- `count` allocations of `size` bytes. -/
def allocateMany (size : Bytes) : Nat → Rig → Except Device.Panic (List Step × Rig)
  | 0, rig => .ok ([], rig)
  | count + 1, rig => do
    let (step, after) ← rig.allocate size
    let (steps, last) ← allocateMany size count after
    .ok (step :: steps, last)

/-- Releases of `handles`, one after the other. -/
def freeMany : List Handle → Rig → List Step × Rig
  | [], rig => ([], rig)
  | handle :: handles, rig =>
    let (step, after) := rig.free handle
    let (steps, last) := freeMany handles after
    (step :: steps, last)

/-- Allocations of `size` bytes up to the first that is refused; `none` if the first `tries` are
all granted. -/
def fill (size : Bytes) : Nat → Rig → Except Device.Panic (Option (List Step × Rig))
  | 0, _ => .ok none
  | tries + 1, rig => do
    let (step, after) ← rig.allocate size
    if step.status = 0 then
      let rest ← fill size tries after
      .ok (rest.map fun (steps, last) => (step :: steps, last))
    else .ok (some ([step], after))

/-- An allocation that passes the gate is answered by the device. -/
theorem allocate_of_passed {rig : Rig} {size : Bytes} {gate : Gate} {real : Outcome}
    {asked : Device} (hpass : rig.gate.request size = .ok gate)
    (hreal : rig.device.malloc size = (.ok real, asked)) :
    let after : Rig := ⟨gate.withLedger (gate.ledger.settle mallocSite size real).1, asked⟩
    rig.allocate size = .ok (⟨.allocate, size, real.status,
      if real.status = 0 then real.handle else 0, after.gate.ledger.used⟩, after) := by
  have hask : rig.ask size = .ok (real, asked) := by simp only [ask, hpass, hreal]
  simp only [allocate, hask, ok_bind, Gate.allocate, hpass]

/-- An allocation that does not pass the gate is refused. -/
theorem allocate_of_denied {rig : Rig} {size : Bytes} {why : Denial}
    (hdenied : rig.gate.request size = .error why) :
    rig.allocate size = .ok (⟨.allocate, size, 2, 0, rig.gate.refuse.ledger.used⟩,
      ⟨rig.gate.refuse, rig.device⟩) := by
  have hask : rig.ask size = .ok (⟨Device.success, 0⟩, rig.device) := by simp only [ask, hdenied]
  simp only [allocate, hask, Gate.allocate, hdenied]
  rfl

/-- An allocation that passes the gate breaks off with the device. -/
theorem allocate_of_broken {rig : Rig} {size : Bytes} {gate : Gate} {why : Device.Panic}
    {asked : Device} (hpass : rig.gate.request size = .ok gate)
    (hbroken : rig.device.malloc size = (.error why, asked)) : rig.allocate size = .error why := by
  have hask : rig.ask size = .error why := by simp only [ask, hpass, hbroken]
  simp only [allocate, hask]
  rfl

/-- The first of several allocations. -/
theorem allocateMany_of_ok {size : Bytes} {count : Nat} {rig after last : Rig} {step : Step}
    {steps : List Step} (hfirst : rig.allocate size = .ok (step, after))
    (hrest : allocateMany size count after = .ok (steps, last)) :
    allocateMany size (count + 1) rig = .ok (step :: steps, last) := by
  simp only [allocateMany, hfirst, ok_bind, hrest]

theorem exists_of_allocateMany_succ {size : Bytes} {count : Nat} {rig last : Rig}
    {steps : List Step} (h : allocateMany size (count + 1) rig = .ok (steps, last)) :
    ∃ step after rest, rig.allocate size = .ok (step, after) ∧
      allocateMany size count after = .ok (rest, last) ∧ steps = step :: rest := by
  obtain ⟨⟨step, after⟩, hfirst, hlater⟩ := exists_of_bind_eq_ok h
  obtain ⟨⟨rest, last⟩, hrest, hend⟩ := exists_of_bind_eq_ok hlater
  obtain ⟨rfl, rfl⟩ := Prod.mk.inj (Except.ok.inj hend)
  exact ⟨step, after, rest, hfirst, hrest, rfl⟩

/-- Allocations in two parts. -/
theorem exists_of_allocateMany_add {size : Bytes} {m n : Nat} {rig last : Rig} {steps : List Step}
    (h : allocateMany size (m + n) rig = .ok (steps, last)) :
    ∃ first between rest, allocateMany size m rig = .ok (first, between) ∧
      allocateMany size n between = .ok (rest, last) ∧ steps = first ++ rest := by
  induction m generalizing rig steps with
  | zero =>
    rw [Nat.zero_add] at h
    exact ⟨[], rig, steps, rfl, h, rfl⟩
  | succ m ih =>
    rw [Nat.succ_add] at h
    obtain ⟨step, after, later, hstep, hlater, rfl⟩ := exists_of_allocateMany_succ h
    obtain ⟨first, between, rest, hfirst, hrest, rfl⟩ := ih hlater
    exact ⟨step :: first, between, rest, allocateMany_of_ok hstep hfirst, hrest, rfl⟩

/-- Each allocation is recorded. -/
theorem length_of_allocateMany {size : Bytes} {count : Nat} {rig last : Rig} {steps : List Step}
    (h : allocateMany size count rig = .ok (steps, last)) : steps.length = count := by
  induction count generalizing rig steps with
  | zero =>
    obtain ⟨rfl, -⟩ := Prod.mk.inj (Except.ok.inj h)
    rfl
  | succ count ih =>
    obtain ⟨step, after, rest, -, hrest, rfl⟩ := exists_of_allocateMany_succ h
    exact congrArg (· + 1) (ih hrest)

end Rig

/-- The scenarios. -/
inductive Scenario where
  /-- Refused, released, granted. -/
  | quotaCycle
  /-- Allocations up to the first refusal. -/
  | fillThenDeny
  | burst
  deriving DecidableEq, Repr

namespace Scenario

/-- All scenarios. -/
def all : List Scenario := [quotaCycle, fillThenDeny, burst]

/-- The name of a scenario. -/
def name : Scenario → String
  | quotaCycle => "quota-cycle"
  | fillThenDeny => "fill-then-deny"
  | burst => "burst"

/-- The scenario of a name. -/
def ofName? (s : String) : Option Scenario := all.find? fun scenario => scenario.name == s

theorem ofName?_name (scenario : Scenario) : ofName? scenario.name = some scenario := by
  cases scenario <;> decide

/-- The parameters of a run. -/
structure Params where
  limit : Bytes
  mode : AdmissionMode
  /-- The number of callers of a burst. -/
  threads : Nat
  /-- The size of allocations of one size. -/
  size : Bytes
  deriving DecidableEq, Repr

/-- The parameters where none are given: 1 GiB, eight callers, 50 MiB. -/
def Params.standard : Params := ⟨1073741824, .standard, 8, 52428800⟩

/-- Why a run reports nothing: something is wrong with its parameters, or the device broke off. -/
inductive Problem where
  /-- Allocations of no bytes never fill a quota. -/
  | zeroSize
  /-- The quota takes too many allocations of this size. -/
  | tooSmall
  /-- There is nobody to make a burst. -/
  | noThreads
  /-- An allocation broke off, and the run with it. -/
  | brokeOff (why : Device.Panic)
  /-- An allocation of a caller of a burst broke off. -/
  | callerBrokeOff
  deriving DecidableEq, Repr

/-- The most allocations that are made to fill a quota. -/
def fillTries : Nat := 4096

/-- The number of allocations that each caller of a burst makes. -/
def burstPerThread : Nat := 4

/-- The wording of a problem. -/
def Problem.message : Problem → String
  | zeroSize => "fill-then-deny needs a non-zero --size"
  | tooSmall =>
    "--size too small: quota not exhausted after " ++ toString fillTries ++ " allocations"
  | noThreads => "burst needs at least one thread"
  | brokeOff why => why.message
  | callerBrokeOff => "burst worker panicked"

/-- What a run reports. -/
structure Report where
  scenario : Scenario
  mode : AdmissionMode
  steps : List Step
  /-- The figures of the ledger at the end. -/
  snapshot : Snapshot
  /-- The most bytes that the device ever held. -/
  highWater : Bytes
  /-- The device held more than the quota at some time. -/
  limitExceeded : Bool
  /-- Ledger and device agree at the end. -/
  conserved : Bool
  deriving DecidableEq, Repr

/-- `numerator` parts of 1024 of the quota. -/
def fractionOf (limit : Bytes) (numerator : Nat) : Bytes :=
  Bytes.clamp (limit.toNat * numerator / 1024)

/-- The report of steps that ended at `rig`. -/
def finish (scenario : Scenario) (steps : List Step) (rig : Rig) : Report where
  scenario := scenario
  mode := rig.gate.mode
  steps := steps
  snapshot := rig.gate.snapshot
  highWater := rig.device.highWater
  limitExceeded := decide (rig.gate.limit.toNat < rig.device.highWater.toNat)
  conserved := rig.gate.ledger.used == rig.device.outstanding

/-- Two allocations that together exceed the quota; the first is released before the second is
tried again. -/
def runQuotaCycle (rig : Rig) : Except Device.Panic (List Step × Rig) := do
  let smaller := fractionOf rig.gate.limit 500
  let greater := fractionOf rig.gate.limit 600
  let (held, rig) ← rig.allocate smaller
  let (second, rig) ← rig.allocate greater
  let (before, rig) := rig.memInfo
  let (released, rig) := if held.status = 0 then Rig.freeMany [held.handle] rig else ([], rig)
  let (again, rig) ← rig.allocate greater
  let (after, rig) := rig.memInfo
  .ok ([held, second, before] ++ released ++ [again, after], rig)

/-- The handles that steps were granted. -/
def grantedHandles (steps : List Step) : List Handle :=
  (steps.filter fun step => step.status == 0).map Step.handle

/-- Allocations of `size` bytes up to the first that is refused, and their release. -/
def runFillThenDeny (size : Bytes) (rig : Rig) : Except Device.Panic (Option (List Step × Rig)) := do
  let filling ← Rig.fill size fillTries rig
  .ok (filling.map fun (filled, full) =>
    let (emptied, last) := Rig.freeMany (grantedHandles filled) full
    (filled ++ emptied, last))

/-- A run of a scenario. The callers of a burst are served one after the other. -/
def run (scenario : Scenario) (params : Params) : Except Problem Report :=
  let rig := Rig.new params.limit params.mode
  match scenario with
  | quotaCycle =>
    match runQuotaCycle rig with
    | .ok (steps, last) => .ok (finish quotaCycle steps last)
    | .error why => .error (.brokeOff why)
  | fillThenDeny =>
    if params.size = 0 then .error .zeroSize
    else
      match runFillThenDeny params.size rig with
      | .ok (some (steps, last)) => .ok (finish fillThenDeny steps last)
      | .ok none => .error .tooSmall
      | .error why => .error (.brokeOff why)
  | burst =>
    if params.threads = 0 then .error .noThreads
    else
      match Rig.allocateMany params.size (burstPerThread * params.threads) rig with
      | .ok (steps, last) => .ok (finish burst steps last)
      | .error _ => .error .callerBrokeOff

end Scenario

end DeviceQuota
