import DeviceQuota.Gate

/-!
# Calls within calls

While the runtime works on one call, other calls may arrive. A script says which: it is a sequence
of calls, and each call carries the script that runs inside it before the runtime returns.

* **`Script`** — calls, each with the script inside it and the script after it;
* **`Transcript`** — the answers, arranged like the calls;
* **`Script.run`** — a script on a gate. In strict mode the ledger stays locked while the runtime
  allocates, so a call that needs it in the meantime waits for ever: the run then has no end, which
  is `none`.
-/

namespace DeviceQuota

/-- A look at a gate that is not a call. -/
inductive Reading where
  /-- The memory that callers are told about. -/
  | memory
  /-- The size that a handle is charged with. -/
  | tracked (handle : Handle)
  | overview
  deriving DecidableEq, Repr

/-- The figures of a gate. -/
structure Overview where
  mode : AdmissionMode
  capacity : Option Nat
  figures : Snapshot
  deriving DecidableEq, Repr

/-- What a look at a gate shows. -/
inductive View where
  | memory (info : MemInfo)
  | tracked (size : Option Bytes)
  | overview (all : Overview)
  deriving DecidableEq, Repr

/-- A look at a gate. -/
def Gate.view (g : Gate) : Reading → View
  | .memory => .memory g.memInfo
  | .tracked handle => .tracked (g.ledger.tracked? handle)
  | .overview => .overview ⟨g.mode, g.ledger.table.capacity, g.snapshot⟩

/-- Calls in the order in which they arrive. Each has what the runtime answers, the calls that
arrive while the runtime works (`during`), and the calls that come later (`next`). -/
inductive Script where
  | done
  | allocate (site : CallSite) (size : Bytes) (real : Outcome) (during next : Script)
  | release (site : CallSite) (handle : Handle) (status : Status) (during next : Script)
  | query (site : CallSite) (status : Status) (during next : Script)
  | read (what : Reading) (next : Script)
  deriving DecidableEq, Repr, Inhabited

/-- The answer to a call. -/
inductive Answer where
  /-- The status of an allocation or a release. -/
  | status (code : Status)
  /-- The answer to a memory query. -/
  | memory (info : Except Status MemInfo)

/-- The record of a call. -/
structure Record where
  answer : Answer
  /-- The runtime's own function was called. -/
  reached : Bool
  /-- The events logged before the runtime's function was called. -/
  before : List Event
  /-- The events logged after it returned, or in its place. -/
  after : List Event
  figures : Snapshot

/-- The records of calls, arranged like the calls. -/
inductive Transcript where
  | done
  | call (record : Record) (during next : Transcript)
  | read (view : View) (figures : Snapshot) (next : Transcript)

/-- The events of a transcript in the order in which they were logged. -/
def Transcript.log : Transcript → List Event
  | done => []
  | call record during next => record.before ++ during.log ++ record.after ++ next.log
  | read _ _ next => next.log

/-- A script on a gate, logged at a threshold; `locked` says that the ledger is held by an
allocation around it. The transcript and the gate at the end, or `none` where a call waits for a
lock that is never given back. -/
def Script.run (threshold : LogLevel) : Script → Bool → Gate → Option (Transcript × Gate)
  | .done, _, g => some (.done, g)
  | .allocate site size real during next, locked, g =>
    if locked then none
    else
      match g.request size with
      | .error why =>
        let record : Record :=
          { answer := .status ((Refusal.denied why).status site.vendor)
            reached := false
            before := []
            after := Event.shown threshold [.ofDenial site.function why]
            figures := g.refuse.snapshot }
        (next.run threshold locked g.refuse).map fun (rest, last) =>
          (.call record .done rest, last)
      | .ok admitted =>
        (during.run threshold g.mode.holdsLock admitted).bind fun (inner, granted) =>
          let (settled, events) := granted.ledger.settle site size real
          let after := granted.withLedger settled
          let record : Record :=
            { answer := .status real.status
              reached := true
              before := []
              after := Event.shown threshold events
              figures := after.snapshot }
          (next.run threshold locked after).map fun (rest, last) =>
            (.call record inner rest, last)
  | .release site handle status during next, locked, g =>
    if locked && handle != 0 then none
    else
      let (released, events) := g.ledger.release site handle
      (during.run threshold locked (g.withLedger released)).bind fun (inner, freed) =>
        let record : Record :=
          { answer := .status status
            reached := true
            before := Event.shown threshold events
            after := []
            figures := freed.snapshot }
        (next.run threshold locked freed).map fun (rest, last) =>
          (.call record inner rest, last)
  | .query site status during next, locked, g =>
    (during.run threshold locked g).bind fun (inner, queried) =>
      if locked && site.vendor.isSuccess status then none
      else
        let (info, events) := queried.answerQuery site status
        let record : Record :=
          { answer := .memory info
            reached := true
            before := []
            after := Event.shown threshold events
            figures := queried.snapshot }
        (next.run threshold locked queried).map fun (rest, last) =>
          (.call record inner rest, last)
  | .read what next, locked, g =>
    if locked then none
    else
      (next.run threshold locked g).map fun (rest, last) =>
        (.read (g.view what) g.snapshot rest, last)

namespace Script

/-- Two scripts one after the other. -/
def append : Script → Script → Script
  | done, s => s
  | allocate site size real during next, s => allocate site size real during (next.append s)
  | release site handle status during next, s => release site handle status during (next.append s)
  | query site status during next, s => query site status during (next.append s)
  | read what next, s => read what (next.append s)

/-- No call arrives while the runtime allocates. -/
def AllocatesAlone : Script → Prop
  | done => True
  | allocate _ _ _ during next => during = done ∧ next.AllocatesAlone
  | release _ _ _ during next => during.AllocatesAlone ∧ next.AllocatesAlone
  | query _ _ during next => during.AllocatesAlone ∧ next.AllocatesAlone
  | read _ next => next.AllocatesAlone

/-- The script of nothing changes nothing. -/
@[simp] theorem run_done (threshold : LogLevel) (locked : Bool) (g : Gate) :
    done.run threshold locked g = some (.done, g) := rfl

end Script

end DeviceQuota
