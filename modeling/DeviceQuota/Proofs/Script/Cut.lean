import DeviceQuota.Proofs.Script.Run

/-!
# Leaving calls out

A cut goes along with a script and says of every call whether it stays. A call that is left out may
leave the calls inside it behind, in its place, or take them with it.

* **`Script.Cut`**, **`Script.cut`** — what is left out, and the script that remains;
* **`Transcript.cut`** — the records of the calls that stay;
* **`Script.Harmless`** — a cut leaves out only calls that have no effect on the accounts, and denied
  allocations, which are counted.
-/

namespace DeviceQuota

namespace Script

/-- What a script does without, call by call. -/
inductive Cut where
  /-- The end of the script. -/
  | done
  /-- The call stays. -/
  | keep (inside later : Cut)
  /-- The call is left out; the calls inside it take its place. -/
  | lift (inside later : Cut)
  /-- The call is left out, and so are the calls inside it. -/
  | drop (later : Cut)
  deriving DecidableEq, Repr

/-- How many calls are dropped. -/
def Cut.drops : Cut → Nat
  | done => 0
  | keep inside later | lift inside later => inside.drops + later.drops
  | drop later => 1 + later.drops

/-- What remains of a script. -/
def cut : Script → Cut → Script
  | allocate site size real during next, .keep inside later =>
    allocate site size real (during.cut inside) (next.cut later)
  | release site handle status during next, .keep inside later =>
    release site handle status (during.cut inside) (next.cut later)
  | query site status during next, .keep inside later =>
    query site status (during.cut inside) (next.cut later)
  | allocate _ _ _ during next, .lift inside later
  | release _ _ _ during next, .lift inside later
  | query _ _ during next, .lift inside later => (during.cut inside).append (next.cut later)
  | allocate _ _ _ _ next, .drop later
  | release _ _ _ _ next, .drop later
  | query _ _ _ next, .drop later => next.cut later
  | read what next, .keep _ later => read what (next.cut later)
  | read _ next, .lift _ later
  | read _ next, .drop later => next.cut later
  | s, .done | s@done, _ => s

/-- No call of a script is an allocation. -/
def AllocationFree : Script → Prop
  | done => True
  | allocate .. => False
  | release _ _ _ during next | query _ _ during next =>
    during.AllocationFree ∧ next.AllocationFree
  | read _ next => next.AllocationFree

/-- The calls that a cut leaves out have no effect: memory queries; releases of the null handle, or
of a handle that is not tracked at that moment; allocations that the runtime does not grant, if there
is room for everybody or nobody else allocates in the meantime. Only denied allocations may be dropped
as well. Where a request is denied, the calls inside it never arrive. -/
inductive Harmless : Script → Cut → Bool → Gate → Prop where
  | done {locked : Bool} {g : Gate} : Harmless .done .done locked g
  | refusedKept {site : CallSite} {size : Bytes} {real : Outcome} {during next : Script}
      {later : Cut} {locked : Bool} {g : Gate} {why : Denial} (hdenied : g.request size = .error why)
      (hnext : Harmless next later false g.refuse) :
      Harmless (.allocate site size real during next) (.keep .done later) locked g
  | refusedDropped {site : CallSite} {size : Bytes} {real : Outcome} {during next : Script}
      {later : Cut} {locked : Bool} {g : Gate} {why : Denial} (hdenied : g.request size = .error why)
      (hnext : Harmless next later false g.refuse) :
      Harmless (.allocate site size real during next) (.drop later) locked g
  | settledKept {site : CallSite} {size : Bytes} {real : Outcome} {during next : Script}
      {inside later : Cut} {locked : Bool} {g admitted granted : Gate}
      (hpass : g.request size = .ok admitted)
      (hduring : Harmless during inside g.mode.holdsLock admitted)
      (hend : during.end? g.mode.holdsLock admitted = some granted)
      (hnext : Harmless next later false (granted.settled site size real)) :
      Harmless (.allocate site size real during next) (.keep inside later) locked g
  | settledLifted {site : CallSite} {size : Bytes} {real : Outcome} {during next : Script}
      {inside later : Cut} {locked : Bool} {g admitted granted : Gate}
      (hpass : g.request size = .ok admitted) (hfailed : real.granted site.vendor = false)
      (halone : g.ledger.table.capacity = none ∨ during.AllocationFree)
      (hduring : Harmless during inside g.mode.holdsLock admitted)
      (hend : during.end? g.mode.holdsLock admitted = some granted)
      (hnext : Harmless next later false (granted.settled site size real)) :
      Harmless (.allocate site size real during next) (.lift inside later) locked g
  | releasedKept {site : CallSite} {handle : Handle} {status : Status} {during next : Script}
      {inside later : Cut} {locked : Bool} {g freed : Gate}
      (hduring : Harmless during inside locked (g.released site handle))
      (hend : during.end? locked (g.released site handle) = some freed)
      (hnext : Harmless next later locked freed) :
      Harmless (.release site handle status during next) (.keep inside later) locked g
  | releasedLifted {site : CallSite} {handle : Handle} {status : Status} {during next : Script}
      {inside later : Cut} {locked : Bool} {g freed : Gate}
      (habsent : handle = 0 ∨ g.ledger.tracked? handle = none)
      (hduring : Harmless during inside locked g) (hend : during.end? locked g = some freed)
      (hnext : Harmless next later locked freed) :
      Harmless (.release site handle status during next) (.lift inside later) locked g
  | queriedKept {site : CallSite} {status : Status} {during next : Script} {inside later : Cut}
      {locked : Bool} {g queried : Gate} (hduring : Harmless during inside locked g)
      (hend : during.end? locked g = some queried) (hnext : Harmless next later locked queried) :
      Harmless (.query site status during next) (.keep inside later) locked g
  | queriedLifted {site : CallSite} {status : Status} {during next : Script} {inside later : Cut}
      {locked : Bool} {g queried : Gate} (hduring : Harmless during inside locked g)
      (hend : during.end? locked g = some queried) (hnext : Harmless next later locked queried) :
      Harmless (.query site status during next) (.lift inside later) locked g
  | readKept {what : Reading} {next : Script} {later : Cut} {locked : Bool} {g : Gate}
      (hnext : Harmless next later false g) :
      Harmless (.read what next) (.keep .done later) locked g

end Script

/-! ### The records of the calls that stay -/

/-- The figures without `dropped` of the denials. -/
def Snapshot.lessFailed (figures : Snapshot) (dropped : Nat) : Snapshot :=
  { figures with failed := figures.failed - dropped }

def View.lessFailed (view : View) (dropped : Nat) : View :=
  match view with
  | .overview all => .overview { all with figures := all.figures.lessFailed dropped }
  | .memory info => .memory info
  | .tracked size => .tracked size

def Record.lessFailed (record : Record) (dropped : Nat) : Record :=
  { record with figures := record.figures.lessFailed dropped }

namespace Transcript

/-- Two transcripts one after the other. -/
def append : Transcript → Transcript → Transcript
  | done, t => t
  | call record during next, t => call record during (next.append t)
  | read view figures next, t => read view figures (next.append t)

/-- What remains of a transcript after `dropped` denials were dropped: records as they are, with the
denials taken off that were dropped before them. -/
def cut : Transcript → Script.Cut → Nat → Transcript
  | call record during next, .keep inside later, dropped =>
    call (record.lessFailed (dropped + inside.drops)) (during.cut inside dropped)
      (next.cut later (dropped + inside.drops))
  | call _ during next, .lift inside later, dropped =>
    (during.cut inside dropped).append (next.cut later (dropped + inside.drops))
  | call _ _ next, .drop later, dropped => next.cut later (dropped + 1)
  | read view figures next, .keep _ later, dropped =>
    read (view.lessFailed dropped) (figures.lessFailed dropped) (next.cut later dropped)
  | t, _, _ => t

end Transcript

namespace Script

variable {threshold : LogLevel} {s u : Script} {locked : Bool} {g mid last : Gate}
  {first second transcript : Transcript}

/-- **One script after the other** runs as the two do in turn. -/
theorem Runs.append (h : s.Runs threshold locked g first mid)
    (hthen : u.Runs threshold locked mid second last) :
    (s.append u).Runs threshold locked g (first.append second) last := by
  induction h with
  | done => exact hthen
  | refused hdenied _ hnext => exact .refused hdenied (hnext hthen)
  | admitted hpass hduring _ _ hnext => exact .admitted hpass hduring (hnext hthen)
  | released hfree hduring _ _ hnext => exact .released hfree hduring (hnext hthen)
  | queried hduring hfree _ _ hnext => exact .queried hduring hfree (hnext hthen)
  | read _ hnext => exact .read (hnext hthen)

end Script

end DeviceQuota
