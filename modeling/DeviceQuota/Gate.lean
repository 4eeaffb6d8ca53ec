import DeviceQuota.Ledger
import DeviceQuota.Settings

/-!
# The gate

A gate is a ledger with its quota and its admission mode. Three calls pass through it: allocations,
releases and memory queries. Here each is a whole, with nothing else happening while the runtime
works; calls that overlap are the subject of `Script`.

* **`Gate`** — quota, mode and ledger;
* **`Gate.allocate`**, **`Gate.release`**, **`Gate.query`** — the three calls;
* **`Reply`** — what a call answers, whether it reached the runtime, and what it logged.
-/

namespace DeviceQuota

/-- A ledger with its quota and its admission mode. -/
structure Gate where
  limit : Bytes
  mode : AdmissionMode
  ledger : Ledger

/-- The end of a call. -/
structure Reply (α : Type) where
  answer : α
  /-- The runtime's own function was called. -/
  reached : Bool
  /-- The events in the order in which they were logged. -/
  events : List Event
  gate : Gate

namespace Gate

/-- A fresh gate. -/
def new (settings : Settings) : Gate :=
  ⟨settings.limit, settings.mode, .new settings.capacity⟩

/-- The figures of the ledger. -/
def snapshot (g : Gate) : Snapshot := g.ledger.snapshot g.limit

/-- The memory that callers are told about. -/
def memInfo (g : Gate) : MemInfo := g.ledger.memInfo g.limit

/-- The gate with another ledger. -/
def withLedger (g : Gate) (l : Ledger) : Gate := { g with ledger := l }

@[simp] theorem limit_withLedger (g : Gate) (l : Ledger) : (g.withLedger l).limit = g.limit := rfl

@[simp] theorem mode_withLedger (g : Gate) (l : Ledger) : (g.withLedger l).mode = g.mode := rfl

@[simp] theorem ledger_withLedger (g : Gate) (l : Ledger) : (g.withLedger l).ledger = l := rfl

/-- The request of an allocation. -/
def request (g : Gate) (size : Bytes) : Except Denial Gate :=
  match g.ledger.request g.limit size with
  | .ok l => .ok (g.withLedger l)
  | .error why => .error why

/-- A request passes the gate exactly when it passes the ledger. -/
theorem request_eq_ok_iff {g admitted : Gate} {size : Bytes} :
    g.request size = .ok admitted ↔
      ∃ l, g.ledger.request g.limit size = .ok l ∧ admitted = g.withLedger l := by
  unfold request
  cases g.ledger.request g.limit size with
  | ok l => simp [eq_comm]
  | error why => simp

/-- A request that was denied. -/
def refuse (g : Gate) : Gate := g.withLedger g.ledger.refuse

/-- An allocation of `size` bytes, which the runtime answers with `real` if it is asked. -/
def allocate (g : Gate) (site : CallSite) (size : Bytes) (real : Outcome) : Reply Status :=
  match g.request size with
  | .error why =>
    ⟨(Refusal.denied why).status site.vendor, false, [.ofDenial site.function why], g.refuse⟩
  | .ok admitted =>
    let (settled, events) := admitted.ledger.settle site size real
    ⟨real.status, true, events, admitted.withLedger settled⟩

/-- A release of `handle`, which the runtime answers with `status`. -/
def release (g : Gate) (site : CallSite) (handle : Handle) (status : Status) : Reply Status :=
  let (released, events) := g.ledger.release site handle
  ⟨status, true, events, g.withLedger released⟩

/-- The answer to a memory query that the runtime answers with `status`, and what it logs. -/
def answerQuery (g : Gate) (site : CallSite) (status : Status) :
    Except Status MemInfo × List Event :=
  if site.vendor.isSuccess status then
    (.ok g.memInfo, [.queried site.function g.memInfo.free g.memInfo.total])
  else (.error status, [])

/-- A memory query, which the runtime answers with `status`. -/
def query (g : Gate) (site : CallSite) (status : Status) : Reply (Except Status MemInfo) :=
  ⟨(g.answerQuery site status).1, true, (g.answerQuery site status).2, g⟩

end Gate

end DeviceQuota
