import DeviceQuota.Event
import DeviceQuota.Snapshot

/-!
# The ledger

The ledger counts what a process holds: the bytes charged, the most that were ever charged, how
often allocations were charged, released and refused, and the table of live allocations. It changes
in three short phases, between which other calls may run:

* **`Ledger.request`** — before the device is asked: does the request fit, and is there a slot;
  **`Ledger.refuse`** counts a request that was denied;
* **`Ledger.settle`** — after the device has answered: charge the request, or give the slot back;
* **`Ledger.release`** — before the device is asked to free a handle: take the charge back.

A phase also tells which events it logs.
-/

namespace DeviceQuota

/-- What a process holds. The three counters have no bound of their own, but together they are no
more than the phases of the calls, and so fit into words for fewer than 2^64 phases:
`Traffic.counted_le_length`. -/
structure Ledger where
  used : Bytes
  /-- The most bytes that were ever charged. -/
  peak : Bytes
  /-- The number of allocations that were charged. -/
  allocs : Nat
  /-- The number of charges that were taken back. -/
  frees : Nat
  /-- The number of requests that were denied. -/
  failed : Nat
  table : Table

/-- What the runtime's own allocation function reported. -/
structure Outcome where
  status : Status
  /-- The handle that the caller got; zero where there is none. -/
  handle : Handle
  deriving DecidableEq, Repr

/-- The runtime granted an allocation that can be recorded. -/
def Outcome.granted (vendor : Vendor) (real : Outcome) : Bool :=
  vendor.isSuccess real.status && real.handle != 0

namespace Ledger

/-- A ledger of a process that holds nothing. -/
def new (capacity : Option Nat) : Ledger := ⟨0, 0, 0, 0, 0, .new capacity⟩

/-- The size that a handle is charged with. -/
def tracked? (l : Ledger) (h : Handle) : Option Bytes := l.table.find? h

/-- The figures of a ledger under a quota. -/
def snapshot (l : Ledger) (limit : Bytes) : Snapshot :=
  ⟨limit, l.used, l.peak, l.allocs, l.frees, l.failed, l.table.size⟩

/-- The memory that callers are told about. -/
def memInfo (l : Ledger) (limit : Bytes) : MemInfo := .ofQuota limit l.used

/-- A request for `size` bytes: a slot is promised if the request fits into the quota and a slot is
left. The sum is that of the natural numbers, so it cannot wrap around. -/
def request (l : Ledger) (limit size : Bytes) : Except Denial Ledger :=
  if l.used.toNat + size.toNat ≤ limit.toNat then
    match l.table.reserve? with
    | .ok table => .ok { l with table := table }
    | .error full => .error (.noSlot full)
  else .error (.overQuota size l.used limit)

/-- A request that was denied. -/
def refuse (l : Ledger) : Ledger := { l with failed := l.failed + 1 }

/-- The charge of `size` bytes for `handle`, which fills a promised slot. An entry that the handle
still has is dropped together with its charge. -/
def charge (l : Ledger) (handle : Handle) (size : Bytes) : Ledger :=
  let kept := match l.tracked? handle with
    | some stale => l.used.minus stale
    | none => l.used
  let used := kept.plus size
  { l with
    used := used
    peak := l.peak.larger used
    allocs := l.allocs + 1
    table := (l.table.fill handle size).2 }

/-- A promised slot given back. -/
def cancel (l : Ledger) : Ledger := { l with table := l.table.cancel }

/-- The end of an allocation of `size` bytes: charged if the runtime granted it, else cancelled. -/
def settle (l : Ledger) (site : CallSite) (size : Bytes) (real : Outcome) : Ledger × List Event :=
  if real.granted site.vendor then
    let charged := l.charge real.handle size
    let dropped := match l.tracked? real.handle with
      | some stale => [Event.stale site.function real.handle stale]
      | none => []
    (charged, dropped ++ [Event.charged site.function size real.handle charged.used])
  else (l.cancel, [Event.uncharged site.function real.status size])

/-- The charge of `handle` taken back. -/
def discharge (l : Ledger) (handle : Handle) (size : Bytes) : Ledger :=
  { l with
    used := l.used.minus size
    frees := l.frees + 1
    table := (l.table.take handle).2 }

/-- The beginning of a release. The null handle and a handle that is not tracked change nothing. -/
def release (l : Ledger) (site : CallSite) (handle : Handle) : Ledger × List Event :=
  if handle = 0 then (l, [])
  else
    match l.tracked? handle with
    | some size =>
      let discharged := l.discharge handle size
      (discharged, [Event.released site.function size handle discharged.used])
    | none => (l, [Event.untracked site.function handle])

/-- A request passes exactly when it fits and a slot is left; it then promises the slot. -/
theorem request_eq_ok_iff {l m : Ledger} {limit size : Bytes} :
    l.request limit size = .ok m ↔
      l.used.toNat + size.toNat ≤ limit.toNat ∧
        ∃ table, l.table.reserve? = .ok table ∧ m = { l with table := table } := by
  unfold request
  by_cases fits : l.used.toNat + size.toNat ≤ limit.toNat
  · cases slot : l.table.reserve? with
    | ok table => simp [fits, eq_comm]
    | error full => simp [fits]
  · simp [fits]

/-- An allocation that is cancelled at once was never requested. -/
theorem cancel_of_request {l m : Ledger} {limit size : Bytes} (h : l.request limit size = .ok m) :
    m.cancel = l := by
  obtain ⟨_, table, slot, rfl⟩ := request_eq_ok_iff.1 h
  simp [cancel, Table.cancel_of_reserve? slot]

/-- Only a granted allocation is charged. -/
theorem settle_of_not_granted {real : Outcome} {site : CallSite} (l : Ledger) (size : Bytes)
    (h : real.granted site.vendor = false) :
    l.settle site size real = (l.cancel, [Event.uncharged site.function real.status size]) := by
  simp [settle, h]

/-- A granted allocation is charged under its handle. -/
theorem fst_settle_of_granted {real : Outcome} {site : CallSite} (l : Ledger) (size : Bytes)
    (h : real.granted site.vendor = true) :
    (l.settle site size real).1 = l.charge real.handle size := by
  simp [settle, h]

/-- Releasing the null handle changes nothing. -/
@[simp] theorem release_null (l : Ledger) (site : CallSite) : l.release site 0 = (l, []) := by
  simp [release]

/-- Releasing a tracked handle takes its charge back. -/
theorem fst_release_of_tracked {l : Ledger} {h : Handle} {size : Bytes} (site : CallSite)
    (ne : h ≠ 0) (found : l.tracked? h = some size) :
    (l.release site h).1 = l.discharge h size := by
  simp [release, ne, found]

/-- Releasing a handle that is not tracked changes nothing. -/
theorem fst_release_of_untracked {l : Ledger} {h : Handle} (site : CallSite)
    (absent : l.tracked? h = none) : (l.release site h).1 = l := by
  unfold release
  split
  · rfl
  · simp [absent]

end Ledger

end DeviceQuota
