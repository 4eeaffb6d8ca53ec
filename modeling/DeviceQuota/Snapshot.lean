import DeviceQuota.Bytes
import DeviceQuota.Size.Printer

/-!
# Views of a ledger

* **`Snapshot`** — the figures of a ledger at one moment, and **`Snapshot.summary`**, their text;
* **`MemInfo`** — the free and total memory that a caller is told about: the quota, and what is
  left of it.
-/

namespace DeviceQuota

/-- The figures of a ledger at one moment. -/
structure Snapshot where
  limit : Bytes
  used : Bytes
  /-- The most bytes that were ever charged. -/
  peak : Bytes
  allocs : Nat
  frees : Nat
  failed : Nat
  tracked : Nat
  deriving DecidableEq, Repr

namespace Snapshot

/-- What is left of the quota. -/
def available (s : Snapshot) : Bytes := s.limit.minus s.used

/-- The figures in one line. -/
def summary (s : Snapshot) : String :=
  "allocs=" ++ toString s.allocs ++ ", frees=" ++ toString s.frees ++
    ", failed=" ++ toString s.failed ++ ", peak=" ++ Size.print s.peak ++
    ", final=" ++ Size.print s.used ++ ", limit=" ++ Size.print s.limit

end Snapshot

/-- Device memory as a caller sees it. -/
structure MemInfo where
  /-- Bytes that can still be allocated. -/
  free : Bytes
  total : Bytes
  deriving DecidableEq, Repr

/-- The quota takes the place of the device's own memory. -/
def MemInfo.ofQuota (limit used : Bytes) : MemInfo := ⟨limit.minus used, limit⟩

end DeviceQuota
