import DeviceQuota.HandleMap

/-!
# The table of live allocations

The table records which handles are live and how many bytes each was charged for. It may have a
capacity. A slot is reserved before the device is asked, so that an allocation that the device
grants can always be recorded; the reservation is then filled or cancelled.

* **`Table`** — live handles, reserved slots and capacity;
* **`Table.reserve?`**, **`Table.cancel`**, **`Table.fill`** — the life of a reservation;
* **`Table.insert?`**, **`Table.take`**, **`Table.remove`** — whole entries;
* **`Table.liveBytes`** — the sum of the live sizes, stopping at the largest byte count;
* **`Table.Operation`** and **`Table.perform`** — the same as data, with their answers.
-/

namespace DeviceQuota

/-- Live allocations and reserved slots. -/
structure Table where
  /-- The live handles with their sizes. -/
  live : HandleMap
  /-- The number of slots that are promised and not filled. It has no bound of its own, but is no more
  than the number of operations: `Table.reserved_after_le`. -/
  reserved : Nat
  /-- The number of slots; `none` for no bound. -/
  capacity : Option Nat

/-- There is no slot left in a table of this capacity. -/
structure TableFull where
  capacity : Nat
  deriving DecidableEq, Repr

/-- The wording of a full table. -/
def TableFull.message (full : TableFull) : String :=
  "allocation table full (" ++ toString full.capacity ++ " entries)"

namespace Table

/-- A table without entries. -/
def new (capacity : Option Nat) : Table := ⟨.empty, 0, capacity⟩

/-- The number of live handles. -/
def size (t : Table) : Nat := t.live.size

/-- There is no live handle. -/
def isEmpty (t : Table) : Bool := t.size == 0

/-- The size under a live handle. -/
def find? (t : Table) (h : Handle) : Option Bytes := t.live.find? h

/-- The sum of the live sizes, stopping at the largest byte count. -/
def liveBytes (t : Table) : Bytes := t.live.entries.foldl (fun sum entry => sum.plus entry.2) 0

/-- The number of slots in use, filled or promised. -/
def occupied (t : Table) : Nat := t.size + t.reserved

/-- One more slot promised; an error where none is left. -/
def reserve? (t : Table) : Except TableFull Table :=
  match t.capacity with
  | none => .ok { t with reserved := t.reserved + 1 }
  | some capacity =>
    if t.occupied < capacity then .ok { t with reserved := t.reserved + 1 }
    else .error ⟨capacity⟩

/-- One promised slot given back. -/
def cancel (t : Table) : Table := { t with reserved := t.reserved - 1 }

/-- One promised slot filled with an entry, and the size that the entry replaces. -/
def fill (t : Table) (h : Handle) (n : Bytes) : Option Bytes × Table :=
  (t.find? h, { t.cancel with live := t.live.insert h n })

/-- An entry put in without a promise, and the size that it replaces. A live handle needs no
further slot; an error where a slot is needed and none is left. -/
def insert? (t : Table) (h : Handle) (n : Bytes) : Except TableFull (Option Bytes × Table) :=
  if (t.find? h).isSome then .ok (t.find? h, { t with live := t.live.insert h n })
  else
    match t.reserve? with
    | .ok promised => .ok (promised.fill h n)
    | .error full => .error full

/-- An entry taken out, and its size. -/
def take (t : Table) (h : Handle) : Option Bytes × Table :=
  (t.find? h, { t with live := t.live.erase h })

/-- An entry taken out, and its size or zero. -/
def remove (t : Table) (h : Handle) : Bytes × Table :=
  ((t.take h).1.getD 0, (t.take h).2)

@[simp] theorem live_new (capacity : Option Nat) : (new capacity).live = .empty := rfl

@[simp] theorem reserved_new (capacity : Option Nat) : (new capacity).reserved = 0 := rfl

/-- A promise changes nothing but the number of promised slots. -/
theorem reserve?_eq_ok_iff {t u : Table} :
    t.reserve? = .ok u ↔
      (∀ capacity, t.capacity = some capacity → t.occupied < capacity) ∧
        u = { t with reserved := t.reserved + 1 } := by
  unfold reserve?
  cases bound : t.capacity with
  | none => simp [eq_comm]
  | some capacity =>
      by_cases room : t.occupied < capacity
      · simp [room, eq_comm]
      · simp [room]

/-- A promise that is taken back at once was never made. -/
theorem cancel_of_reserve? {t u : Table} (h : t.reserve? = .ok u) : u.cancel = t := by
  obtain ⟨_, rfl⟩ := reserve?_eq_ok_iff.1 h
  rfl

@[simp] theorem fst_fill (t : Table) (h : Handle) (n : Bytes) : (t.fill h n).1 = t.find? h := rfl

@[simp] theorem live_fill (t : Table) (h : Handle) (n : Bytes) :
    (t.fill h n).2.live = t.live.insert h n := rfl

@[simp] theorem reserved_fill (t : Table) (h : Handle) (n : Bytes) :
    (t.fill h n).2.reserved = t.reserved - 1 := rfl

@[simp] theorem capacity_fill (t : Table) (h : Handle) (n : Bytes) :
    (t.fill h n).2.capacity = t.capacity := rfl

/-- Taking out a handle that is not live changes nothing. -/
theorem take_of_find?_eq_none {t : Table} {h : Handle} (absent : t.find? h = none) :
    t.take h = (none, t) := by
  simp [take, absent, HandleMap.erase_of_find?_eq_none absent]

/-- An operation on a table. -/
inductive Operation where
  | reserve
  | cancel
  | fill (handle : Handle) (size : Bytes)
  | insert (handle : Handle) (size : Bytes)
  | find (handle : Handle)
  | take (handle : Handle)
  | remove (handle : Handle)
  deriving DecidableEq, Repr

/-- The answer to an operation. -/
inductive Answer where
  /-- Done, with nothing to tell. -/
  | done
  /-- A size, or nothing. -/
  | size? (size : Option Bytes)
  /-- What an insertion replaced. -/
  | replaced (size : Option Bytes)
  /-- The entry of a handle, or nothing. -/
  | taken (handle : Handle) (size : Option Bytes)
  /-- A size, zero for nothing. -/
  | size (size : Bytes)
  /-- No slot was left. -/
  | full (full : TableFull)
  deriving DecidableEq, Repr

/-- The answer to an operation and the table after it. -/
def perform (t : Table) : Operation → Answer × Table
  | .reserve =>
    match t.reserve? with
    | .ok u => (.done, u)
    | .error full => (.full full, t)
  | .cancel => (.done, t.cancel)
  | .fill h n => (.size? (t.fill h n).1, (t.fill h n).2)
  | .insert h n =>
    match t.insert? h n with
    | .ok (old, u) => (.replaced old, u)
    | .error full => (.full full, t)
  | .find h => (.size? (t.find? h), t)
  | .take h => (.taken h (t.take h).1, (t.take h).2)
  | .remove h => (.size (t.remove h).1, (t.remove h).2)

end Table

end DeviceQuota
