import DeviceQuota.Ledger

/-!
# A simulated device

The device hands out addresses of its own and keeps its own record of what it granted, so that a
ledger can be compared with it. What it holds is a 64-bit word, and so is the sum of what it holds and
what it is asked for: an allocation whose sum does not fit breaks off.

* **`Device`** — capacity, record and counters;
* **`Device.malloc`**, **`Device.free`** — an allocation and a release;
* **`Device.Panic`** — why an allocation breaks off;
* **`Device.address`** — the addresses in the order in which they are handed out;
* **`Device.Call`** and **`Device.step?`** — the calls as data, with their answers.
-/

namespace DeviceQuota

/-- A device with its own record of allocations. -/
structure Device where
  /-- The number of bytes that it can hold. -/
  capacity : Bytes
  /-- The address of the next allocation. -/
  next : Handle
  /-- The number of allocations asked for. It has no bound of its own, but is no more than the number of
  calls, and so fits into a word for fewer than 2^64 calls: `Device.calls_le_of_run?`. -/
  calls : Nat
  /-- The number of bytes that it holds. -/
  outstanding : Bytes
  /-- The most bytes that it ever held. -/
  highWater : Bytes
  live : HandleMap

namespace Device

/-- The first address. -/
def baseAddress : Handle := 0x7f0000000000

/-- The distance between two addresses. -/
def alignment : Handle := 0x200000

/-- The address of the allocation that is granted after `grants` others. -/
def address (grants : Nat) : Handle := baseAddress + UInt64.ofNat grants * alignment

/-- The status of a success. -/
def success : Status := 0

/-- The status of an allocation that does not fit. -/
def outOfMemory : Status := 2

/-- The status of a release of an address that is not live. -/
def invalidAddress : Status := 1

/-- A device that holds nothing. -/
def new (capacity : Bytes) : Device := ⟨capacity, baseAddress, 0, 0, 0, .empty⟩

/-- Why an allocation breaks off, without a result. -/
inductive Panic where
  /-- What is held and what is asked for do not fit into a word together. -/
  | sumOverflow
  deriving DecidableEq, Repr

/-- The wording of what broke off an allocation. -/
def Panic.message : Panic → String
  | sumOverflow => "attempt to add with overflow"

/-- An allocation of `size` bytes. Addresses are never used twice. The bytes are added to what is held
before the sum is formed: an allocation that breaks off leaves them there, wrapped around. -/
def malloc (d : Device) (size : Bytes) : Except Panic Outcome × Device :=
  let held := d.outstanding + size
  let asked := { d with calls := d.calls + 1 }
  if UInt64.size ≤ d.outstanding.toNat + size.toNat then
    (.error .sumOverflow, { asked with outstanding := held })
  else if d.capacity.toNat < held.toNat then (.ok ⟨outOfMemory, 0⟩, asked)
  else
    (.ok ⟨success, d.next⟩,
      { asked with
        next := d.next + alignment
        outstanding := held
        highWater := d.highWater.larger held
        live := d.live.insert d.next size })

/-- A release of an address. -/
def free (d : Device) (handle : Handle) : Status × Device :=
  match d.live.find? handle with
  | some size =>
    (success, { d with outstanding := d.outstanding - size, live := d.live.erase handle })
  | none => (invalidAddress, d)

/-- The status of a memory query. -/
def memInfo : Status := success

/-- Releasing an address that is not live changes nothing. -/
theorem free_of_find?_eq_none {d : Device} {handle : Handle} (h : d.live.find? handle = none) :
    d.free handle = (invalidAddress, d) := by
  simp [free, h]

/-- Releasing an address that is live takes its entry out. -/
theorem free_of_find?_eq_some {d : Device} {handle : Handle} {size : Bytes}
    (h : d.live.find? handle = some size) :
    d.free handle =
      (success, { d with outstanding := d.outstanding - size, live := d.live.erase handle }) := by
  simp [free, h]

/-- A call of a device. -/
inductive Call where
  | malloc (size : Bytes)
  | free (handle : Handle)
  deriving DecidableEq, Repr

/-- What a call answers: a status, unless it breaks off. -/
abbrev Answer := Except Panic Status

/-- The device after a call and what the call answers. Every call is possible. -/
def step? (d : Device) : Call → Option (Device × List Answer)
  | .malloc size => some ((d.malloc size).2, [(d.malloc size).1.map Outcome.status])
  | .free handle => some ((d.free handle).2, [.ok (d.free handle).1])

end Device

end DeviceQuota
