/-!
# Byte counts

Limits, request sizes and charges are unsigned 64-bit words. Sums and differences of charges stop
at the ends of the range instead of wrapping around.

* **`Bytes`** — a count of bytes;
* **`Bytes.clamp`** — a natural number, cut off at the largest word;
* **`Bytes.plus`**, **`Bytes.minus`** — sum and difference that stop at the ends of the range.

Each operation has one lemma that says what it does in the natural numbers.
-/

namespace DeviceQuota

/-- A count of bytes below 2^64. -/
abbrev Bytes := UInt64

namespace Bytes

/-- The largest count, 2^64 - 1. -/
def greatest : Nat := UInt64.size - 1

/-- `n`, or the largest count where `n` exceeds it. -/
def clamp (n : Nat) : Bytes := if n < UInt64.size then UInt64.ofNat n else UInt64.ofNat greatest

/-- `a + b`, stopping at the largest count. -/
def plus (a b : Bytes) : Bytes := clamp (a.toNat + b.toNat)

/-- `a - b`, stopping at zero. -/
def minus (a b : Bytes) : Bytes := clamp (a.toNat - b.toNat)

/-- The greater of two counts. -/
def larger (a b : Bytes) : Bytes := if a.toNat < b.toNat then b else a

theorem toNat_clamp (n : Nat) : (clamp n).toNat = if n < UInt64.size then n else greatest := by
  unfold clamp
  split
  · next h => exact UInt64.toNat_ofNat_of_lt' h
  · exact UInt64.toNat_ofNat_of_lt' (by decide)

theorem toNat_clamp_of_lt {n : Nat} (h : n < UInt64.size) : (clamp n).toNat = n := by
  rw [toNat_clamp, if_pos h]

@[simp] theorem clamp_toNat (a : Bytes) : clamp a.toNat = a :=
  UInt64.toNat_inj.1 (toNat_clamp_of_lt a.toNat_lt)

theorem toNat_plus (a b : Bytes) :
    (a.plus b).toNat =
      if a.toNat + b.toNat < UInt64.size then a.toNat + b.toNat else greatest :=
  toNat_clamp _

/-- A sum that fits is exact. -/
theorem toNat_plus_of_lt {a b : Bytes} (h : a.toNat + b.toNat < UInt64.size) :
    (a.plus b).toNat = a.toNat + b.toNat :=
  toNat_clamp_of_lt h

@[simp] theorem zero_plus (a : Bytes) : plus 0 a = a := by simp [plus]

/-- A difference is that of the natural numbers. -/
@[simp] theorem toNat_minus (a b : Bytes) : (a.minus b).toNat = a.toNat - b.toNat :=
  toNat_clamp_of_lt (Nat.lt_of_le_of_lt (Nat.sub_le _ _) a.toNat_lt)

@[simp] theorem minus_self (a : Bytes) : a.minus a = 0 := by
  refine UInt64.toNat_inj.1 ?_
  rw [toNat_minus, Nat.sub_self]
  rfl

theorem toNat_larger (a b : Bytes) :
    (a.larger b).toNat = if a.toNat < b.toNat then b.toNat else a.toNat := by
  unfold larger
  split <;> rfl

theorem larger_of_le {a b : Bytes} (h : a.toNat ≤ b.toNat) : a.larger b = b := by
  refine UInt64.toNat_inj.1 ?_
  rw [toNat_larger]
  split <;> omega

end Bytes

end DeviceQuota
