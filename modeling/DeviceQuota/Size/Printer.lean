import DeviceQuota.Bytes
import DeviceQuota.Fraction

/-!
# Writing a size

Sizes are shown in the largest of the units B, KiB, MiB and GiB that they reach. Bytes are written
exactly; the other units have two places, which are those of the size as rounded to binary.

* **`Size.Shown`** — the unit that a size is shown in, and **`Shown.ofBytes`**, the choice of it;
* **`Size.print`** — the text of a size.
-/

namespace DeviceQuota.Size

/-- A unit that sizes are shown in with two places. -/
inductive Shown where
  | kibibytes | mebibytes | gibibytes
  deriving DecidableEq, Repr

namespace Shown

/-- The number of bytes in one unit. -/
def factor : Shown → Nat
  | kibibytes => 1024
  | mebibytes => 1024 * 1024
  | gibibytes => 1024 * 1024 * 1024

/-- The name of the unit. -/
def name : Shown → String
  | kibibytes => "KiB"
  | mebibytes => "MiB"
  | gibibytes => "GiB"

/-- The largest unit that `n` bytes reach; `none` below 1024. -/
def ofBytes (n : Nat) : Option Shown :=
  if gibibytes.factor ≤ n then some gibibytes
  else if mebibytes.factor ≤ n then some mebibytes
  else if kibibytes.factor ≤ n then some kibibytes
  else none

end Shown

/-- The hundredths of the unit `u` in `n` bytes, a tie going to the even number. -/
def hundredths (n : Nat) (u : Shown) : Nat :=
  let value := (Fraction.ofNat n).nearest
  roundDiv (value.num * 100) (value.den * u.factor)

/-- A number of hundredths with the point in its place. -/
def twoPlaces (h : Nat) : String :=
  let places := h % 100
  toString (h / 100) ++ (if places < 10 then ".0" else ".") ++ toString places

/-- The text of a size. -/
def print (bytes : Bytes) : String :=
  match Shown.ofBytes bytes.toNat with
  | none => toString bytes.toNat ++ " B"
  | some u => twoPlaces (hundredths bytes.toNat u) ++ " " ++ u.name

end DeviceQuota.Size
