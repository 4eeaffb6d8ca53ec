import DeviceQuota.Bytes
import DeviceQuota.Fraction
import DeviceQuota.Size.Scale
import DeviceQuota.Text.Digits

/-!
# Decimal numerals

The number in front of a unit is written with ASCII digits, optionally a point with further digits,
and optionally an exponent. `scan` splits the longest such numeral off a text:

    numeral  = digits [ "." [digits] ] [exponent]  |  "." digits [exponent]
    exponent = ("e" | "E") [ "+" | "-" ] digits

* **`Numeral`** — a numeral by its parts, and **`Numeral.toList`**, its text;
* **`Numeral.scan`** — the numeral at the front of a text and the rest; `toList_scan` says that the
  two together are the text;
* **`Numeral.bytes`** — the number of bytes that a numeral and a unit denote.
-/

namespace DeviceQuota.Size

/-- An exponent as written. -/
structure Exponent where
  /-- The letter `e` in either case. -/
  letter : Char
  /-- The sign, where there is one. -/
  sign : Option Char
  digits : List Char
  deriving DecidableEq, Repr

namespace Exponent

/-- The text of an exponent. -/
def toList (e : Exponent) : List Char := e.letter :: (e.sign.toList ++ e.digits)

/-- The bound up to which the digits of an exponent count. A numeral whose exponent has reached it
is below one byte or beyond all sizes, unless the numeral has as many digits itself. -/
def bound : Nat := 65536

/-- The power of ten that is meant, without its sign. -/
def magnitude (e : Exponent) : Nat := Text.digitsValueWhile bound e.digits

/-- The power of ten that is meant. -/
def value (e : Exponent) : Int :=
  if e.sign = some '-' then -(e.magnitude : Int) else e.magnitude

/-- An optional sign and what follows it. -/
def scanSign : List Char → Option Char × List Char
  | '+' :: rest => (some '+', rest)
  | '-' :: rest => (some '-', rest)
  | cs => (none, cs)

theorem toList_scanSign (cs : List Char) : (scanSign cs).1.toList ++ (scanSign cs).2 = cs := by
  unfold scanSign
  split <;> rfl

/-- The exponent at the front of `cs`, if there is a complete one, and the rest. -/
def scan (cs : List Char) : Option Exponent × List Char :=
  match cs with
  | [] => (none, [])
  | c :: rest =>
    if c = 'e' ∨ c = 'E' then
      let (sign, unsigned) := scanSign rest
      if (unsigned.takeWhile Char.isDigit).isEmpty then (none, cs)
      else (some ⟨c, sign, unsigned.takeWhile Char.isDigit⟩, unsigned.dropWhile Char.isDigit)
    else (none, cs)

/-- Nothing is lost. -/
theorem toList_scan (cs : List Char) :
    ((scan cs).1.map toList).getD [] ++ (scan cs).2 = cs := by
  cases cs with
  | nil => rfl
  | cons c rest =>
      simp only [scan]
      split
      · split
        · rfl
        · simp [toList, List.takeWhile_append_dropWhile, toList_scanSign]
      · rfl

end Exponent

/-- A numeral by its parts. -/
structure Numeral where
  /-- The digits in front of the point. -/
  whole : List Char
  /-- The digits behind the point; `none` where there is no point. -/
  fraction : Option (List Char)
  /-- The exponent, where there is one. -/
  exponent : Option Exponent
  deriving DecidableEq, Repr

namespace Numeral

/-- The digits behind the point. -/
def fractionDigits (n : Numeral) : List Char := n.fraction.getD []

/-- The text of a numeral. -/
def toList (n : Numeral) : List Char :=
  n.whole ++ (n.fraction.map ('.' :: ·)).getD [] ++ (n.exponent.map Exponent.toList).getD []

/-- There is a digit in front of the exponent. -/
def hasDigits (n : Numeral) : Bool := !(n.whole.isEmpty && n.fractionDigits.isEmpty)

/-- The numeral is written with whole digits alone, a point without digits apart. -/
def isWhole (n : Numeral) : Bool := n.fractionDigits.isEmpty && n.exponent.isNone

/-- The point and the digits behind it at the front of `cs`, and the rest. -/
def scanFraction (cs : List Char) : Option (List Char) × List Char :=
  match cs with
  | '.' :: rest => (some (rest.takeWhile Char.isDigit), rest.dropWhile Char.isDigit)
  | _ => (none, cs)

theorem toList_scanFraction (cs : List Char) :
    ((scanFraction cs).1.map ('.' :: ·)).getD [] ++ (scanFraction cs).2 = cs := by
  unfold scanFraction
  split
  · simp [List.takeWhile_append_dropWhile]
  · rfl

/-- The numeral at the front of `cs` and the rest. An exponent is read only behind a digit. -/
def scan (cs : List Char) : Numeral × List Char :=
  let whole := cs.takeWhile Char.isDigit
  let (fraction, rest) := scanFraction (cs.dropWhile Char.isDigit)
  let unscaled : Numeral := ⟨whole, fraction, none⟩
  if unscaled.hasDigits then
    let (exponent, rest) := Exponent.scan rest
    ({ unscaled with exponent := exponent }, rest)
  else (unscaled, rest)

/-- Nothing is lost. -/
theorem toList_scan (cs : List Char) : (scan cs).1.toList ++ (scan cs).2 = cs := by
  have fraction := toList_scanFraction (cs.dropWhile Char.isDigit)
  have exponent := Exponent.toList_scan (scanFraction (cs.dropWhile Char.isDigit)).2
  simp only [scan]
  split
  · simp only [toList, List.append_assoc]
    rw [exponent, fraction, List.takeWhile_append_dropWhile]
  · simp only [toList, Option.map_none, Option.getD_none, List.append_nil, List.append_assoc]
    rw [fraction, List.takeWhile_append_dropWhile]

/-- All digits in front of the exponent as one number. -/
def mantissa (n : Numeral) : Nat := Text.digitsValue (n.whole ++ n.fractionDigits)

/-- The power of ten that the mantissa is scaled by. -/
def power (n : Numeral) : Int :=
  (n.exponent.map Exponent.value).getD 0 - n.fractionDigits.length

/-- The exact value. Beyond twenty powers of ten upwards every positive value exceeds the largest
byte count in any unit, and fourteen powers below its digits it is less than one byte in any unit,
so the power is cut off there: the number of bytes stays the same, and the value stays small. -/
def value (n : Numeral) : Fraction :=
  let lowest : Int := -((n.whole.length + n.fractionDigits.length + 14 : Nat) : Int)
  let power := if n.power < lowest then lowest else if 20 < n.power then 20 else n.power
  Fraction.ofDecimal n.mantissa power

/-- The number of bytes in `n` units of `s`. Whole numbers are exact. Any other numeral is rounded
to binary, multiplied, rounded again and then cut to its whole part. Both stop at the largest byte
count. -/
def bytes (n : Numeral) (s : Scale) : Bytes :=
  if n.isWhole then Bytes.clamp (Text.digitsValue n.whole * s.factor)
  else Bytes.clamp (n.value.nearest.mulNat s.factor).nearest.floor

end Numeral

end DeviceQuota.Size
