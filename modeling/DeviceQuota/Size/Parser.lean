import DeviceQuota.Size.Numeral
import DeviceQuota.Text.Blank
import DeviceQuota.Text.Quoted

/-!
# Reading a size

A size is a numeral and an optional unit: `16Gi`, `1.5 GiB`, `16e9`, `1073741824`. White space may
stand in front of either, and a `+` in front of the numeral; what follows the unit is not looked at.

* **`Size.Malformed`** — why a text is not a size, and **`Malformed.message`**, the wording;
* **`Size.parse`** — the number of bytes;
* **`Size.parseD`** — the same with zero for a text that is not a size.
-/

namespace DeviceQuota.Size

/-- Why a text is not a size. The text is kept as it was given. -/
inductive Malformed where
  /-- Nothing but white space. -/
  | empty
  /-- No number at the front. -/
  | notANumber (raw : String)
  /-- A minus sign at the front. -/
  | negative (raw : String)
  deriving DecidableEq, Repr

/-- The wording of a failure. -/
def Malformed.message : Malformed → String
  | empty => "empty size string"
  | notANumber raw => "size " ++ Text.quoted raw ++ " has no leading number"
  | negative raw => "size " ++ Text.quoted raw ++ " is negative"

/-- What follows an optional `+`. -/
def dropPlus : List Char → List Char
  | '+' :: rest => rest
  | cs => cs

/-- The number of bytes that `raw` denotes. -/
def parse (raw : String) : Except Malformed Bytes :=
  match Text.trimStart raw.toList with
  | [] => .error .empty
  | '-' :: _ => .error (.negative raw)
  | signed =>
    let (numeral, rest) := Numeral.scan (dropPlus signed)
    if numeral.hasDigits then .ok (numeral.bytes (Scale.ofSuffix (Text.trimStart rest)))
    else .error (.notANumber raw)

/-- The number of bytes that `raw` denotes, and zero where it denotes none. -/
def parseD (raw : String) : Bytes :=
  match parse raw with
  | .ok bytes => bytes
  | .error _ => 0

theorem parseD_of_ok {raw : String} {bytes : Bytes} (h : parse raw = .ok bytes) :
    parseD raw = bytes := by
  simp [parseD, h]

end DeviceQuota.Size
