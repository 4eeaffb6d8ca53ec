import DeviceQuota.Text.Fold

/-!
# Units of size

A quantity may be followed by a unit: `K`, `M`, `G`, `T` for powers of 1000 and `Ki`, `Mi`, `Gi`,
`Ti` for powers of 1024, in letters of either case. Only the front of what follows the number is
looked at, so `GiB` and `gigabytes` name the units `Gi` and `G`, and any other text means bytes.

* **`Scale`** — a unit;
* **`Scale.factor`** — how many bytes it stands for;
* **`Scale.ofSuffix`** — the unit at the front of a text, the longer name winning.
-/

namespace DeviceQuota.Size

/-- A unit of size. -/
inductive Scale where
  | one | kilo | kibi | mega | mebi | giga | gibi | tera | tebi
  deriving DecidableEq, Repr

namespace Scale

/-- The number of bytes in one unit. -/
def factor : Scale → Nat
  | one => 1
  | kilo => 1000
  | kibi => 1024
  | mega => 1000 * 1000
  | mebi => 1024 * 1024
  | giga => 1000 * 1000 * 1000
  | gibi => 1024 * 1024 * 1024
  | tera => 1000 * 1000 * 1000 * 1000
  | tebi => 1024 * 1024 * 1024 * 1024

theorem factor_pos (s : Scale) : 0 < s.factor := by cases s <;> decide

/-- The names of the units in lower case, each before its own beginnings. -/
def names : List (List Char × Scale) :=
  [(['t', 'i'], tebi), (['t'], tera), (['g', 'i'], gibi), (['g'], giga),
   (['m', 'i'], mebi), (['m'], mega), (['k', 'i'], kibi), (['k'], kilo)]

/-- The unit whose name is at the front of `cs`; bytes where there is none. -/
def ofSuffix (cs : List Char) : Scale :=
  match names.find? fun name => Text.startsWith name.1 cs with
  | some name => name.2
  | none => one

@[simp] theorem ofSuffix_nil : ofSuffix [] = one := by decide

/-- The case of letters does not count. -/
theorem ofSuffix_congr {cs ds : List Char} (h : Text.fold cs = Text.fold ds) :
    ofSuffix cs = ofSuffix ds := by
  simp only [ofSuffix, Text.startsWith_congr _ h]

end Scale

end DeviceQuota.Size
