/-!
# Decimal and hexadecimal digits

* **`digitsValue`** — the number that a list of ASCII digits writes in base ten;
* **`digitsValueWhile`** — the same, where digits stop to count once the number has reached a bound;
* **`readWord?`** — an unsigned 64-bit number: an optional `+`, then one digit or more;
* **`hex`** — a number in base sixteen, in lower case and without padding.
-/

namespace DeviceQuota.Text

/-- The value of one ASCII digit. -/
def digitValue (c : Char) : Nat := c.toNat - '0'.toNat

/-- The number that the digits `ds` write, the first being the most significant. -/
def digitsValue (ds : List Char) : Nat := ds.foldl (fun n d => 10 * n + digitValue d) 0

@[simp] theorem digitsValue_nil : digitsValue [] = 0 := rfl

theorem digitsValue_concat (ds : List Char) (d : Char) :
    digitsValue (ds ++ [d]) = 10 * digitsValue ds + digitValue d := by
  simp [digitsValue]

/-- The number that the digits `ds` write as long as it is below `bound`. A digit behind a number
that has reached the bound does not count. -/
def digitsValueWhile (bound : Nat) (ds : List Char) : Nat :=
  ds.foldl (fun n d => if n < bound then 10 * n + digitValue d else n) 0

theorem le_foldl_digits (n : Nat) (ds : List Char) :
    n ≤ ds.foldl (fun n d => 10 * n + digitValue d) n := by
  induction ds generalizing n with
  | nil => exact Nat.le_refl n
  | cons d ds ih =>
      have grown := ih (10 * n + digitValue d)
      simp only [List.foldl_cons]
      omega

/-- A number below ten times the bound is read in full. -/
theorem digitsValueWhile_eq {bound : Nat} {ds : List Char} (h : digitsValue ds < 10 * bound) :
    digitsValueWhile bound ds = digitsValue ds := by
  unfold digitsValueWhile
  unfold digitsValue at h ⊢
  generalize 0 = n at h ⊢
  induction ds generalizing n with
  | nil => rfl
  | cons d ds ih =>
      simp only [List.foldl_cons] at h ⊢
      have grown := le_foldl_digits (10 * n + digitValue d) ds
      rw [if_pos (by omega)]
      exact ih _ h

/-- A number below 2^64 written as an optional `+` and at least one digit. -/
def readWord? (cs : List Char) : Option UInt64 :=
  let digits := match cs with
    | '+' :: rest => rest
    | _ => cs
  if digits.isEmpty || !digits.all Char.isDigit then none
  else if digitsValue digits < UInt64.size then some (UInt64.ofNat (digitsValue digits))
  else none

/-- `n` in base sixteen. -/
def hex (n : Nat) : List Char := Nat.toDigits 16 n

end DeviceQuota.Text
