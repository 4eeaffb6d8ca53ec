/-!
# White space

`isBlank` is the Unicode property White_Space: twenty-five characters, most of them outside ASCII.
Size strings, level names and mode names may carry any of them around the part that counts.

* **`isBlank`** — membership in the property;
* **`trimStart`**, **`trim`** — what is left when blanks are taken from the front, or from both
  ends.
-/

namespace DeviceQuota.Text

/-- The code points with the property White_Space, in ascending order. -/
def blankCodes : List Nat :=
  [0x09, 0x0a, 0x0b, 0x0c, 0x0d, 0x20, 0x85, 0xa0, 0x1680,
   0x2000, 0x2001, 0x2002, 0x2003, 0x2004, 0x2005, 0x2006, 0x2007, 0x2008, 0x2009, 0x200a,
   0x2028, 0x2029, 0x202f, 0x205f, 0x3000]

/-- A character of white space. -/
def isBlank (c : Char) : Bool := blankCodes.contains c.toNat

theorem isBlank_space : isBlank ' ' = true := by decide

theorem isBlank_minus : isBlank '-' = false := by decide

theorem isBlank_plus : isBlank '+' = false := by decide

/-- `cs` without the white space in front. -/
def trimStart (cs : List Char) : List Char := cs.dropWhile isBlank

/-- `cs` without the white space on either side. -/
def trim (cs : List Char) : List Char := (trimStart (trimStart cs).reverse).reverse

@[simp] theorem trimStart_nil : trimStart [] = [] := rfl

theorem trimStart_cons_of_isBlank {c : Char} (cs : List Char) (h : isBlank c = true) :
    trimStart (c :: cs) = trimStart cs := by
  simp [trimStart, h]

theorem trimStart_cons_of_not_isBlank {c : Char} (cs : List Char) (h : isBlank c = false) :
    trimStart (c :: cs) = c :: cs := by
  simp [trimStart, h]

/-- Blanks put in front disappear. -/
theorem trimStart_append_of_isBlank (ws cs : List Char) (h : ∀ c ∈ ws, isBlank c = true) :
    trimStart (ws ++ cs) = trimStart cs := by
  induction ws with
  | nil => rfl
  | cons w ws ih =>
      rw [List.cons_append, trimStart_cons_of_isBlank _ (h w (by simp)),
        ih fun c hc => h c (by simp [hc])]

end DeviceQuota.Text
