/-!
# Letters of either case

Names and unit suffixes are read without regard to the case of the letters `A` to `Z`. No other
character has a case here: `K` (U+212A, the Kelvin sign) is not `k`.

* **`fold`** — lower case for the letters `A` to `Z`, the identity elsewhere;
* **`startsWith`** — a lower-case word is at the front, in any case.
-/

namespace DeviceQuota.Text

/-- `cs` with the letters `A` to `Z` in lower case. -/
def fold (cs : List Char) : List Char := cs.map Char.toLower

@[simp] theorem length_fold (cs : List Char) : (fold cs).length = cs.length := by simp [fold]

@[simp] theorem fold_nil : fold [] = [] := rfl

@[simp] theorem fold_cons (c : Char) (cs : List Char) :
    fold (c :: cs) = c.toLower :: fold cs := rfl

/-- `word`, given in lower case, is at the front of `cs` in some case. -/
def startsWith (word cs : List Char) : Bool := word.isPrefixOf (fold cs)

@[simp] theorem startsWith_nil (cs : List Char) : startsWith [] cs = true := by
  simp [startsWith]

/-- Only the folded text counts. -/
theorem startsWith_congr {cs ds : List Char} (word : List Char) (h : fold cs = fold ds) :
    startsWith word cs = startsWith word ds := by
  simp [startsWith, h]

end DeviceQuota.Text
