import DeviceQuota.Text.Blank
import DeviceQuota.Text.Fold

/-!
# Admission modes

An allocation is checked before the device is asked and charged after it has answered. In
`optimistic` mode other calls may run in between; in `strict` mode they have to wait.

* **`AdmissionMode`** — the two modes and their names;
* **`AdmissionMode.holdsLock`** — the ledger stays locked while the device is asked;
* **`AdmissionMode.read`** — the mode that a text names, `optimistic` where it names none.
-/

namespace DeviceQuota

/-- What other calls may do while the device is asked for memory. -/
inductive AdmissionMode where
  | optimistic | strict
  deriving DecidableEq, Repr, Inhabited

namespace AdmissionMode

/-- The name of a mode. -/
def name : AdmissionMode → String
  | optimistic => "optimistic"
  | strict => "strict"

/-- The mode of a process that names none. -/
def standard : AdmissionMode := optimistic

/-- The ledger stays locked while the device is asked. -/
def holdsLock : AdmissionMode → Bool
  | optimistic => false
  | strict => true

/-- The words for strict admission. -/
def strictWords : List String := ["strict", "serial", "serialized"]

/-- The mode that `s` names in any case, white space around it apart. -/
def read (s : String) : AdmissionMode :=
  let word := Text.fold (Text.trim s.toList)
  if strictWords.any fun name => name.toList == word then strict else standard

end AdmissionMode

end DeviceQuota
