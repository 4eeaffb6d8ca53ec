import DeviceQuota.Text.Blank
import DeviceQuota.Text.Fold

/-!
# Log levels

A level is either the severity of an event or the threshold that events have to reach. The levels
are ordered `debug < info < warn < error < none`; the threshold `none` is reached by nothing.

* **`LogLevel`** — the levels and their names;
* **`LogLevel.allows`** — an event is shown at a threshold;
* **`LogLevel.read`** — the level that a text names, `warn` where it names none.
-/

namespace DeviceQuota

/-- A severity or a threshold. -/
inductive LogLevel where
  | debug | info | warn | error | none
  deriving DecidableEq, Repr, Inhabited

namespace LogLevel

/-- The place of a level in the order. -/
def rank : LogLevel → Nat
  | debug => 0
  | info => 1
  | warn => 2
  | error => 3
  | none => 4

/-- The name of a level. -/
def name : LogLevel → String
  | debug => "debug"
  | info => "info"
  | warn => "warn"
  | error => "error"
  | none => "none"

/-- The name of the filter that lets the events of a level and above pass. -/
def filterName : LogLevel → String
  | none => "off"
  | level => level.name

/-- The name at the front of a log line: capitals, five columns wide. -/
def tag : LogLevel → String
  | debug => "DEBUG"
  | info => " INFO"
  | warn => " WARN"
  | error => "ERROR"
  | none => " NONE"

/-- The level of a process that names none. -/
def standard : LogLevel := warn

/-- An event of level `event` is shown at `threshold`. Nothing is an event of level `none`. -/
def allows (threshold event : LogLevel) : Bool :=
  event != none && decide (threshold.rank ≤ event.rank)

theorem allows_debug {event : LogLevel} (h : event ≠ none) : debug.allows event = true := by
  simp [allows, rank, h]

/-- The threshold `none` shows nothing. -/
theorem none_allows (event : LogLevel) : none.allows event = false := by
  cases event <;> decide

/-- A lower threshold shows all that a higher one does. -/
theorem allows_of_rank_le {low high event : LogLevel} (h : low.rank ≤ high.rank)
    (shown : high.allows event = true) : low.allows event = true := by
  simp only [allows, Bool.and_eq_true, decide_eq_true_eq] at shown ⊢
  exact ⟨shown.1, Nat.le_trans h shown.2⟩

/-- The level that `s` names in any case, white space around it apart. -/
def read? (s : String) : Option LogLevel :=
  let word := Text.fold (Text.trim s.toList)
  [debug, info, warn, error, none].find? fun level => level.name.toList == word

/-- The level that `s` names, the standard one where it names none. -/
def read (s : String) : LogLevel := (read? s).getD standard

end LogLevel

end DeviceQuota
