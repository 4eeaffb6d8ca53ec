import DeviceQuota.AdmissionMode
import DeviceQuota.LogLevel
import DeviceQuota.Size.Parser

/-!
# Settings

A process is configured by four environment variables. Each sets one field on its own, and a text
that means nothing leaves the standard value in place.

* **`Settings`** — the four settings;
* **`Settings.ofLookup`** — the settings that an environment asks for;
* **`Settings.readCapacity`** — the number of allocations tracked at once, `none` for no bound.
-/

namespace DeviceQuota

/-- How a gate is to behave. -/
structure Settings where
  limit : Bytes
  logLevel : LogLevel
  mode : AdmissionMode
  /-- How many allocations are tracked at once; `none` for no bound. -/
  capacity : Option Nat
  deriving DecidableEq, Repr

namespace Settings

/-- The variable that holds the quota. -/
def quotaVariable : String := "HCS_VRAM_QUOTA"

/-- The variable that holds the log level. -/
def logLevelVariable : String := "HCS_LOG_LEVEL"

/-- The variable that holds the admission mode. -/
def modeVariable : String := "HCS_ADMISSION_MODE"

/-- The variable that holds the tracking capacity. -/
def capacityVariable : String := "HCS_MAX_ALLOCATIONS"

/-- The quota of a process that asks for none: 4 GiB. -/
def standardLimit : Bytes := 4294967296

/-- The tracking capacity of a process that asks for none. -/
def standardCapacity : Nat := 65536

/-- The settings of a process that asks for nothing. -/
def standard : Settings := ⟨standardLimit, .standard, .standard, some standardCapacity⟩

instance : Inhabited Settings := ⟨standard⟩

/-- The quota that a text asks for. A text that is no size leaves the standard one; zero bytes is
a quota like any other. -/
def readLimit (s : String) : Bytes :=
  match Size.parse s with
  | .ok limit => limit
  | .error _ => standardLimit

/-- The tracking capacity that a text asks for. The word `unbounded` and the number zero take the
bound away. -/
def readCapacity (s : String) : Option Nat :=
  let word := Text.trim s.toList
  if Text.fold word == "unbounded".toList then none
  else
    match Text.readWord? word with
    | some n => if n = 0 then none else some n.toNat
    | none => some standardCapacity

/-- The settings that the variables found by `lookup` ask for. -/
def ofLookup (lookup : String → Option String) : Settings where
  limit := ((lookup quotaVariable).map readLimit).getD standardLimit
  logLevel := ((lookup logLevelVariable).map LogLevel.read).getD .standard
  mode := ((lookup modeVariable).map AdmissionMode.read).getD .standard
  capacity := ((lookup capacityVariable).map readCapacity).getD (some standardCapacity)

/-- An empty environment asks for nothing. -/
theorem ofLookup_none : ofLookup (fun _ => none) = standard := rfl

end Settings

end DeviceQuota
