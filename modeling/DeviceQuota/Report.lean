import DeviceQuota.Json
import DeviceQuota.Scenario

/-!
# Reports

What the command line shows, as JSON: how a size is read, which settings are in force, and how a
scenario went.

* **`Report.ofSize`**, **`Report.ofSettings`**, **`Report.ofScenario`** — the three reports.
-/

namespace DeviceQuota.Report

/-- A count of bytes. -/
def bytes (n : Bytes) : Json := .nat n.toNat

/-- How a text is read as a size. -/
def ofSize (input : String) : Json :=
  let size := Size.parseD input
  let fields :=
    [("input", Json.text input), ("bytes", bytes size), ("formatted", .text (Size.print size))]
  match Size.parse input with
  | .ok _ => .object (fields ++ [("valid", .bool true)])
  | .error why => .object (fields ++ [("valid", .bool false), ("error", .text why.message)])

/-- Which settings are in force. -/
def ofSettings (settings : Settings) : Json :=
  .object
    [("limit", bytes settings.limit),
     ("limit_formatted", .text (Size.print settings.limit)),
     ("log_level", .text settings.logLevel.name),
     ("admission_mode", .text settings.mode.name),
     ("max_allocations", Json.ofOption Json.nat settings.capacity)]

/-- The figures of a ledger. -/
def ofSnapshot (s : Snapshot) : Json :=
  .object
    [("limit", bytes s.limit),
     ("used", bytes s.used),
     ("peak", bytes s.peak),
     ("available", bytes s.available),
     ("total_allocs", .nat s.allocs),
     ("total_frees", .nat s.frees),
     ("failed_allocs", .nat s.failed),
     ("tracked", .nat s.tracked)]

/-- The name of a kind of step. -/
def stepName : StepKind → String
  | .allocate => "allocate"
  | .free => "free"
  | .memInfo => "mem_info"

/-- A step of a scenario. -/
def ofStep (step : Step) : Json :=
  .object
    [("op", .text (stepName step.kind)),
     ("size", bytes step.size),
     ("status", .number step.status.toInt),
     ("handle", bytes step.handle),
     ("used_after", bytes step.usedAfter)]

/-- How a scenario went. -/
def ofScenario (report : Scenario.Report) : Json :=
  .object
    [("scenario", .text report.scenario.name),
     ("admission_mode", .text report.mode.name),
     ("limit", bytes report.snapshot.limit),
     ("steps", .array (report.steps.map ofStep)),
     ("snapshot", ofSnapshot report.snapshot),
     ("device_high_water", bytes report.highWater),
     ("limit_exceeded", .bool report.limitExceeded),
     ("conserved", .bool report.conserved)]

/-- How a scenario went, in one line. -/
def summary (report : Scenario.Report) : String :=
  report.scenario.name ++ ": " ++ toString report.steps.length ++ " steps, used=" ++
    toString report.snapshot.used.toNat ++ " limit=" ++ toString report.snapshot.limit.toNat ++
    " exceeded=" ++ (if report.limitExceeded then "true" else "false")

end DeviceQuota.Report
