import DeviceQuota.AdmissionMode
import DeviceQuota.LogLevel
import DeviceQuota.Refusal
import DeviceQuota.Size.Printer
import DeviceQuota.Text.Lines
import DeviceQuota.Text.Quoted

/-!
# Log events

Everything that is logged is one of the events below. An event has a level, a message, and in most
cases the name of what it is about, which is repeated as a field behind the message.

* **`Event`** — the events;
* **`Event.level`**, **`Event.message`**, **`Event.field`** — the parts of an event's line;
* **`Event.line`** — the line, and **`Event.lines`**, what a reader of the log sees of it;
* **`Event.shown`** — the events of a list that a threshold lets pass.
-/

namespace DeviceQuota

/-- Something that is logged. -/
inductive Event where
  /-- A request did not fit into the quota. -/
  | overQuota (function : String) (requested used limit : Bytes)
  | noSlot (function : String) (full : TableFull)
  /-- The runtime granted nothing that could be charged. -/
  | uncharged (function : String) (status : Status) (requested : Bytes)
  /-- The runtime granted a handle that was still tracked. -/
  | stale (function : String) (handle : Handle) (size : Bytes)
  | charged (function : String) (size : Bytes) (handle : Handle) (used : Bytes)
  | released (function : String) (size : Bytes) (handle : Handle) (used : Bytes)
  /-- A handle was released that is not tracked. -/
  | untracked (function : String) (handle : Handle)
  /-- A caller was told about the memory left. -/
  | queried (function : String) (free total : Bytes)
  /-- A function of the runtime was needed and not found. -/
  | missing (symbol : String)
  /-- The same, not for the first time. -/
  | stillMissing (symbol : String)
  | initialized (limit : Bytes) (mode : AdmissionMode) (capacity : Option Nat)
      (vendors : List String)
  /-- The process was set up before its CUDA runtime was loaded. -/
  | cudaNotLoaded
  deriving DecidableEq, Repr

namespace Event

/-- The version that a process announces itself with. -/
def version : String := "0.4.0"

/-- The level of an event. -/
def level : Event → LogLevel
  | overQuota .. | noSlot .. | stale .. | cudaNotLoaded => .warn
  | uncharged .. | charged .. | released .. | untracked .. | queried .. | stillMissing .. => .debug
  | missing .. => .error
  | initialized .. => .info

theorem level_ne_none (e : Event) : e.level ≠ .none := by cases e <;> simp [level]

/-- The event of a denial. -/
def ofDenial (function : String) : Denial → Event
  | .overQuota requested used limit => overQuota function requested used limit
  | .noSlot full => noSlot function full

/-- An address as it is written in messages. -/
def address (h : Handle) : String := "0x" ++ String.ofList (Text.hex h.toNat)

/-- The message of an event. -/
def message : Event → String
  | overQuota function requested used limit =>
    function ++ " DENIED: requested=" ++ Size.print requested ++ ", used=" ++ Size.print used ++
      ", limit=" ++ Size.print limit
  | noSlot function full =>
    function ++ " DENIED: " ++ full.message ++
      "; free tracked allocations or raise the tracking capacity"
  | uncharged function status requested =>
    function ++ ": real call returned " ++ toString status.toInt ++ " for " ++
      Size.print requested ++ "; nothing charged"
  | stale function handle size =>
    function ++ ": handle " ++ address handle ++ " was still tracked with " ++ Size.print size ++
      "; dropping stale entry"
  | charged function size handle used =>
    function ++ ": size=" ++ Size.print size ++ ", ptr=" ++ address handle ++ ", total_used=" ++
      Size.print used
  | released function size handle used =>
    function ++ ": size=" ++ Size.print size ++ ", ptr=" ++ address handle ++ ", total_used=" ++
      Size.print used
  | untracked function handle => function ++ ": ptr=" ++ address handle ++ " (not tracked)"
  | queried function free total =>
    function ++ ": free=" ++ Size.print free ++ ", total=" ++ Size.print total ++ " (virtualized)"
  | missing symbol => "failed to find real " ++ symbol
  | stillMissing symbol => "real " ++ symbol ++ " still unavailable"
  | initialized limit mode capacity vendors =>
    "vramgate " ++ version ++ " initialized, quota=" ++ Size.print limit ++ ", mode=" ++
      mode.name ++ ", max_allocations=" ++ (capacity.map toString).getD "unbounded" ++
      ", vendors=[" ++ ",".intercalate vendors ++ "]"
  | cudaNotLoaded => "cudaMalloc not found - CUDA library may not be loaded yet"

/-- The field behind the message: its name and its text. -/
def field : Event → Option (String × String)
  | overQuota function .. | noSlot function .. | uncharged function .. | stale function ..
  | charged function .. | released function .. | untracked function .. | queried function .. =>
    some ("function", function)
  | missing symbol | stillMissing symbol => some ("symbol", symbol)
  | initialized .. | cudaNotLoaded => none

/-- A character of a message as it is written. Characters that steer a terminal are spelled out,
so that no name can do so. -/
def visible (c : Char) : List Char :=
  let n := c.toNat
  if n = 0x07 then ['\\', 'x', '0', '7']
  else if n = 0x08 then ['\\', 'x', '0', '8']
  else if n = 0x0c then ['\\', 'x', '0', 'c']
  else if n = 0x1b then ['\\', 'x', '1', 'b']
  else if n = 0x7f then ['\\', 'x', '7', 'f']
  else if 0x80 ≤ n ∧ n ≤ 0x9f then ['\\', 'u', '\x7b'] ++ Text.hex n ++ ['\x7d']
  else [c]

/-- The line that is written for an event: level, message and field. -/
def line (e : Event) : String :=
  let field := match e.field with
    | some (name, value) => " " ++ name ++ "=" ++ Text.quoted value
    | none => ""
  e.level.tag ++ " " ++ String.ofList (e.message.toList.flatMap visible) ++ field

/-- The line of an event as it is read back: a name that holds a line feed breaks it. -/
def lines (e : Event) : List String := Text.lines e.line

/-- The events that `threshold` lets pass. -/
def shown (threshold : LogLevel) (events : List Event) : List Event :=
  events.filter fun e => threshold.allows e.level

@[simp] theorem shown_nil (threshold : LogLevel) : shown threshold [] = [] := rfl

@[simp] theorem shown_append (threshold : LogLevel) (es fs : List Event) :
    shown threshold (es ++ fs) = shown threshold es ++ shown threshold fs := by
  simp [shown]

/-- The lowest threshold lets every event pass. -/
@[simp] theorem shown_debug (events : List Event) : shown .debug events = events := by
  simp [shown, LogLevel.allows_debug (level_ne_none _)]

/-- The threshold `none` lets nothing pass. -/
@[simp] theorem shown_none (events : List Event) : shown .none events = [] := by
  simp [shown, LogLevel.none_allows]

end Event

end DeviceQuota
