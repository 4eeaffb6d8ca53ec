import DeviceQuota.Hook

/-!
# The host process

A process has one set of hooks, set up when it is loaded, and one log on its standard error. Events
go to a subscriber, who is installed once and for all at a level; a threshold that can still be
changed later guards the lines that are written without the subscriber, such as the last one.

* **`Host`** — hooks, symbols in memory, log and what was written so far;
* **`Host.load`**, **`Host.unload`** — its beginning and end;
* **`Host.call`** — a call of an exported hook;
* **`Host.install`**, **`Host.writeRaw`** — the log.
-/

namespace DeviceQuota

/-- The state of a process. -/
structure Host where
  hooks : Hooks
  /-- The functions of runtimes that are in memory. -/
  symbols : List String
  /-- The threshold of lines that are written without the subscriber. -/
  threshold : LogLevel
  /-- The level of the subscriber; `none` while there is none. -/
  subscriber : Option LogLevel
  /-- What was written to standard error. -/
  written : String

namespace Host

/-- A line as it is written without the subscriber. -/
def rawLine (level : LogLevel) (message : String) : String :=
  level.tag ++ " " ++ message ++ "\n"

/-- Where each function can be found: wherever it is in memory. -/
def resolver (p : Host) : Resolver :=
  fun symbol => if p.symbols.contains symbol then some 1 else none

/-- The events written by the subscriber. -/
def emit (p : Host) (events : List Event) : Host :=
  match p.subscriber with
  | none => p
  | some level =>
    { p with
      written := p.written ++ String.join ((Event.shown level events).map fun e => e.line ++ "\n") }

/-- A line written without the subscriber. -/
def writeRaw (p : Host) (level : LogLevel) (message : String) : Host :=
  if p.threshold.allows level then { p with written := p.written ++ rawLine level message } else p

/-- The threshold set, and a subscriber installed at it. A threshold that shows nothing needs no
subscriber; one that is there already stays, which is a failure. -/
def install (p : Host) (level : LogLevel) : Bool × Host :=
  let set := { p with threshold := level }
  if level = .none then (true, set)
  else
    match p.subscriber with
    | some _ => (false, set)
    | none => (true, { set with subscriber := some level })

/-- All functions looked up silently. -/
def probeAll (p : Host) : Host :=
  { p with hooks := Vendor.all.foldl (fun h v => h.probe p.resolver v) p.hooks }

/-- The vendors whose function that allocates was found. -/
def presentVendors (h : Hooks) : List String :=
  (Vendor.all.map fun v => (h.family v).presence).filterMap fun presence =>
    if presence.canAllocate then some presence.summary else none

/-- A process set up. -/
def load (settings : Settings) (symbols : List String) : Host :=
  let fresh : Host :=
    { hooks := .new settings true
      symbols := symbols
      threshold := .standard
      subscriber := none
      written := "" }
  let probed := (fresh.install settings.logLevel).2.probeAll
  let gate := probed.hooks.gate
  let announced := probed.emit
    [.initialized gate.limit gate.mode gate.ledger.table.capacity (presentVendors probed.hooks)]
  if probed.hooks.cuda.isPresent then announced else announced.emit [.cudaNotLoaded]

/-- The last line of a process. -/
def unload (p : Host) : Host :=
  p.writeRaw .info ("vramgate shutdown: " ++ p.hooks.gate.snapshot.summary)

/-- More functions in memory. -/
def link (p : Host) (symbols : List String) : Host :=
  { p with symbols := p.symbols ++ symbols }

/-- The call of an exported hook. The one for managed memory belongs to CUDA. -/
def call (p : Host) (vendor : Vendor) (call : HookCall) : HookResult × Host :=
  let owner := match call.role with
    | .allocateManaged => .cuda
    | _ => vendor
  let result := p.hooks.call p.resolver owner call
  (result, { p with hooks := result.hooks }.emit result.events)

/-- The lines of standard error. -/
def lines (p : Host) : List String := Text.lines p.written

end Host

end DeviceQuota
