import DeviceQuota.Report

/-!
# The command line

    parse-size VALUE
    config
    scenario KIND [--quota SIZE] [--mode MODE] [--threads N] [--size SIZE]

`--pretty` may stand anywhere, once in front of the command and once behind it. An option's value
stands behind an equals sign or is the next argument, which must not look like an option itself.
Behind `--` nothing is an option.

* **`Request`** — what is asked for, and **`Request.parse?`**, the grammar;
* **`Request.run`** — what is written, and the exit code.
-/

namespace DeviceQuota

/-- A command. -/
inductive Command where
  /-- How a text is read as a size. -/
  | parseSize (value : String)
  /-- Which settings are in force. -/
  | config
  /-- How a scenario goes. Sizes and mode are still texts. -/
  | scenario (kind : Scenario) (quota mode : String) (threads : Nat) (size : String)
  deriving DecidableEq, Repr

/-- What is asked for. -/
structure Request where
  command : Command
  /-- Reports are written with one item a line. -/
  pretty : Bool
  deriving DecidableEq, Repr

/-- What a run writes. -/
structure Output where
  exit : UInt32
  stdout : String
  stderr : String
  deriving DecidableEq, Repr

/-- Arguments sorted by what they are. -/
structure Arguments where
  /-- `--pretty` was given. -/
  pretty : Bool
  options : List (String × String)
  values : List String
  deriving DecidableEq, Repr

namespace Arguments

/-- Nothing given. -/
def empty : Arguments := ⟨false, [], []⟩

/-- The value of an option, or the standard value where it was not given. -/
def option (a : Arguments) (name standard : String) : String :=
  (a.options.lookup name).getD standard

/-- An argument that looks like an option. A lone minus sign does not. -/
def looksLikeOption (arg : String) : Bool :=
  match arg.toList with
  | '-' :: _ :: _ => true
  | _ => false

/-- A long option's name and the value behind its equals sign; `none` for other arguments. -/
def long? (arg : String) : Option (String × Option String) :=
  match arg.toList with
  | '-' :: '-' :: name =>
    let value := match name.dropWhile (· != '=') with
      | '=' :: value => some (String.ofList value)
      | _ => none
    some (String.ofList (name.takeWhile (· != '=')), value)
  | _ => none

/-- `--pretty`, which takes no value and is given once. -/
def addPretty (a : Arguments) (attached : Option String) : Option Arguments :=
  if attached.isSome || a.pretty then none else some { a with pretty := true }

/-- An option with its value, given once. -/
def addOption (a : Arguments) (name value : String) : Option Arguments :=
  if (a.options.lookup name).isSome then none
  else some { a with options := a.options ++ [(name, value)] }

/-- The arguments `args` behind those of `a`, where the options `known` take a value. -/
def read? (known : List String) (args : List String) (a : Arguments) : Option Arguments :=
  match args with
  | [] => some a
  | arg :: rest =>
    if arg = "--" then some { a with values := a.values ++ rest }
    else
      match long? arg with
      | none =>
        if looksLikeOption arg then none
        else read? known rest { a with values := a.values ++ [arg] }
      | some (name, attached) =>
        if name = "pretty" then (a.addPretty attached).bind (read? known rest)
        else if !known.contains name then none
        else
          match attached, rest with
          | some value, rest => (a.addOption name value).bind (read? known rest)
          | none, [] => none
          | none, value :: rest =>
            if looksLikeOption value then none
            else (a.addOption name value).bind (read? known rest)

end Arguments

namespace Command

/-- The options of a scenario. -/
def scenarioOptions : List String := ["quota", "mode", "threads", "size"]

/-- A command by its name and the arguments behind it, and whether `--pretty` is among them. -/
def parse? (name : String) (args : List String) : Option (Command × Bool) :=
  if name = "parse-size" then
    match Arguments.read? [] args .empty with
    | some ⟨pretty, _, [value]⟩ => some (parseSize value, pretty)
    | _ => none
  else if name = "config" then
    match Arguments.read? [] args .empty with
    | some ⟨pretty, _, []⟩ => some (config, pretty)
    | _ => none
  else if name = "scenario" then
    match Arguments.read? scenarioOptions args .empty with
    | some ⟨pretty, options, [kind]⟩ =>
      let given : Arguments := ⟨pretty, options, [kind]⟩
      match Scenario.ofName? kind, Text.readWord? (given.option "threads" "8").toList with
      | some kind, some threads =>
        some (scenario kind (given.option "quota" "1Gi") (given.option "mode" "optimistic")
          threads.toNat (given.option "size" "50Mi"), pretty)
      | _, _ => none
    | _ => none
  else none

end Command

namespace Request

/-- What the arguments ask for; `none` where they do not make a request. -/
def parse? : List String → Option Request
  | [] => none
  | "--pretty" :: name :: args =>
    (Command.parse? name args).map fun (command, _) => ⟨command, true⟩
  | name :: args => (Command.parse? name args).map fun (command, pretty) => ⟨command, pretty⟩

/-- A report on standard output. -/
def written (pretty : Bool) (report : Json) : String :=
  (if pretty then report.pretty else report.compact) ++ "\n"

/-- A text that should have been a size. -/
def malformed (why : Size.Malformed) : String :=
  match why with
  | .empty => "Size(Empty)"
  | .notANumber raw => "Size(NotANumber(" ++ Text.quoted raw ++ "))"
  | .negative raw => "Size(Negative(" ++ Text.quoted raw ++ "))"

/-- The end of a run that failed. -/
def failure (cause : String) : Output := ⟨1, "", "Error: " ++ cause ++ "\n"⟩

/-- The end of a scenario that reported nothing. -/
def unreported : Scenario.Problem → Output
  | .brokeOff why => ⟨101, "", why.message ++ "\n"⟩
  | problem => failure ("InvalidArgument(" ++ Text.quoted problem.message ++ ")")

/-- A run of a scenario. The quota is read before the size. -/
def runScenario (pretty : Bool) (kind : Scenario) (quota mode : String) (threads : Nat)
    (size : String) : Output :=
  match Size.parse quota with
  | .error why => failure (malformed why)
  | .ok limit =>
    match Size.parse size with
    | .error why => failure (malformed why)
    | .ok size =>
      match kind.run ⟨limit, .read mode, threads, size⟩ with
      | .error problem => unreported problem
      | .ok report => ⟨0, written pretty (Report.ofScenario report), Report.summary report ++ "\n"⟩

/-- What a request writes in an environment. -/
def run (r : Request) (lookup : String → Option String) : Output :=
  match r.command with
  | .parseSize value => ⟨0, written r.pretty (Report.ofSize value), ""⟩
  | .config => ⟨0, written r.pretty (Report.ofSettings (.ofLookup lookup)), ""⟩
  | .scenario kind quota mode threads size => runScenario r.pretty kind quota mode threads size

/-- The help for arguments that make no request. -/
def usage : String :=
  "usage: parse-size VALUE | config | scenario KIND [--quota SIZE] [--mode MODE] [--threads N] " ++
    "[--size SIZE], each with [--pretty]\n"

/-- What a command line writes in an environment. -/
def runArguments (args : List String) (lookup : String → Option String) : Output :=
  match parse? args with
  | some request => request.run lookup
  | none => ⟨2, "", usage⟩

end Request

end DeviceQuota
