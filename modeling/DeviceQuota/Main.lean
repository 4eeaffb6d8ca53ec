import DeviceQuota.CommandLine

/-!
# The program

Reads the arguments and the four environment variables, and writes what `Request.runArguments`
says.
-/

namespace DeviceQuota

/-- The variables that settings are read from. -/
def settingVariables : List String :=
  [Settings.quotaVariable, Settings.logLevelVariable, Settings.modeVariable,
   Settings.capacityVariable]

end DeviceQuota

/-- The program. -/
def main (args : List String) : IO UInt32 := do
  let environment ← DeviceQuota.settingVariables.mapM fun name => do
    return (name, ← IO.getEnv name)
  let output := DeviceQuota.Request.runArguments args fun name => (environment.lookup name).join
  IO.print output.stdout
  IO.eprint output.stderr
  return output.exit
