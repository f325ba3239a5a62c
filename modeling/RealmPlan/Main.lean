import RealmPlan.Command

namespace RealmPlan.Command

-- Reads the named files, runs the command over their texts, and prints what it leaves.

def readFile (path : String) : IO (Except String String) := do
  try
    return .ok (← IO.FS.readFile path)
  catch fault =>
    match fault with
    | .noFileOrDirectory .. => return .error "No such file or directory (os error 2)"
    | fault => return .error (toString fault)

def readFiles (paths : List String) : IO Files := do
  let contents ← paths.mapM fun path => return (path, ← readFile path)
  return fun path => (contents.lookup path).getD (.error "No such file or directory (os error 2)")

def settingNames : List String :=
  ["LOG_LEVEL", "LOG_FORMAT", "LOG_ENABLE_COLOR", "ENABLE_METRICS", "ABORT_ON_UNAVAILABLE",
   "MAX_ROLES_PER_CLIENT", "RUST_LOG"]

def logText : Log.Line → String
  | .text line => line
  | .record value => value.compact

end RealmPlan.Command

open RealmPlan Command in
def main (arguments : List String) : IO UInt32 := do
  let paths := ((Request.ofArguments? arguments).map (·.paths)).getD []
  let files ← readFiles paths
  let settings ← settingNames.mapM fun name => return (name, ← IO.getEnv name)
  let outcome := run files (fun name => (settings.lookup name).join) arguments
  for line in outcome.log do
    IO.eprintln (logText line)
  IO.print outcome.output
  unless outcome.complaint.isEmpty do
    IO.eprintln outcome.complaint
  return outcome.exit.toUInt32
