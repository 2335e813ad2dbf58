import Worksheet.Launch.Run

/-!
# The program

Reads the arguments, asks the system for the files that the run needs, and prints its report.
-/

namespace Worksheet

/-- The state of a file on this system. -/
def readFile (path : String) : IO File := do
  try
    return .content (← IO.FS.readBinFile path)
  catch
    | .noFileOrDirectory .. => return .missing
    | _ => return .unreadable

/-- Why the system refused a file. -/
def refusal : IO.Error → String
  | .noFileOrDirectory _ code details | .permissionDenied _ code details
  | .inappropriateType _ code details | .invalidArgument _ code details
  | .resourceExhausted _ code details | .unsupportedOperation code details
  | .resourceBusy code details | .otherError code details =>
    details ++ " (os error " ++ toString code ++ ")"
  | e => toString e

/-- Opens a log file for appending. -/
def openLogFile (path : String) : IO (Except String Unit) := do
  try
    let _ ← IO.FS.Handle.mk path .append
    return .ok ()
  catch e => return .error (refusal e)

/-- The settings file of the user on this system. -/
def userConfigPath : IO (Option String) := do
  let some dir ← (do
      match ← IO.getEnv "XDG_CONFIG_HOME" with
      | some dir => if dir.toList.head? == some '/' then return some dir else home
      | none => home) | return none
  return some (dir ++ "/zingsheet/config.toml")
where
  /-- The directory for settings below the home directory. -/
  home : IO (Option String) := do
    return (← IO.getEnv "HOME").map (· ++ "/.config")

/-- Runs the program with options and prints its report. -/
def execute (o : Options) : IO UInt32 := do
  let log ← match o.logFile with
    | some path => openLogFile path
    | none => pure (.ok ())
  let userConfig ← userConfigPath
  let noFiles : Host := ⟨userConfig, fun _ => .missing, fun _ => .ok fun _ => .missing⟩
  let file ← match Launch.source? noFiles o with
    | some s => readFile s.path
    | none => pure .missing
  let host : Host := ⟨userConfig, fun _ => file, fun _ => log.map fun () _ => file⟩
  let report := Launch.run host o
  for notice in report.notices do
    IO.eprintln notice
  IO.print report.output
  return UInt32.ofNat report.code

end Worksheet

open Worksheet in
/-- The entry point. -/
def main (args : List String) : IO UInt32 := do
  match Invocation.parse args with
  | some .version => IO.println Launch.versionLine; return 0
  | some (.run o) => execute o
  | none => IO.eprintln "error: the arguments cannot be used"; return 2
