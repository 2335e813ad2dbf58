import Worksheet.Launch.Files
import Worksheet.Launch.Options

/-!
# Running the program

A run opens the log, loads the settings, makes the document and does the batch work, in this order;
the first problem ends it with exit code one.  What the run needs from its surroundings is a
`Host`, so a run is a function.

Interactive use needs a terminal to take over.  A run has none, so a start without batch work ends
with a problem once everything else has been set up.
-/

namespace Worksheet

/-- What a run needs from its surroundings. -/
structure Host where
  /-- The settings file of the user. -/
  userConfig : Option String
  /-- The state of a file. -/
  file : String → File
  /-- Opens a log file, and answers the state of the files from then on; or the text tells why that
  failed. -/
  openLog : String → Except String (String → File)

/-- The host with the files of a file tree. -/
def Files.host (f : Files) (userConfig : Option String) : Host where
  userConfig := userConfig
  file := f.read
  openLog path :=
    match f.open? path with
    | .ok f => .ok f.read
    | .error e => .error e.message

namespace Launch

/-- The name and the version of the program. -/
def versionLine : String := "zingsheet 0.1.0"

/-- Why a run ends early. -/
inductive Problem where
  /-- The log file could not be opened. -/
  | logFile (path reason : String)
  /-- The document cannot have the size that was asked for. -/
  | sheetSize (f : Failure)
  | batch (p : Batch.Problem)
  /-- There is no terminal for interactive use. -/
  | noTerminal
deriving DecidableEq, Repr

/-- The message for a problem: what was attempted, then why it failed. -/
def Problem.message : Problem → String
  | logFile path reason => "failed to open log file " ++ path ++ ": " ++ reason
  | sheetSize f => "invalid sheet size: " ++ f.message
  | batch p => p.message
  | noTerminal => "terminal UI failed"

/-- What a run leaves: its exit code, its output, and the lines about warnings and errors. -/
structure Report where
  /-- The exit code. -/
  code : Nat
  /-- The text on standard output. -/
  output : String
  /-- The messages on standard error. -/
  notices : List String

/-- The report of a run that a problem has ended. -/
def Report.failed (output : String) (notices : List String) (p : Problem) : Report :=
  ⟨1, output, notices ++ ["Error: " ++ p.message]⟩

/-- Where the settings of a run come from; none if it uses the default settings. -/
def source? (host : Host) (o : Options) : Option Settings.Source :=
  if o.noConfig then none
  else match o.config with
    | some path => some ⟨path, true⟩
    | none => host.userConfig.map fun path => ⟨path, false⟩

/-- The settings of a run, with the warnings about them. -/
def settings (host : Host) (o : Options) : Settings × List Settings.Warning :=
  match source? host o with
  | none => ({}, [])
  | some s => Settings.load s (host.file s.path)

/-- The document that a run starts with. -/
def document (o : Options) (s : Settings) : Except Failure Document :=
  Document.ofSize (o.rows.getD s.rows) (o.cols.getD s.cols)

/-- The part of a run after the log has been opened. -/
def work (host : Host) (o : Options) : Report :=
  let (s, warnings) := settings host o
  let notices := warnings.map fun w => "Warning: " ++ w.message
  match document o s with
  | .error f => .failed "" notices (.sheetSize f)
  | .ok d =>
    if o.isBatch then
      let outcome := Batch.run d o.request
      match outcome.result with
      | .ok code => ⟨code, outcome.output, notices⟩
      | .error p => .failed outcome.output notices (.batch p)
    else .failed "" notices .noTerminal

/-- Runs the program. -/
def run (host : Host) (o : Options) : Report :=
  match o.logFile with
  | none => work host o
  | some path =>
    match host.openLog path with
    | .ok file => work { host with file := file } o
    | .error reason => .failed "" [] (.logFile path reason)

end Launch

end Worksheet
