import Worksheet.Batch

/-!
# Command line options

The program takes options only, in any order.  A long option has its value after an equals sign or
as the next argument; a short option may also have it attached.  Only `--set` may be repeated, and
`--config` excludes `--no-config`.  Arguments are read from left to right: the first mistake makes
the whole line unusable, unless `--version` came before it.
-/

namespace Worksheet

/-- What the arguments ask for. -/
structure Options where
  /-- The number of rows, in place of the setting. -/
  rows : Option Nat := none
  /-- The number of columns, in place of the setting. -/
  cols : Option Nat := none
  /-- The settings file. -/
  config : Option String := none
  /-- Whether to leave the settings file of the user alone. -/
  noConfig : Bool := false
  /-- The texts to commit, in order. -/
  assignments : List Assignment := []
  /-- The formula to evaluate. -/
  command : Option String := none
  /-- Whether to print the table. -/
  print : Bool := false
  /-- Whether to print the dump. -/
  dump : Bool := false
  /-- The file that the log goes to. -/
  logFile : Option String := none

namespace Options

/-- The options without a value. -/
inductive Flag where
  | noConfig
  | print
  | dump
  | version
deriving DecidableEq, Repr

/-- The options with a value. -/
inductive Setting where
  | rows
  | cols
  | config
  | set
  | command
  | logFile
deriving DecidableEq, Repr

/-- One argument, on its own. -/
inductive Argument where
  | flag (f : Flag)
  /-- An option together with its value. -/
  | assigned (s : Setting) (value : String)
  /-- An option whose value is the next argument. -/
  | awaiting (s : Setting)
  /-- The end of the options. -/
  | stop
  /-- No option of this program. -/
  | unknown
deriving DecidableEq, Repr

namespace Argument

/-- A long option, by the text between the hyphens and an equals sign. -/
def long : String → Argument
  | "no-config" => flag .noConfig
  | "print" => flag .print
  | "dump" => flag .dump
  | "version" => flag .version
  | "rows" => awaiting .rows
  | "cols" => awaiting .cols
  | "config" => awaiting .config
  | "set" => awaiting .set
  | "command" => awaiting .command
  | "log-file" => awaiting .logFile
  | _ => unknown

/-- A short option, by its letter. -/
def short : Char → Argument
  | 'V' => flag .version
  | 's' => awaiting .set
  | 'c' => awaiting .command
  | _ => unknown

/-- Reads one argument. -/
def read (s : String) : Argument :=
  match s.toList with
  | ['-', '-'] => stop
  | '-' :: '-' :: cs =>
    let option := long (String.ofList (cs.takeWhile (· != '=')))
    match option, cs.dropWhile (· != '=') with
    | option, [] => option
    | awaiting o, _ :: value => assigned o (String.ofList value)
    | _, _ :: _ => unknown
  | '-' :: c :: cs =>
    match short c, cs with
    | option, [] => option
    | awaiting o, '=' :: value => assigned o (String.ofList value)
    | awaiting o, value => assigned o (String.ofList value)
    | option, _ => option
  | _ => unknown

end Argument

/-- Whether an argument may be the value of the option before it. -/
def isValue (s : String) : Bool := s == "-" || s.toList.head? != some '-'

/-- The options with a flag raised; none if it was raised before. -/
def raise (o : Options) : Flag → Option Options
  | .noConfig => if o.noConfig then none else some { o with noConfig := true }
  | .print => if o.print then none else some { o with print := true }
  | .dump => if o.dump then none else some { o with dump := true }
  | .version => some o

/-- The options with a value set; none if the value is bad or the option was set before. -/
def assign (o : Options) (s : Setting) (value : String) : Option Options :=
  match s with
  | .rows =>
    if o.rows.isSome then none
    else (Text.count? value.toList).map fun n => { o with rows := some n }
  | .cols =>
    if o.cols.isSome then none
    else (Text.count? value.toList).map fun n => { o with cols := some n }
  | .config =>
    if o.config.isSome || value.isEmpty then none else some { o with config := some value }
  | .command => if o.command.isSome then none else some { o with command := some value }
  | .logFile =>
    if o.logFile.isSome || value.isEmpty then none else some { o with logFile := some value }
  | .set =>
    match Assignment.parse value with
    | .ok a => some { o with assignments := o.assignments ++ [a] }
    | .error _ => none

/-- The options as a batch request. -/
def request (o : Options) : Batch.Request := ⟨o.assignments, o.command, o.print, o.dump⟩

/-- Whether the options ask for batch work; otherwise the program is interactive. -/
def isBatch (o : Options) : Bool := o.request.asks

end Options

/-- What the program is started for. -/
inductive Invocation where
  /-- To tell its version. -/
  | version
  | run (o : Options)

namespace Invocation

/-- Checks the options once all arguments are read. -/
def finish (o : Options) : Option Invocation :=
  if o.config.isSome && o.noConfig then none else some (.run o)

/-- Reads the remaining arguments; none if they cannot be used. -/
def parseFrom (o : Options) : List String → Option Invocation
  | [] => finish o
  | arg :: rest =>
    match Options.Argument.read arg with
    | .flag .version => some .version
    | .flag f => (o.raise f).bind fun o => parseFrom o rest
    | .assigned s value => (o.assign s value).bind fun o => parseFrom o rest
    | .awaiting s =>
      match rest with
      | value :: rest =>
        if Options.isValue value then (o.assign s value).bind fun o => parseFrom o rest else none
      | [] => none
    | .stop => if rest.isEmpty then finish o else none
    | .unknown => none

/-- Reads the arguments of the program; none if they cannot be used. -/
def parse (args : List String) : Option Invocation := parseFrom {} args

end Invocation

end Worksheet
