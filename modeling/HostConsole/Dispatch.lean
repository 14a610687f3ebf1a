/-
Dispatch: one line is one transaction. The first word of a line is the command, in lowercase, and the other words are
its arguments, as typed. There is no quoting, so an argument never holds a blank.

A blank line does nothing, and a line that starts with the help word answers with one entry. Every other line is
prepared first: its command is looked up, its arguments are counted and then read in order. Only a line that passes all
of this runs its handler, once. Whatever goes wrong is reported by exactly one entry, a warning if nothing ran and an
error if the handler failed.

An execution gives the outcome, the world afterwards, and the entries appended to the log, in order: first those of
the records the handler emitted, as far as they are captured, then the report.
-/
import HostConsole.Catalog.Help

namespace HostConsole

/-! ## Lines -/

/-- a line split into command and arguments -/
structure Line where
  command : String
  arguments : List String
  deriving DecidableEq

/-- split a line; a line of blanks has no command -/
def Line.read? (text : String) : Option Line :=
  match Text.words text with
  | [] => none
  | command :: arguments => some ⟨Text.lower command, arguments⟩

/-! ## Faults and outcomes -/

/-- why a line did not run to its end -/
inductive Fault where
  | unknownCommand (command : String)
  | wrongCount (command : String) (expected received : Nat)
  | badArgument (command : String) (bad : Parameter.BadArgument)
  | failed (command : String) (message : String)
  deriving DecidableEq

namespace Fault

/-- the text of a report -/
def message : Fault → String
  | unknownCommand command => "Unknown command: " ++ command
  | wrongCount _ expected received =>
    "Expected " ++ toString expected ++ " args, got " ++ toString received
  | badArgument _ bad => bad.message
  | failed _ message => "Command execution error: " ++ message

/-- the command of the line -/
def command : Fault → String
  | unknownCommand command | wrongCount command _ _ | badArgument command _ | failed command _ => command

/-- a failed handler is an error, all else a warning -/
def severity : Fault → Severity
  | failed .. => .error
  | _ => .warning

/-- the entry that reports the fault -/
def entry (fault : Fault) : Entry :=
  ⟨fault.severity, fault.message⟩

end Fault

/-- what a line did when nothing went wrong -/
inductive Outcome where
  | blank
  | help
  | invoked (command : String)
  deriving DecidableEq

/-- what an execution leaves behind -/
structure Execution (H : Host) where
  outcome : Except Fault Outcome
  world : H.World
  entries : List Entry

namespace Catalog

variable {H : Host}

/-- the command of a line and the values of its arguments -/
def prepare (catalog : Catalog H) (line : Line) : Except Fault (Command H × List Value) :=
  match catalog.find? line.command with
  | none => .error (.unknownCommand line.command)
  | some command =>
    if line.arguments.length ≠ command.parameters.length then
      .error (.wrongCount line.command command.parameters.length line.arguments.length)
    else
      match Parameter.bind line.arguments command.parameters with
      | .ok values => .ok (command, values)
      | .error bad => .error (.badArgument line.command bad)

/-- run a handler and hold back its failure -/
def invoke (captured : LevelFilter) (command : Command H) (values : List Value) (world : H.World) :
    Option Failure × H.World × List Entry :=
  let entries (scope : Scope H) := scope.records.filterMap captured.entry?
  match command.invoke ⟨values⟩ ⟨world, []⟩ with
  | .ok _ scope => (none, scope.world, entries scope)
  | .error failure scope => (some failure, scope.world, entries scope)

/-- execute a line -/
def execute (catalog : Catalog H) (captured : LevelFilter) (text : String) (world : H.World) : Execution H :=
  match Line.read? text with
  | none => ⟨.ok .blank, world, []⟩
  | some line =>
    if line.command = helpWord then
      ⟨.ok .help, world, [⟨.info, catalog.help line.arguments⟩]⟩
    else
      match catalog.prepare line with
      | .error fault => ⟨.error fault, world, [fault.entry]⟩
      | .ok (command, values) =>
        match invoke captured command values world with
        | (none, world, entries) => ⟨.ok (.invoked line.command), world, entries⟩
        | (some failure, world, entries) =>
          let fault := Fault.failed command.name failure.message
          ⟨.error fault, world, entries ++ [fault.entry]⟩

end Catalog

end HostConsole
