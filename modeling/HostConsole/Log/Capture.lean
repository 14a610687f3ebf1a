/-
Records of the host's own logging, and which of them reach the console. A record has a level; a filter lets through
the levels up to its own. What the console captures becomes an entry of the bounded log, and all levels below a
warning become plain entries.
-/
import HostConsole.Log.Journal

namespace HostConsole

/-- levels of host records, from the most serious on -/
inductive Level where
  | error
  | warn
  | info
  | debug
  | trace
  deriving DecidableEq, Repr

/-- which levels pass: none, or all up to one -/
inductive LevelFilter where
  | off
  | upTo (level : Level)
  deriving DecidableEq, Repr

/-- one record of the host -/
structure Record where
  level : Level
  message : String
  deriving DecidableEq

namespace Level

/-- the place of a level, the most serious first -/
def place : Level → Nat
  | error => 1
  | warn => 2
  | info => 3
  | debug => 4
  | trace => 5

/-- the name of a level -/
def name : Level → String
  | error => "ERROR"
  | warn => "WARN"
  | info => "INFO"
  | debug => "DEBUG"
  | trace => "TRACE"

/-- all levels -/
def all : List Level :=
  [error, warn, info, debug, trace]

/-- the level of a name, in any ASCII case -/
def read? (text : String) : Option Level :=
  all.find? fun level => level.name.toList == text.toList.map Char.toUpper

/-- the severity of a captured record -/
def severity : Level → Severity
  | error => .error
  | warn => .warning
  | info | debug | trace => .info

end Level

namespace LevelFilter

/-- the place of a filter among the levels -/
def place : LevelFilter → Nat
  | off => 0
  | upTo level => level.place

/-- the name of a filter -/
def name : LevelFilter → String
  | off => "OFF"
  | upTo level => level.name

/-- a level passes -/
def passes (filter : LevelFilter) (level : Level) : Bool :=
  level.place ≤ filter.place

/-- the filter that lets more through -/
def widest (a b : LevelFilter) : LevelFilter :=
  if a.place < b.place then b else a

/-- all filters -/
def all : List LevelFilter :=
  off :: Level.all.map upTo

/-- the filter of a name, in any ASCII case -/
def read? (text : String) : Option LevelFilter :=
  all.find? fun filter => filter.name.toList == text.toList.map Char.toUpper

/-- the entry of a record that passes -/
def entry? (filter : LevelFilter) (record : Record) : Option Entry :=
  if filter.passes record.level then some ⟨record.level.severity, record.message⟩ else none

end LevelFilter

/-- host logging with two outlets: the console's log, and a stream of the host with a filter of its own -/
structure Capture where
  journal : Journal
  captured : LevelFilter
  streamed : LevelFilter

namespace Capture

/-- what the stream lets through when no filter is set -/
def defaultStreamed : LevelFilter := .upTo .error

/-- the widest of the two filters -/
def maxLevel (capture : Capture) : LevelFilter :=
  capture.captured.widest capture.streamed

/-- a record of this level goes somewhere -/
def enabled (capture : Capture) (level : Level) : Bool :=
  capture.captured.passes level || capture.streamed.passes level

/-- take a record -/
def log (capture : Capture) (record : Record) : Capture :=
  match capture.captured.entry? record with
  | some entry => { capture with journal := capture.journal.append entry }
  | none => capture

end Capture

end HostConsole
