import SpiProgrammer.Text.ControlSequence

/-! # What a program tells its surroundings on the way

A notice needs no answer: a log record, the size of a piece of work just finished, or text for
one of the two output streams. -/
set_option autoImplicit false

namespace SpiProgrammer

namespace Log

inductive Level where
  | error
  | warn
  | info
  | debug
  | trace
deriving DecidableEq, Repr

/-- The most severe level comes first. -/
def Level.rank : Level → Nat
  | .error => 1
  | .warn => 2
  | .info => 3
  | .debug => 4
  | .trace => 5

def Level.name : Level → String
  | .error => "ERROR"
  | .warn => "WARN"
  | .info => "INFO"
  | .debug => "DEBUG"
  | .trace => "TRACE"

structure Record where
  level : Level
  text : String
deriving DecidableEq, Repr

/-- A limit lets through the records of its own level and all more severe ones; no limit at all
means that logging is off. -/
def Record.passes (limit : Option Level) (record : Record) : Bool :=
  match limit with
  | none => false
  | some level => record.level.rank ≤ level.rank

/-- One entry of a log: the level, then the text. -/
def Record.entry (record : Record) : String :=
  record.level.name ++ " " ++ record.text

end Log

inductive Notice where
  | log (record : Log.Record)
  | progress (count : Nat)
  | output (text : String)
  | complaint (text : String)
deriving DecidableEq, Repr

namespace Notice

def record? : Notice → Option Log.Record
  | .log record => some record
  | _ => none

def progress? : Notice → Option Nat
  | .progress count => some count
  | _ => none

def output? : Notice → Option String
  | .output text => some text
  | _ => none

/-- Further lines of a record's text are set off from the margin. -/
def indented (text : String) : String :=
  String.intercalate "\n    " (text.splitOn "\n")

/-- A record as the error stream shows it.  The stream is no terminal, so control sequences are
left out of the whole record, its end included. -/
def written (record : Log.Record) : String :=
  Text.withoutControls (indented record.entry ++ "\n")

/-- The text that goes to the error stream when the log is limited to `limit`. -/
def complaint? (limit : Option Log.Level) : Notice → Option String
  | .complaint text => some text
  | .log record => if record.passes limit then some (written record) else none
  | _ => none

end Notice

end SpiProgrammer
