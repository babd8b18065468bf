import SpiProgrammer.CommandLine.Arguments
import SpiProgrammer.Notice

/-! # Invocations

The arguments name a command, with flags before it and its own arguments behind it.  What is
understood is the command with all it needs, and how much is to be logged. -/
set_option autoImplicit false

namespace SpiProgrammer.CommandLine

inductive Command where
  | listProgrammers
  | info (programmer : String)
  | probe (programmer : String)
  | read (programmer path : String) (address length : UInt32)
  | write (programmer path : String) (address : UInt32) (eraseFirst verifyAfter : Bool)
  | erase (programmer : String) (address : UInt32) (length : Option UInt32)
deriving DecidableEq, Repr

structure Invocation where
  verbosity : Nat
  command : Command
deriving DecidableEq, Repr

def Invocation.logLimit (invocation : Invocation) : Log.Level :=
  match invocation.verbosity with
  | 0 => .info
  | 1 => .debug
  | _ => .trace

def demand {α : Type} : Option α → Except UsageFault α
  | some value => .ok value
  | none => .error .missingOption

/-- An address that is not given is zero. -/
def commandOf (verb : Verb) (given : Given) : Except UsageFault Command := do
  let address := given.address.getD 0
  match verb with
  | .listProgrammers => return .listProgrammers
  | .info => return .info (← demand given.programmer)
  | .probe => return .probe (← demand given.programmer)
  | .read =>
    return .read (← demand given.programmer) (← demand given.output) address
      (← demand given.length)
  | .write =>
    return .write (← demand given.programmer) (← demand given.input) address
      (Flag.erase ∈ given.flags) (Flag.noVerify ∉ given.flags)
  | .erase => return .erase (← demand given.programmer) address given.length

/-- Understands a command and what is behind it.  Verbosity asked for behind the command counts
instead of that before it. -/
def readCommand (verb : Verb) (verbosity : Option Nat) (arguments : List String) :
    Except UsageFault Invocation := do
  let given ← Given.takeAll verb {} arguments
  let command ← commandOf verb given
  return ⟨(given.verbosity.or verbosity).getD 0, command⟩

/-- The pseudo command that shows help, about one other command at most. -/
def helpName : String := "help"

def isCommand (name : String) : Bool :=
  name == helpName || (Verb.ofName? name).isSome

def readHelp : List String → UsageFault
  | [] => .helpWanted
  | [name] => if isCommand name then .helpWanted else .unknownCommand
  | _ => .unknownCommand

/-- Flags in front of the command, as a cluster of letters. -/
def frontLetters (verbosity : Option Nat) : List Char → Except UsageFault (Option Nat)
  | [] => .ok verbosity
  | 'v' :: rest => frontLetters (Given.louder verbosity) rest
  | 'h' :: _ => .error .helpWanted
  | 'V' :: _ => .error .versionWanted
  | _ => .error .unknownArgument

/-- A flag in front of the command, named in full. -/
def frontName (verbosity : Option Nat) (name : String) (value : Option String) :
    Except UsageFault (Option Nat) :=
  if name = "verbose" ∨ name = "help" ∨ name = "version" then
    if value.isSome then .error .unwantedValue
    else if name = "help" then .error .helpWanted
    else if name = "version" then .error .versionWanted
    else .ok (Given.louder verbosity)
  else .error .unknownArgument

def noCommand (verbosity : Option Nat) : UsageFault :=
  if verbosity.isSome then .missingCommand else .nothingGiven

/-- Understands the arguments from the first one on. -/
def readFrom (verbosity : Option Nat) : List String → Except UsageFault Invocation
  | [] => .error (noCommand verbosity)
  | text :: rest =>
    match Verb.ofName? text with
    | some verb => readCommand verb verbosity rest
    | none =>
      if text = helpName then .error (readHelp rest)
      else match Argument.ofString text with
        | .end =>
          .error <| match rest with
            | [] => noCommand verbosity
            | name :: _ => if isCommand name then .unknownArgument else .unknownCommand
        | .named name value => do readFrom (← frontName verbosity name value) rest
        | .letters cluster => do readFrom (← frontLetters verbosity cluster) rest
        | .plain _ => .error .unknownCommand

def Invocation.ofArguments (arguments : List String) : Except UsageFault Invocation :=
  readFrom none arguments

end SpiProgrammer.CommandLine
