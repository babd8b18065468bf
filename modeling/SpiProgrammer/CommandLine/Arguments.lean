import SpiProgrammer.CommandLine.Vocabulary

/-! # The arguments of a command

An argument names an option or flag in full behind two hyphens, or is a cluster of letters
behind one.  The value of an option is attached to it or is the next argument; it is looked at
when the next option or flag begins, or at the end.  Behind a lone pair of hyphens nothing counts
as an option any more, and since no command takes other arguments, nothing may follow it. -/
set_option autoImplicit false

namespace SpiProgrammer.CommandLine

/-- The option whose value has not been looked at yet. -/
inductive Pending where
  | nothing
  | awaiting (key : Key)
  | holding (key : Key) (value : String)
deriving DecidableEq, Repr

structure Given where
  programmer : Option String := none
  output : Option String := none
  input : Option String := none
  address : Option UInt32 := none
  length : Option UInt32 := none
  /-- The flags raised, those for verbosity not among them. -/
  flags : List Flag := []
  /-- How often verbosity was asked for, if it was. -/
  verbosity : Option Nat := none
  pending : Pending := .nothing
deriving DecidableEq, Repr

namespace Given

def has (given : Given) : Key → Bool
  | .programmer => given.programmer.isSome
  | .output => given.output.isSome
  | .input => given.input.isSome
  | .address => given.address.isSome
  | .length => given.length.isSome

def readPath (value : String) : Except UsageFault String :=
  if value = "" then .error .missingValue else .ok value

def store (given : Given) (key : Key) (value : String) : Except UsageFault Given :=
  match key with
  | .programmer => .ok { given with programmer := some value }
  | .output => (readPath value).map fun path => { given with output := some path }
  | .input => (readPath value).map fun path => { given with input := some path }
  | .address =>
    ((readNumber value).mapError UsageFault.badNumber).map fun number =>
      { given with address := some number }
  | .length =>
    ((readNumber value).mapError UsageFault.badNumber).map fun number =>
      { given with length := some number }

/-- Takes the value of an option, which must be the first. -/
def accept (given : Given) (key : Key) (value : String) : Except UsageFault Given :=
  if given.has key then .error .givenTwice else given.store key value

def settle (given : Given) : Except UsageFault Given :=
  match given.pending with
  | .nothing => .ok given
  | .awaiting _ => .error .missingValue
  | .holding key value => { given with pending := .nothing }.accept key value

/-- The highest verbosity that is told from the next. -/
def verbosityMax : Nat := 255

def louder (verbosity : Option Nat) : Option Nat :=
  some (min (verbosity.getD 0 + 1) verbosityMax)

def startOption (given : Given) (key : Key) (attached : Option String) :
    Except UsageFault Given := do
  let given ← given.settle
  match attached with
  | some value => given.accept key value
  | none => return { given with pending := .awaiting key }

/-- A flag is raised.  Only the one for verbosity may be raised again. -/
def raise (given : Given) (flag : Flag) : Except UsageFault Given := do
  let given ← given.settle
  match flag with
  | .help => throw .helpWanted
  | .verbose => return { given with verbosity := louder given.verbosity }
  | flag =>
    if flag ∈ given.flags then throw .givenTwice
    return { given with flags := flag :: given.flags }

/-- Takes a cluster of letters.  The first one that takes a value is given the rest, without an
equals sign in front of it. -/
def takeLetters (verb : Verb) (given : Given) : List Char → Except UsageFault Given
  | [] => .ok given
  | letter :: rest =>
    match verb.byLetter? letter with
    | none => .error .unknownArgument
    | some (.takes key) =>
      given.startOption key <| match rest with
        | [] => none
        | '=' :: value => some (String.ofList value)
        | value => some (String.ofList value)
    | some (.raises flag) => do takeLetters verb (← given.raise flag) rest

def takeName (verb : Verb) (given : Given) (name : String) (value : Option String) :
    Except UsageFault Given :=
  match verb.byName? name with
  | none => .error .unknownArgument
  | some (.takes key) => given.startOption key value
  | some (.raises flag) => if value.isSome then .error .unwantedValue else given.raise flag

end Given

inductive Argument where
  | end
  | named (name : String) (value : Option String)
  | letters (cluster : List Char)
  | plain (text : String)
deriving DecidableEq, Repr

/-- A name ends at the first equals sign.  A lone hyphen is plain. -/
def Argument.ofString (text : String) : Argument :=
  match text.toList with
  | ['-', '-'] => .end
  | '-' :: '-' :: rest =>
    .named (String.ofList (rest.takeWhile (· ≠ '=')))
      (match rest.dropWhile (· ≠ '=') with
        | [] => none
        | _ :: value => some (String.ofList value))
  | ['-'] => .plain text
  | '-' :: cluster => .letters cluster
  | _ => .plain text

namespace Given

def takeAll (verb : Verb) (given : Given) : List String → Except UsageFault Given
  | [] => given.settle
  | text :: rest =>
    match Argument.ofString text with
    | .end => if rest.isEmpty then given.settle else .error .unknownArgument
    | .named name value => do takeAll verb (← given.takeName verb name value) rest
    | .letters cluster => do takeAll verb (← given.takeLetters verb cluster) rest
    | .plain value =>
      match given.pending with
      | .awaiting key => takeAll verb { given with pending := .holding key value } rest
      | _ => .error .unknownArgument

end Given

end SpiProgrammer.CommandLine
