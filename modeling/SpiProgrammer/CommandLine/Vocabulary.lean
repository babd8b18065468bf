import SpiProgrammer.Text.Numeral

/-! # Commands, options and flags

Each command knows some options, which take a value, and some flags, which take none.  All
commands know the flags for verbosity and for help.  Addresses and lengths are 32-bit numbers,
hexadecimal behind `0x` or `0X` and decimal otherwise. -/
set_option autoImplicit false

namespace SpiProgrammer.CommandLine

/-! ## Numbers -/

inductive NumberFault where
  | hexadecimal (fault : Text.NumeralFault)
  | decimal (fault : Text.NumeralFault)
deriving DecidableEq, Repr

def NumberFault.message : NumberFault → String
  | .hexadecimal fault => "Invalid hex value: " ++ fault.message
  | .decimal fault => "Invalid number: " ++ fault.message

def readNumber (text : String) : Except NumberFault UInt32 :=
  match text.toList with
  | '0' :: 'x' :: digits | '0' :: 'X' :: digits =>
    (Text.readNumeral 16 0x100000000 digits).mapError NumberFault.hexadecimal |>.map UInt32.ofNat
  | digits =>
    (Text.readNumeral 10 0x100000000 digits).mapError NumberFault.decimal |>.map UInt32.ofNat

/-! ## What a command knows -/

inductive Verb where
  | info
  | probe
  | read
  | write
  | erase
  | listProgrammers
deriving DecidableEq, Repr

def Verb.name : Verb → String
  | .info => "info"
  | .probe => "probe"
  | .read => "read"
  | .write => "write"
  | .erase => "erase"
  | .listProgrammers => "list-programmers"

def Verb.ofName? (name : String) : Option Verb :=
  [Verb.info, .probe, .read, .write, .erase, .listProgrammers].find? fun verb => verb.name == name

inductive Key where
  | programmer
  | output
  | input
  | address
  | length
deriving DecidableEq, Repr

def Key.name : Key → String
  | .programmer => "programmer"
  | .output => "output"
  | .input => "input"
  | .address => "address"
  | .length => "length"

/-- The letter is the first one of the name. -/
def Key.letter : Key → Char
  | .programmer => 'p'
  | .output => 'o'
  | .input => 'i'
  | .address => 'a'
  | .length => 'l'

/-- What is given or not, and takes no value. -/
inductive Flag where
  | help
  | verbose
  | erase
  | noVerify
deriving DecidableEq, Repr

def Flag.name : Flag → String
  | .help => "help"
  | .verbose => "verbose"
  | .erase => "erase"
  | .noVerify => "no-verify"

/-- The flags about the job itself have no letter. -/
def Flag.letter? : Flag → Option Char
  | .help => some 'h'
  | .verbose => some 'v'
  | .erase | .noVerify => none

/-- The options of a command that have to be given. -/
def Verb.required : Verb → List Key
  | .info | .probe | .erase => [.programmer]
  | .read => [.programmer, .output, .length]
  | .write => [.programmer, .input]
  | .listProgrammers => []

/-- The options of a command that may be left out. -/
def Verb.optional : Verb → List Key
  | .read | .write => [.address]
  | .erase => [.address, .length]
  | _ => []

def Verb.keys (verb : Verb) : List Key :=
  verb.required ++ verb.optional

def Verb.flags : Verb → List Flag
  | .write => [.help, .verbose, .erase, .noVerify]
  | _ => [.help, .verbose]

inductive Meaning where
  | takes (key : Key)
  | raises (flag : Flag)
deriving DecidableEq, Repr

def Verb.meanings (verb : Verb) : List Meaning :=
  verb.keys.map Meaning.takes ++ verb.flags.map Meaning.raises

def Meaning.name : Meaning → String
  | .takes key => key.name
  | .raises flag => flag.name

def Meaning.letter? : Meaning → Option Char
  | .takes key => some key.letter
  | .raises flag => flag.letter?

def Verb.byName? (verb : Verb) (name : String) : Option Meaning :=
  verb.meanings.find? fun meaning => meaning.name == name

def Verb.byLetter? (verb : Verb) (letter : Char) : Option Meaning :=
  verb.meanings.find? fun meaning => meaning.letter? == some letter

/-- Why a command line is not carried out.  Asking for help or for the version counts too. -/
inductive UsageFault where
  | helpWanted
  | versionWanted
  | nothingGiven
  | missingCommand
  | unknownCommand
  | unknownArgument
  /-- a required option was left out -/
  | missingOption
  /-- an option has no value, or an empty path for one -/
  | missingValue
  /-- a flag was given a value -/
  | unwantedValue
  | givenTwice
  | badNumber (fault : NumberFault)
deriving DecidableEq, Repr

end SpiProgrammer.CommandLine
