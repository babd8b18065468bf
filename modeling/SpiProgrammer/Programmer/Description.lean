import SpiProgrammer.Text.Character

/-! # Programmers and their descriptions

A programmer is described by its name, and after a colon by parameters `key=value` between
commas.  The name ends at the first colon and a key at the first equals sign; blanks around keys
and values do not count. -/
set_option autoImplicit false

namespace SpiProgrammer.Programmer

/-! ## Descriptions -/

structure Description where
  name : String
  /-- Keys and values in the order given. -/
  parameters : List (String × String)
deriving DecidableEq, Repr

inductive DescriptionFault where
  | missingName
  | malformedParameter (text : String)
deriving DecidableEq, Repr

def DescriptionFault.message : DescriptionFault → String
  | .missingName => "Missing programmer name"
  | .malformedParameter text => "Invalid parameter format: '" ++ text ++ "' (expected key=value)"

/-- What stands before and after the first mark. -/
def splitFirst? (mark : Char) : List Char → Option (List Char × List Char)
  | [] => none
  | c :: rest =>
    if c = mark then some ([], rest)
    else (splitFirst? mark rest).map fun parts => (c :: parts.1, parts.2)

/-- What stands between the marks: one part more than there are marks. -/
def splitAll (mark : Char) : List Char → List (List Char)
  | [] => [[]]
  | c :: rest =>
    if c = mark then [] :: splitAll mark rest
    else match splitAll mark rest with
      | [] => [[c]]
      | part :: parts => (c :: part) :: parts

def readParameter (text : List Char) : Except DescriptionFault (String × String) :=
  match splitFirst? '=' text with
  | none => .error (.malformedParameter (String.ofList text))
  | some (key, value) =>
    .ok (String.ofList (Text.trimChars key), String.ofList (Text.trimChars value))

/-- No text at all stands for no parameters. -/
def readParameters (text : List Char) : Except DescriptionFault (List (String × String)) :=
  if text.isEmpty then .ok [] else (splitAll ',' text).mapM readParameter

def Description.ofString (text : String) : Except DescriptionFault Description := do
  let (name, parameters) := (splitFirst? ':' text.toList).getD (text.toList, [])
  if name.isEmpty then throw .missingName
  return ⟨String.ofList name, ← readParameters parameters⟩

/-! ## The programmers there are -/

structure Entry where
  name : String
  aliases : List String
  description : String
deriving DecidableEq, Repr

def available : List Entry :=
  [{ name := "stlinkv3"
     aliases := ["stlinkv3_spi"]
     description := "STLINK-V3 bridge SPI (VID:0483 PID:374F) (serial=<sn>,spispeed=<kHz>)" }]

def find? (name : String) : Option Entry :=
  available.find? fun entry => entry.name == name || entry.aliases.contains name

/-- The text, followed by blanks up to a width of twelve. -/
def column (text : String) : String :=
  text ++ String.ofList (List.replicate (12 - text.length) ' ')

/-- One line about the kind, and one about its aliases if it has any. -/
def Entry.help (entry : Entry) : String :=
  "  " ++ column entry.name ++ " - " ++ entry.description ++ "\n" ++
    if entry.aliases.isEmpty then ""
    else "  " ++ column "" ++ "   aliases: " ++ String.intercalate ", " entry.aliases ++ "\n"

def help : String :=
  "Available programmers:\n" ++ String.join (available.map Entry.help)

def names : String :=
  String.intercalate ", " (available.map Entry.name)

end SpiProgrammer.Programmer
