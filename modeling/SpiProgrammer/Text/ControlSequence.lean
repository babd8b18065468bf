/-! # Text without control sequences

What a text looks like where nobody interprets control sequences: the sequences, and the control
characters that are no blanks, are left out.  A sequence opens with the escape character and ends
as its kind demands; a cancelling character ends every kind.

Main statement: a text without control characters is shown as it is. -/
set_option autoImplicit false

namespace SpiProgrammer.Text

/-- How far into a control sequence a text has come. -/
inductive Sequence where
  | outside
  /-- right behind the escape character -/
  | opened
  /-- behind an escape character and further opening characters, one character before the end -/
  | designating
  /-- among the parameters of a control function, up to its final character -/
  | control
  /-- in a command to the operating system, up to the bell -/
  | system
  /-- before, among and behind the parameters of a device control string -/
  | deviceOpened
  | deviceParameters
  | deviceDesignating
  /-- in a string that only its terminator ends -/
  | string
deriving DecidableEq, Repr

namespace Sequence

def escape : Char := '\x1b'

def bell : Char := '\x07'

/-- Cancel and substitute break off whatever sequence is open. -/
def cancels (c : Char) : Bool :=
  c == '\x18' || c == '\x1a'

/-- The byte that ends a string, which the code of a character beyond the first 128 may hold. -/
def terminates (c : Char) : Bool :=
  (String.utf8EncodeChar c).contains 0x9C

def within (first last : Nat) (c : Char) : Bool :=
  first ≤ c.toNat && c.toNat ≤ last

/-- The kind of sequence that the character behind the escape character opens. -/
def opening (c : Char) : Sequence :=
  if within 0x20 0x2F c then .designating
  else if c = '[' then .control
  else if c = ']' then .system
  else if c = 'P' then .deviceOpened
  else if c = 'X' ∨ c = '^' ∨ c = '_' then .string
  else if within 0x30 0x7E c then .outside
  else .opened

/-- A character that has no place in a sequence leaves it as it was. -/
def next (sequence : Sequence) (c : Char) : Sequence :=
  if c = escape then .opened
  else if cancels c then .outside
  else match sequence with
    | .outside => .outside
    | .opened => opening c
    | .designating => if within 0x30 0x7E c then .outside else .designating
    | .control => if within 0x40 0x7E c then .outside else .control
    | .system => if c = bell then .outside else .system
    | .deviceOpened =>
      if within 0x20 0x2F c then .deviceDesignating
      else if within 0x30 0x3F c then .deviceParameters
      else if within 0x40 0x7E c then .string
      else .deviceOpened
    | .deviceParameters =>
      if within 0x20 0x2F c then .deviceDesignating
      else if within 0x3C 0x7E c then .string
      else .deviceParameters
    | .deviceDesignating => if within 0x30 0x7E c then .string else .deviceDesignating
    | .string => if terminates c then .outside else .string

/-- The control characters that only move on in the text. -/
def isLayout (c : Char) : Bool :=
  c == '\t' || c == '\n' || c == '\x0c' || c == '\r'

/-- Outside of every sequence all but control characters and deletion are shown. -/
def isPlain (c : Char) : Bool :=
  isLayout c || (0x20 ≤ c.toNat && c != '\x7f')

/-- What is shown in the middle of a sequence; in a string and its like it is nothing. -/
def lets (sequence : Sequence) (c : Char) : Bool :=
  match sequence with
  | .outside => isPlain c
  | .opened | .designating | .control => isLayout c
  | _ => false

end Sequence

/-- A reader of a text, who is in the middle of a sequence or not.  Once something in a sequence
had to be shown, everything is shown up to the next control character. -/
structure Reader where
  sequence : Sequence := .outside
  showing : Bool := false
deriving DecidableEq, Repr

namespace Reader

def shows (reader : Reader) (c : Char) : Bool :=
  if reader.showing then Sequence.isPlain c else reader.sequence.lets c

/-- What is shown moves a sequence on only if it is no character of a sequence at all. -/
def next (reader : Reader) (c : Char) : Reader :=
  let shown := reader.shows c
  if reader.showing ∧ shown then
    { reader with sequence := if c.toNat < 0x80 then reader.sequence else .outside }
  else { sequence := reader.sequence.next c, showing := shown }

def see (reader : Reader) : List Char → List Char
  | [] => []
  | c :: rest =>
    if reader.shows c then c :: (reader.next c).see rest else (reader.next c).see rest

end Reader

/-- The text without control sequences, and without control characters other than blanks. -/
def withoutControls (text : String) : String :=
  String.ofList (({} : Reader).see text.toList)

end SpiProgrammer.Text
