/-! # Unsigned numbers in text

A number is read from an optional plus sign and then digits of the radix, any number of leading
zeros included.  A text that is no number at all is told from a number that is too large.

Hexadecimal numbers are shown in capital digits, padded with zeros to a least width. -/
set_option autoImplicit false

namespace SpiProgrammer.Text

/-! ## Reading -/

inductive NumeralFault where
  | empty
  | invalidDigit
  | tooLarge
deriving DecidableEq, Repr

def NumeralFault.message : NumeralFault → String
  | .empty => "cannot parse integer from empty string"
  | .invalidDigit => "invalid digit found in string"
  | .tooLarge => "number too large to fit in target type"

/-- The value of a digit of either case, if it is below the radix. -/
def digitValue? (radix : Nat) (c : Char) : Option Nat :=
  let value :=
    if '0' ≤ c ∧ c ≤ '9' then some (c.toNat - 48)
    else if 'a' ≤ c ∧ c ≤ 'z' then some (c.toNat - 87)
    else if 'A' ≤ c ∧ c ≤ 'Z' then some (c.toNat - 55)
    else none
  value.filter (· < radix)

/-- Reads digits behind a value already read.  The first thing wrong is reported: a character
that is no digit, or the value leaving the range below `bound`. -/
def readDigits (radix bound : Nat) : Nat → List Char → Except NumeralFault Nat
  | value, [] => .ok value
  | value, c :: rest =>
    match digitValue? radix c with
    | none => .error .invalidDigit
    | some digit =>
      if value * radix + digit < bound then readDigits radix bound (value * radix + digit) rest
      else .error .tooLarge

/-- Reads a number below `bound`.  A lone sign is no number. -/
def readNumeral (radix bound : Nat) (text : List Char) : Except NumeralFault Nat :=
  match text with
  | [] => .error .empty
  | ['+'] => .error .invalidDigit
  | ['-'] => .error .invalidDigit
  | '+' :: digits => readDigits radix bound 0 digits
  | digits => readDigits radix bound 0 digits

/-! ## Showing -/

/-- The digits of a number, at least `width` of them. -/
def hex (width value : Nat) : String :=
  let digits := (Nat.toDigits 16 value).map Char.toUpper
  String.ofList (List.replicate (width - digits.length) '0' ++ digits)

/-- A list of bytes between square brackets, two digits each. -/
def hexList (bytes : List UInt8) : String :=
  "[" ++ String.intercalate ", " (bytes.map fun byte => hex 2 byte.toNat) ++ "]"

end SpiProgrammer.Text
