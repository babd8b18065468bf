import SpiProgrammer.Text.Character

/-! # Quoted text

A text is shown between double quotes with everything made visible: the quote and the backslash
are marked by a backslash, the common controls have short names, and any other character that
has no picture of its own, that a display may leave out, or that would be drawn onto its
neighbour, is shown by its code point. -/
set_option autoImplicit false

namespace SpiProgrammer.Text

/-- The lower-case hexadecimal digits of a code point, without leading zeros. -/
def codePointDigits (c : Char) : String :=
  String.ofList (Nat.toDigits 16 c.toNat)

/-- Whether a reader could miss the character or take it for a part of another. -/
def isHidden (c : Char) : Bool :=
  isCombining c || isIgnorable c || isUnprintable c

def shown (c : Char) : String :=
  if c = '\x00' then "\\0"
  else if c = '\t' then "\\t"
  else if c = '\r' then "\\r"
  else if c = '\n' then "\\n"
  else if c = '\\' then "\\\\"
  else if c = '"' then "\\\""
  else if isHidden c then "\\u\x7b" ++ codePointDigits c ++ "\x7d"
  else String.singleton c

def quoted (text : String) : String :=
  "\"" ++ String.join (text.toList.map shown) ++ "\""

end SpiProgrammer.Text
