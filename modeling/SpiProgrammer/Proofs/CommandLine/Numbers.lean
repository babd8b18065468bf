import SpiProgrammer.CommandLine.Vocabulary
import SpiProgrammer.Proofs.Programmer.Grammar
import SpiProgrammer.Proofs.Text.Numerals

/-! # Which texts are numbers on the command line

What a number looks like is said without reading it: behind the mark `0x` or `0X` a hexadecimal
numeral, otherwise a decimal one.  Main statement: reading accepts exactly the texts of numbers of
thirty-two bits, each as the number it is and not as what is left of it, and refuses all others;
whatever a number is written as, in either radix, is read back. -/
set_option autoImplicit false

namespace SpiProgrammer.CommandLine

open Text (Denotes IsDecimal IsHexadecimal Renders)

/-- The text begins with the mark of hexadecimal numbers, and this follows it. -/
def Marked (text rest : List Char) : Prop :=
  text = '0' :: 'x' :: rest ∨ text = '0' :: 'X' :: rest

inductive IsNumber (text : List Char) (number : Nat) : Prop
  | hexadecimal {rest : List Char} (marked : Marked text rest) (numeral : IsHexadecimal rest number)
  | decimal (unmarked : ∀ rest, ¬ Marked text rest) (numeral : IsDecimal text number)

theorem Marked.unique {text rest rest' : List Char} (marked : Marked text rest)
    (marked' : Marked text rest') : rest = rest' := by
  rcases marked with rfl | rfl <;> simpa [Marked, eq_comm] using marked'

theorem isNumber_of_marked {text rest : List Char} {number : Nat} (marked : Marked text rest) :
    IsNumber text number ↔ IsHexadecimal rest number := by
  constructor
  · intro isNumber
    cases isNumber with
    | hexadecimal marked' numeral => rwa [marked.unique marked']
    | decimal unmarked => exact absurd marked (unmarked rest)
  · exact .hexadecimal marked

theorem isNumber_of_unmarked {text : List Char} {number : Nat}
    (unmarked : ∀ rest, ¬ Marked text rest) : IsNumber text number ↔ IsDecimal text number := by
  constructor
  · intro isNumber
    cases isNumber with
    | @hexadecimal rest marked => exact absurd marked (unmarked rest)
    | decimal _ numeral => exact numeral
  · exact .decimal unmarked

theorem IsNumber.unique {text : List Char} {number number' : Nat} (is : IsNumber text number)
    (is' : IsNumber text number') : number = number' := by
  cases is with
  | hexadecimal marked numeral =>
    have numeral' := (isNumber_of_marked marked).mp is'
    exact (Text.denotes_sixteen.mpr numeral).unique (Text.denotes_sixteen.mpr numeral')
  | decimal unmarked numeral =>
    have numeral' := (isNumber_of_unmarked unmarked).mp is'
    exact (Text.denotes_ten.mpr numeral).unique (Text.denotes_ten.mpr numeral')

/-! ## Reading -/

/-- Nothing is lost where a numeral becomes a word, as the bound is what a word can hold. -/
theorem readWord_eq_ok {radix : Nat} {text : List Char} {number : UInt32}
    {fault : Text.NumeralFault → NumberFault} :
    ((Text.readNumeral radix 0x100000000 text).mapError fault).map UInt32.ofNat = .ok number ↔
      Denotes radix text number.toNat := by
  simp only [map_eq_ok, mapError_eq_ok, Text.readNumeral_eq_ok (show 0 < 0x100000000 by decide)]
  constructor
  · rintro ⟨value, ⟨denotes, below⟩, rfl⟩
    rwa [UInt32.toNat_ofNat_of_lt' below]
  · intro denotes
    exact ⟨number.toNat, ⟨denotes, number.toNat_lt⟩, UInt32.ofNat_toNat⟩

theorem readNumber_of_marked {text : String} {rest : List Char} (marked : Marked text.toList rest) :
    readNumber text =
      ((Text.readNumeral 16 0x100000000 rest).mapError NumberFault.hexadecimal).map UInt32.ofNat := by
  rcases marked with same | same <;> simp only [readNumber, same]

theorem readNumber_of_unmarked {text : String} (unmarked : ∀ rest, ¬ Marked text.toList rest) :
    readNumber text =
      ((Text.readNumeral 10 0x100000000 text.toList).mapError NumberFault.decimal).map
        UInt32.ofNat := by
  unfold readNumber
  split
  case h_1 rest same => exact absurd (.inl same) (unmarked rest)
  case h_2 rest same => exact absurd (.inr same) (unmarked rest)
  case h_3 => rfl

theorem readNumber_eq_ok {text : String} {number : UInt32} :
    readNumber text = .ok number ↔ IsNumber text.toList number.toNat := by
  by_cases mark : ∃ rest, Marked text.toList rest
  · obtain ⟨rest, marked⟩ := mark
    rw [readNumber_of_marked marked, readWord_eq_ok, Text.denotes_sixteen,
      isNumber_of_marked marked]
  · have unmarked := not_exists.mp mark
    rw [readNumber_of_unmarked unmarked, readWord_eq_ok, Text.denotes_ten,
      isNumber_of_unmarked unmarked]

/-! ## Numbers written out -/

/-- No digit is the letter of a mark, so what a number is written as has none. -/
theorem unmarked_of_isDecimal {text : List Char} {number : Nat} (numeral : IsDecimal text number)
    (rest : List Char) : ¬ Marked text rest := by
  obtain ⟨digits, whole, -, decimal, -⟩ := numeral
  rintro (rfl | rfl)
  · rcases whole with rfl | signed
    · exact absurd (decimal 'x' (by simp)) (by decide)
    · simp at signed
  · rcases whole with rfl | signed
    · exact absurd (decimal 'X' (by simp)) (by decide)
    · simp at signed

theorem isNumber_of_rendersDecimal {digits : List Char} {number : Nat}
    (renders : Renders 10 digits number) : IsNumber digits number := by
  have numeral := Text.denotes_ten.mp (renders.denotes (by decide) (by decide))
  exact .decimal (unmarked_of_isDecimal numeral) numeral

theorem isNumber_of_rendersHexadecimal {text digits : List Char} {number : Nat}
    (marked : Marked text digits) (renders : Renders 16 digits number) : IsNumber text number :=
  .hexadecimal marked (Text.denotes_sixteen.mp (renders.denotes (by decide) (by decide)))

/-- Exactly the texts of numbers of thirty-two bits are read, as the number that they are.  Numbers
written out are such texts. -/
theorem readNumber_exact :
    (∀ text : String,
      (∀ number, readNumber text = .ok number ↔ IsNumber text.toList number.toNat) ∧
      ((∃ fault, readNumber text = .error fault) ↔
        ∀ number < 2 ^ 32, ¬ IsNumber text.toList number) ∧
      ∀ number value, readNumber text = .ok number → IsNumber text.toList value →
        number.toNat = value) ∧
    ∀ (number : UInt32) (text : String),
      (Renders 10 text.toList number.toNat → readNumber text = .ok number) ∧
      ∀ digits, Marked text.toList digits → Renders 16 digits number.toNat →
        readNumber text = .ok number := by
  refine ⟨fun text => ⟨fun number => readNumber_eq_ok, ?_, fun number value read is => ?_⟩,
    fun number text => ⟨fun renders => ?_, fun digits marked renders => ?_⟩⟩
  · constructor
    · rintro ⟨fault, refused⟩ number below is
      have read : readNumber text = .ok (UInt32.ofNat number) := by
        rw [readNumber_eq_ok, UInt32.toNat_ofNat_of_lt' below]
        exact is
      cases refused.symm.trans read
    · intro none
      cases read : readNumber text with
      | error fault => exact ⟨fault, rfl⟩
      | ok number => exact absurd (readNumber_eq_ok.mp read) (none _ number.toNat_lt)
  · exact (readNumber_eq_ok.mp read).unique is
  · exact readNumber_eq_ok.mpr (isNumber_of_rendersDecimal renders)
  · exact readNumber_eq_ok.mpr (isNumber_of_rendersHexadecimal marked renders)

-- a sign may follow the mark but not precede it, and zeros do not count towards the bound
example : readNumber "0X+000000fFFffFFf" = .ok 0xFFFFFFFF := by decide
example : readNumber "+0x10" = .error (.decimal .invalidDigit) := by decide
example : readNumber "4294967296" = .error (.decimal .tooLarge) := by decide

end SpiProgrammer.CommandLine
