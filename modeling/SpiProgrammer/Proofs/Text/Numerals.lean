import Mathlib.Data.List.Forall2
import Mathlib.Data.Nat.Digits.Defs
import Mathlib.Tactic.IntervalCases
import SpiProgrammer.Text.Numeral

/-! # What numerals are read as

A text is a numeral of a number by the digits it consists of, whatever reads it.  Main statement:
reading a text gives exactly the numbers it is a numeral of, as far as they are below the bound, so
nothing is ever cut off; for the radix ten the digits are the ten decimal ones, for sixteen there
are also six letters of either case.  What a number is written as is a numeral of it. -/
set_option autoImplicit false

namespace SpiProgrammer.Text

/-! ## Numerals -/

/-- The text is an optional plus sign and then one digit or more, the highest first, that spell the
number. -/
def Denotes (radix : Nat) (text : List Char) (number : Nat) : Prop :=
  ∃ digits values, (text = digits ∨ text = '+' :: digits) ∧ digits ≠ [] ∧
    List.Forall₂ (fun digit value => digitValue? radix digit = some value) digits values ∧
    Nat.ofDigits radix values.reverse = number

theorem digitValue?_lt {radix value : Nat} {digit : Char}
    (found : digitValue? radix digit = some value) : value < radix := by
  unfold digitValue? at found
  exact of_decide_eq_true (Option.filter_eq_some_iff.mp found).2

theorem isDigit_iff (c : Char) : c.isDigit = true ↔ 48 ≤ c.toNat ∧ c.toNat ≤ 57 := by
  rw [Char.isDigit, Bool.and_eq_true, decide_eq_true_iff, decide_eq_true_iff]
  exact Iff.rfl

/-- Which characters count as a value: one digit up to nine, beyond it a letter of either case. -/
theorem digitValue?_eq_some_iff_code {radix value : Nat} {digit : Char} (small : radix ≤ 16) :
    digitValue? radix digit = some value ↔ value < radix ∧
      (digit.toNat = (if value < 10 then 48 + value else 87 + value) ∨
        digit.toNat = (if value < 10 then 48 + value else 55 + value)) := by
  have decimal : '0' ≤ digit ∧ digit ≤ '9' ↔ 48 ≤ digit.toNat ∧ digit.toNat ≤ 57 := Iff.rfl
  have lower : 'a' ≤ digit ∧ digit ≤ 'z' ↔ 97 ≤ digit.toNat ∧ digit.toNat ≤ 122 := Iff.rfl
  have upper : 'A' ≤ digit ∧ digit ≤ 'Z' ↔ 65 ≤ digit.toNat ∧ digit.toNat ≤ 90 := Iff.rfl
  simp only [digitValue?, decimal, lower, upper, Option.filter_eq_some_iff, decide_eq_true_iff]
  -- the ranges of codes lie apart, and letters beyond `f` count more than the radix
  split_ifs <;> simp <;> omega

theorem digitValue?_ten {digit : Char} {value : Nat} :
    digitValue? 10 digit = some value ↔ digit.isDigit ∧ digit.toNat - 48 = value := by
  rw [digitValue?_eq_some_iff_code (by decide), isDigit_iff]
  split_ifs <;> omega

/-- What the digits spell behind a value already read. -/
def spelled (radix value : Nat) (values : List Nat) : Nat :=
  value * radix ^ values.length + Nat.ofDigits radix values.reverse

theorem spelled_nil (radix value : Nat) : spelled radix value [] = value := by
  simp [spelled]

theorem spelled_cons (radix value first : Nat) (values : List Nat) :
    spelled radix value (first :: values) = spelled radix (value * radix + first) values := by
  rw [spelled, spelled, Nat.ofDigits_reverse_cons, List.length_cons, pow_succ]
  ring

theorem le_spelled {radix : Nat} (positive : 0 < radix) (value : Nat) (values : List Nat) :
    value ≤ spelled radix value values :=
  Nat.le_trans (Nat.le_mul_of_pos_right value (Nat.pow_pos positive)) (Nat.le_add_right _ _)

theorem readDigits_eq_ok {radix bound number : Nat} {digits : List Char} :
    ∀ {value : Nat}, value < bound →
      (readDigits radix bound value digits = .ok number ↔ number < bound ∧
        ∃ values, List.Forall₂ (fun digit value => digitValue? radix digit = some value) digits
          values ∧ spelled radix value values = number) := by
  induction digits with
  | nil =>
    intro value below
    simp only [readDigits, Except.ok.injEq, List.forall₂_nil_left_iff, exists_eq_left, spelled_nil]
    exact ⟨fun same => ⟨same ▸ below, same⟩, And.right⟩
  | cons digit digits ih =>
    intro value below
    have first : readDigits radix bound value (digit :: digits) = .ok number ↔
        ∃ leading, digitValue? radix digit = some leading ∧ value * radix + leading < bound ∧
          readDigits radix bound (value * radix + leading) digits = .ok number := by
      rw [readDigits]
      cases digitValue? radix digit with
      | none => simp
      | some leading => by_cases within : value * radix + leading < bound <;> simp [within]
    rw [first]
    constructor
    · rintro ⟨leading, found, within, reads⟩
      obtain ⟨fits, values, others, same⟩ := (ih within).mp reads
      exact ⟨fits, leading :: values, .cons found others, (spelled_cons ..).trans same⟩
    · rintro ⟨fits, values, all, same⟩
      obtain ⟨leading, values, found, others, rfl⟩ := List.forall₂_cons_left_iff.mp all
      rw [spelled_cons] at same
      -- what follows only makes the number larger, so it is within the bound from the start
      have positive : 0 < radix := Nat.zero_lt_of_lt (digitValue?_lt found)
      have within : value * radix + leading < bound :=
        Nat.lt_of_le_of_lt (same ▸ le_spelled positive _ values) fits
      exact ⟨leading, found, within, (ih within).mpr ⟨fits, values, others, same⟩⟩

theorem readNumeral_eq_ok_iff_digits {radix bound number : Nat} {text : List Char} :
    readNumeral radix bound text = .ok number ↔
      ∃ digits, (text = digits ∨ text = '+' :: digits) ∧ digits ≠ [] ∧
        readDigits radix bound 0 digits = .ok number := by
  constructor
  · intro reads
    unfold readNumeral at reads
    split at reads
    case h_4 digits lone =>
      refine ⟨digits, .inr rfl, ?_, reads⟩
      rintro rfl
      exact lone rfl
    case h_5 empty _ _ _ => exact ⟨_, .inl rfl, empty, reads⟩
    all_goals cases reads
  · rintro ⟨digits, rfl | rfl, some, reads⟩
    · unfold readNumeral
      split
      case h_5 => exact reads
      all_goals first | exact absurd rfl some | cases reads
    · cases digits with
      | nil => exact absurd rfl some
      | cons digit digits => exact reads

/-- A number is read exactly from its numerals, if it is below the bound. -/
theorem readNumeral_eq_ok {radix bound number : Nat} {text : List Char} (positive : 0 < bound) :
    readNumeral radix bound text = .ok number ↔ Denotes radix text number ∧ number < bound := by
  have spells (digits : List Char) : readDigits radix bound 0 digits = .ok number ↔
      number < bound ∧ ∃ values,
        List.Forall₂ (fun digit value => digitValue? radix digit = some value) digits values ∧
          Nat.ofDigits radix values.reverse = number := by
    simpa only [spelled, Nat.zero_mul, Nat.zero_add] using @readDigits_eq_ok radix bound number
      digits 0 positive
  rw [readNumeral_eq_ok_iff_digits]
  constructor
  · rintro ⟨digits, whole, some, reads⟩
    obtain ⟨fits, values, all, same⟩ := (spells digits).mp reads
    exact ⟨⟨digits, values, whole, some, all, same⟩, fits⟩
  · rintro ⟨⟨digits, values, whole, some, all, same⟩, fits⟩
    exact ⟨digits, whole, some, (spells digits).mpr ⟨fits, values, all, same⟩⟩

theorem Denotes.unique {radix number number' : Nat} {text : List Char}
    (denotes : Denotes radix text number) (denotes' : Denotes radix text number') :
    number = number' := by
  -- below a bound that is larger than both of them, either is what is read
  have reads : readNumeral radix (max number number' + 1) text = .ok number :=
    (readNumeral_eq_ok (by omega)).mpr ⟨denotes, by omega⟩
  have reads' : readNumeral radix (max number number' + 1) text = .ok number' :=
    (readNumeral_eq_ok (by omega)).mpr ⟨denotes', by omega⟩
  exact Except.ok.inj (reads.symm.trans reads')

/-! ## Decimal numerals -/

/-- The text is an optional plus sign and then one decimal digit or more, the highest first, that
spell the number. -/
def IsDecimal (text : List Char) (number : Nat) : Prop :=
  ∃ digits, (text = digits ∨ text = '+' :: digits) ∧ digits ≠ [] ∧
    (∀ digit ∈ digits, digit.isDigit) ∧
    Nat.ofDigits 10 (digits.map fun digit => digit.toNat - 48).reverse = number

theorem forall₂_digitValue?_ten {digits : List Char} {values : List Nat} :
    List.Forall₂ (fun digit value => digitValue? 10 digit = some value) digits values ↔
      (∀ digit ∈ digits, digit.isDigit) ∧
        digits.map (fun digit => digit.toNat - 48) = values := by
  simp only [digitValue?_ten]
  induction digits generalizing values with
  | nil =>
    rw [List.forall₂_nil_left_iff]
    exact ⟨fun none => ⟨nofun, none.symm⟩, fun both => both.2.symm⟩
  | cons digit digits ih =>
    rw [List.forall₂_cons_left_iff]
    constructor
    · rintro ⟨value, values, ⟨isDigit, rfl⟩, others, rfl⟩
      obtain ⟨all, rfl⟩ := ih.mp others
      exact ⟨List.forall_mem_cons.mpr ⟨isDigit, all⟩, rfl⟩
    · rintro ⟨all, rfl⟩
      obtain ⟨isDigit, all⟩ := List.forall_mem_cons.mp all
      exact ⟨_, _, ⟨isDigit, rfl⟩, ih.mpr ⟨all, rfl⟩, rfl⟩

theorem denotes_ten {text : List Char} {number : Nat} :
    Denotes 10 text number ↔ IsDecimal text number := by
  constructor
  · rintro ⟨digits, values, whole, some, all, same⟩
    obtain ⟨decimal, rfl⟩ := forall₂_digitValue?_ten.mp all
    exact ⟨digits, whole, some, decimal, same⟩
  · rintro ⟨digits, whole, some, decimal, same⟩
    exact ⟨digits, _, whole, some, forall₂_digitValue?_ten.mpr ⟨decimal, rfl⟩, same⟩

/-! ## Hexadecimal numerals -/

/-- The character is the other one, or the capital letter for it. -/
def InEitherCase (shown digit : Char) : Prop :=
  shown = digit ∨ shown = digit.toUpper

theorem toNat_digitChar {value : Nat} (small : value < 16) :
    (Nat.digitChar value).toNat = if value < 10 then 48 + value else 87 + value := by
  interval_cases value <;> rfl

theorem toNat_toUpper_digitChar {value : Nat} (small : value < 16) :
    (Nat.digitChar value).toUpper.toNat = if value < 10 then 48 + value else 55 + value := by
  interval_cases value <;> rfl

theorem digitValue?_eq_some {radix value : Nat} {digit : Char} (small : radix ≤ 16) :
    digitValue? radix digit = some value ↔
      value < radix ∧ InEitherCase digit (Nat.digitChar value) := by
  rw [digitValue?_eq_some_iff_code small]
  refine and_congr_right fun below => ?_
  rw [InEitherCase, ← Char.toNat_inj, ← Char.toNat_inj, toNat_digitChar (by omega),
    toNat_toUpper_digitChar (by omega)]

/-- The character is the hexadecimal digit of the value, in either case. -/
def IsHexDigit (digit : Char) (value : Nat) : Prop :=
  value < 16 ∧ InEitherCase digit (Nat.digitChar value)

/-- The text is an optional plus sign and then one hexadecimal digit or more, the highest first,
that spell the number. -/
def IsHexadecimal (text : List Char) (number : Nat) : Prop :=
  ∃ digits values, (text = digits ∨ text = '+' :: digits) ∧ digits ≠ [] ∧
    List.Forall₂ IsHexDigit digits values ∧ Nat.ofDigits 16 values.reverse = number

theorem denotes_sixteen {text : List Char} {number : Nat} :
    Denotes 16 text number ↔ IsHexadecimal text number := by
  simp only [Denotes, IsHexadecimal, digitValue?_eq_some (Nat.le_refl 16)]
  exact Iff.rfl

/-! ## Numbers written out -/

/-- The digits are what the number is written as, each letter in either case and any number of
zeros in front. -/
def Renders (radix : Nat) (digits : List Char) (number : Nat) : Prop :=
  ∃ zeros, List.Forall₂ InEitherCase digits
    (List.replicate zeros '0' ++ Nat.toDigits radix number)

theorem toDigits_eq_map {radix : Nat} (several : 1 < radix) (number : Nat) :
    ∃ values : List Nat, Nat.toDigits radix number = values.map Nat.digitChar ∧
      (∀ value ∈ values, value < radix) ∧ Nat.ofDigits radix values.reverse = number := by
  -- the last digit is taken off the end, and the rest is a smaller number
  induction number using Nat.strongRecOn with
  | ind number ih =>
    by_cases single : number < radix
    · refine ⟨[number], Nat.toDigits_of_lt_base single, ?_, Nat.ofDigits_singleton⟩
      exact List.forall_mem_singleton.mpr single
    · have rest : number / radix < number := Nat.div_lt_self (by omega) several
      obtain ⟨values, written, below, same⟩ := ih (number / radix) rest
      refine ⟨values ++ [number % radix], ?_, ?_, ?_⟩
      · rw [Nat.toDigits_of_base_le several (by omega), written, List.map_append, List.map_singleton]
      · exact List.forall_mem_append.mpr
          ⟨below, List.forall_mem_singleton.mpr (Nat.mod_lt number (by omega))⟩
      · rw [List.reverse_append, List.reverse_singleton, List.singleton_append, Nat.ofDigits_cons,
          same]
        exact Nat.mod_add_div number radix

theorem Renders.denotes {radix number : Nat} {digits : List Char} (several : 1 < radix)
    (small : radix ≤ 16) (renders : Renders radix digits number) :
    Denotes radix digits number := by
  obtain ⟨zeros, shown⟩ := renders
  obtain ⟨values, written, below, same⟩ := toDigits_eq_map several number
  have padded : List.replicate zeros '0' ++ Nat.toDigits radix number =
      (List.replicate zeros 0 ++ values).map Nat.digitChar := by
    rw [written, List.map_append, List.map_replicate]
    rfl
  have all : ∀ value ∈ List.replicate zeros 0 ++ values, value < radix :=
    List.forall_mem_append.mpr
      ⟨fun value zero => List.eq_of_mem_replicate zero ▸ Nat.zero_lt_of_lt several, below⟩
  have each : List.Forall₂ (fun value digit => value < radix ∧
      InEitherCase digit (Nat.digitChar value)) (List.replicate zeros 0 ++ values) digits := by
    rw [padded, List.forall₂_map_right_iff] at shown
    exact (List.forall₂_and_left _ _).mpr ⟨all, shown.flip⟩
  refine ⟨digits, _, .inl rfl, ?_, each.flip.imp fun _ _ => (digitValue?_eq_some small).mpr, ?_⟩
  · rintro rfl
    have none := (List.append_eq_nil_iff.mp (List.forall₂_nil_left_iff.mp shown)).2
    exact Nat.toDigits_ne_nil none
  · rw [List.reverse_append, List.reverse_replicate, Nat.ofDigits_append_replicate_zero, same]

end SpiProgrammer.Text
