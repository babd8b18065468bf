import Mathlib.Data.List.DropRight
import Mathlib.Data.List.Forall2
import SpiProgrammer.Programmer.Description

/-! # The grammar of descriptions

What a description is, said as a grammar: a name without a colon and, behind a colon, options
between commas, each a key without an equals sign, an equals sign and a value.  Main statement: a
text is understood exactly if the grammar has it and the name is not empty, and it is understood as
what the grammar says. -/
set_option autoImplicit false

namespace SpiProgrammer

theorem bind_eq_ok {α β ε : Type} {x : Except ε α} {f : α → Except ε β} {value : β} :
    x >>= f = .ok value ↔ ∃ first, x = .ok first ∧ f first = .ok value := by
  cases x <;> simp [bind, Except.bind]

theorem mapError_eq_ok {α ε ε' : Type} {f : ε → ε'} {x : Except ε α} {value : α} :
    x.mapError f = .ok value ↔ x = .ok value := by
  cases x with
  | error error => exact ⟨nofun, nofun⟩
  | ok other =>
    exact ⟨fun same => congrArg _ (Except.ok.inj same), fun same => congrArg _ (Except.ok.inj same)⟩

theorem map_eq_ok {α β ε : Type} {f : α → β} {x : Except ε α} {value : β} :
    x.map f = .ok value ↔ ∃ first, x = .ok first ∧ f first = value := by
  cases x <;> simp [Except.map]

/-! ## Trimmed texts -/

namespace Text

/-- The core is the text without the blanks around it. -/
structure Trims (text core : List Char) : Prop where
  around : ∃ before after, text = before ++ core ++ after ∧
    (∀ c ∈ before, isBlank c = true) ∧ ∀ c ∈ after, isBlank c = true
  first : ∀ c ∈ core.head?, isBlank c = false
  last : ∀ c ∈ core.getLast?, isBlank c = false

theorem trimChars_eq (text : List Char) :
    trimChars text = (text.dropWhile isBlank).rdropWhile isBlank := rfl

theorem trims_trimChars (text : List Char) : Trims text (trimChars text) := by
  rw [trimChars_eq]
  have front : text = text.takeWhile isBlank ++ text.dropWhile isBlank :=
    List.takeWhile_append_dropWhile.symm
  have noBlank := List.head?_dropWhile_not isBlank text
  generalize text.dropWhile isBlank = middle at front noBlank ⊢
  obtain ⟨after, split⟩ : ∃ after, middle = middle.rdropWhile isBlank ++ after ∧
      ∀ c ∈ after, isBlank c = true := by
    refine ⟨(middle.reverse.takeWhile isBlank).reverse, ?_, fun c member => ?_⟩
    · rw [List.rdropWhile, ← List.reverse_append, List.takeWhile_append_dropWhile,
        List.reverse_reverse]
    · exact List.mem_takeWhile_imp (List.mem_reverse.mp member)
  refine ⟨⟨text.takeWhile isBlank, after, ?_, fun c => List.mem_takeWhile_imp, split.2⟩, ?_, ?_⟩
  · rw [List.append_assoc, ← split.1]
    exact front
  · intro c head
    rw [split.1, List.head?_append, head] at noBlank
    exact noBlank
  · intro c last
    obtain ⟨some, rfl⟩ := List.mem_getLast?_eq_getLast last
    exact Bool.eq_false_iff.mpr (List.rdropWhile_last_not isBlank middle some)

theorem Trims.eq_trimChars {text core : List Char} (trims : Trims text core) :
    trimChars text = core := by
  obtain ⟨before, after, rfl, blankBefore, blankAfter⟩ := trims.around
  have dropped : (core ++ after).dropWhile isBlank = core ++ after ∨ core = [] := by
    cases core with
    | nil => exact .inr rfl
    | cons c core => exact .inl (List.dropWhile_cons_of_neg (by simp [trims.first c rfl]))
  have kept : core.rdropWhile isBlank = core :=
    List.rdropWhile_eq_self_iff.mpr fun some => by
      simp [trims.last _ (List.getLast?_eq_some_getLast some)]
  rw [trimChars_eq, List.append_assoc, List.dropWhile_append_of_pos blankBefore]
  rcases dropped with same | rfl
  · rw [same, List.rdropWhile, List.reverse_append,
      List.dropWhile_append_of_pos fun c member => blankAfter c (List.mem_reverse.mp member)]
    exact kept
  · rw [List.nil_append, List.dropWhile_eq_nil_iff.mpr blankAfter]
    rfl

end Text

namespace Programmer

/-! ## Marks -/

theorem splitFirst?_eq_some {mark : Char} {text before after : List Char} :
    splitFirst? mark text = some (before, after) ↔
      mark ∉ before ∧ text = before ++ mark :: after := by
  induction text generalizing before with
  | nil => simp [splitFirst?]
  | cons c rest ih =>
    by_cases isMark : c = mark
    · subst isMark
      rw [splitFirst?, if_pos rfl]
      constructor
      · intro same
        cases same
        exact ⟨List.not_mem_nil, rfl⟩
      · rintro ⟨apart, split⟩
        cases before with
        | nil =>
          cases split
          rfl
        | cons d before =>
          obtain ⟨rfl, -⟩ := List.cons.inj split
          exact absurd List.mem_cons_self apart
    · rw [splitFirst?, if_neg isMark, Option.map_eq_some_iff]
      constructor
      · rintro ⟨⟨front, back⟩, found, same⟩
        cases same
        obtain ⟨apart, rfl⟩ := ih.mp found
        exact ⟨List.not_mem_cons_of_ne_of_not_mem (Ne.symm isMark) apart, rfl⟩
      · rintro ⟨apart, split⟩
        cases before with
        | nil => exact absurd (List.cons.inj split).1 isMark
        | cons d before =>
          obtain ⟨rfl, rfl⟩ := List.cons.inj split
          exact ⟨(before, after), ih.mpr ⟨List.not_mem_of_not_mem_cons apart, rfl⟩, rfl⟩

theorem splitFirst?_eq_none {mark : Char} {text : List Char} :
    splitFirst? mark text = none ↔ mark ∉ text := by
  induction text with
  | nil => simp [splitFirst?]
  | cons c rest ih =>
    by_cases isMark : c = mark
    · simp [splitFirst?, isMark]
    · simp [splitFirst?, isMark, ih, Ne.symm isMark]

theorem splitAll_eq_splitOn (mark : Char) (text : List Char) :
    splitAll mark text = List.splitOn mark text := by
  rw [List.splitOn_eq_splitOnP]
  induction text with
  | nil => rfl
  | cons c rest ih =>
    rw [List.splitOnP_cons_eq_if_modifyHead, splitAll, ih]
    by_cases isMark : c = mark
    · simp [isMark]
    · obtain ⟨piece, pieces, split⟩ :=
        List.exists_cons_of_ne_nil (List.splitOnP_ne_nil (fun x => x == mark) rest)
      simp [isMark, split]

theorem notMem_of_mem_splitAll {mark : Char} {text : List Char} :
    ∀ piece ∈ splitAll mark text, mark ∉ piece := by
  induction text with
  | nil => simp [splitAll]
  | cons c rest ih =>
    intro piece member
    rw [splitAll] at member
    split at member
    · rcases List.mem_cons.mp member with rfl | member
      · exact List.not_mem_nil
      · exact ih piece member
    · rename_i other
      split at member
      · cases List.mem_singleton.mp member
        simpa using Ne.symm other
      · rename_i front pieces split
        rcases List.mem_cons.mp member with rfl | member
        · exact List.not_mem_cons_of_ne_of_not_mem (Ne.symm other)
            (ih front (split ▸ List.mem_cons_self))
        · exact ih piece (split ▸ List.mem_cons_of_mem front member)

theorem splitAll_eq_iff {mark : Char} {text : List Char} {pieces : List (List Char)} :
    splitAll mark text = pieces ↔
      pieces ≠ [] ∧ (∀ piece ∈ pieces, mark ∉ piece) ∧ [mark].intercalate pieces = text := by
  constructor
  · rintro rfl
    refine ⟨?_, notMem_of_mem_splitAll, ?_⟩
    · rw [splitAll_eq_splitOn, List.splitOn_eq_splitOnP]
      exact List.splitOnP_ne_nil _ _
    · rw [splitAll_eq_splitOn, List.intercalate_splitOn]
  · rintro ⟨some, apart, rfl⟩
    rw [splitAll_eq_splitOn, List.splitOn_intercalate mark apart some]

/-! ## Options -/

/-- The piece is an option: a key and a value with an equals sign between them, up to blanks. -/
def IsOption (piece : List Char) (option : String × String) : Prop :=
  ∃ key value, piece = key ++ '=' :: value ∧ '=' ∉ key ∧ Text.Trims key option.1.toList ∧
    Text.Trims value option.2.toList

theorem readParameter_eq_ok {piece : List Char} {option : String × String} :
    readParameter piece = .ok option ↔ IsOption piece option := by
  unfold readParameter IsOption
  cases found : splitFirst? '=' piece with
  | none =>
    refine ⟨nofun, ?_⟩
    rintro ⟨key, value, rfl, -⟩
    exact absurd (List.mem_append_right key List.mem_cons_self) (splitFirst?_eq_none.mp found)
  | some parts =>
    obtain ⟨apart, split⟩ := splitFirst?_eq_some.mp found
    constructor
    · intro same
      cases same
      refine ⟨parts.1, parts.2, split, apart, ?_, ?_⟩
      · rw [String.toList_ofList]
        exact Text.trims_trimChars parts.1
      · rw [String.toList_ofList]
        exact Text.trims_trimChars parts.2
    · rintro ⟨key, value, same, keyApart, trimsKey, trimsValue⟩
      cases found.symm.trans (splitFirst?_eq_some.mpr ⟨keyApart, same⟩)
      simp only [trimsKey.eq_trimChars, trimsValue.eq_trimChars, String.ofList_toList]

theorem mapM_eq_ok {α β ε : Type} {f : α → Except ε β} {inputs : List α} {outputs : List β} :
    inputs.mapM f = .ok outputs ↔
      List.Forall₂ (fun input output => f input = .ok output) inputs outputs := by
  induction inputs generalizing outputs with
  | nil =>
    rw [List.forall₂_nil_left_iff]
    exact ⟨fun same => (Except.ok.inj same).symm, fun same => same ▸ rfl⟩
  | cons input inputs ih =>
    rw [List.forall₂_cons_left_iff, List.mapM_cons]
    simp only [bind_eq_ok, ih]
    constructor
    · rintro ⟨output, first, rest, others, same⟩
      exact ⟨output, rest, first, others, (Except.ok.inj same).symm⟩
    · rintro ⟨output, rest, first, others, rfl⟩
      exact ⟨output, first, rest, others, rfl⟩

/-- The text behind the colon: nothing, or options with commas between them. -/
inductive SpellsOptions : (text : List Char) → (options : List (String × String)) → Prop
  | none : SpellsOptions [] []
  | some {pieces : List (List Char)} {options : List (String × String)} (some : pieces ≠ [])
    (parted : ∀ piece ∈ pieces, ',' ∉ piece) (each : List.Forall₂ IsOption pieces options) :
    SpellsOptions ([','].intercalate pieces) options

/-- The text is a description: a name, and perhaps a colon with options behind it. -/
inductive Spells : (text name : List Char) → (options : List (String × String)) → Prop
  | bare {name : List Char} (apart : ':' ∉ name) : Spells name name []
  | colon {name rest : List Char} {options : List (String × String)} (apart : ':' ∉ name)
    (given : SpellsOptions rest options) : Spells (name ++ ':' :: rest) name options

/-! ## Reading -/

/-- Options that are given make up some text, as each has an equals sign. -/
theorem intercalate_ne_nil {pieces : List (List Char)} {options : List (String × String)}
    (some : pieces ≠ []) (each : List.Forall₂ IsOption pieces options) :
    [','].intercalate pieces ≠ [] := by
  cases each with
  | nil => exact absurd rfl some
  | @cons piece option pieces options isOption each =>
    obtain ⟨key, value, rfl, -⟩ := isOption
    cases pieces with
    | nil => simp
    | cons next pieces => simp

theorem readParameters_eq_ok {text : List Char} {options : List (String × String)} :
    readParameters text = .ok options ↔ SpellsOptions text options := by
  unfold readParameters
  constructor
  · intro reads
    split at reads
    case isTrue empty =>
      cases reads
      rw [List.isEmpty_iff.mp empty]
      exact .none
    · obtain ⟨some, parted, joined⟩ := splitAll_eq_iff.mp (@rfl _ (splitAll ',' text))
      have each := mapM_eq_ok.mp reads
      simp only [readParameter_eq_ok] at each
      rw [← joined]
      exact .some some parted each
  · intro spells
    cases spells with
    | none => rfl
    | @some pieces options some parted each =>
      rw [if_neg (by simpa using intercalate_ne_nil some each),
        splitAll_eq_iff.mpr ⟨some, parted, rfl⟩, mapM_eq_ok]
      simpa only [readParameter_eq_ok] using each

section Name

variable {text front rest name : List Char} {options : List (String × String)}

theorem spells_bare_iff (apart : ':' ∉ text) :
    Spells text name options ↔ name = text ∧ options = [] := by
  constructor
  · rintro (_ | _)
    · exact ⟨rfl, rfl⟩
    · simp at apart
  · rintro ⟨rfl, rfl⟩
    exact .bare apart

theorem spells_colon_iff (apart : ':' ∉ front) :
    Spells (front ++ ':' :: rest) name options ↔ name = front ∧ SpellsOptions rest options := by
  constructor
  · intro spells
    generalize whole : front ++ ':' :: rest = text at spells
    have found := splitFirst?_eq_some.mpr ⟨apart, whole.symm⟩
    cases spells with
    | bare alone => exact absurd (whole ▸ List.mem_append_right front List.mem_cons_self) alone
    | colon apart' given =>
      cases found.symm.trans (splitFirst?_eq_some.mpr ⟨apart', rfl⟩)
      exact ⟨rfl, given⟩
  · rintro ⟨rfl, given⟩
    exact .colon apart given

end Name

theorem spellsOptions_nil {options : List (String × String)} :
    SpellsOptions [] options ↔ options = [] := by
  rw [← readParameters_eq_ok]
  exact ⟨fun same => (Except.ok.inj same).symm, fun none => none ▸ rfl⟩

theorem Spells.unique {text name name' : List Char} {options options' : List (String × String)}
    (spells : Spells text name options) (spells' : Spells text name' options') :
    name = name' ∧ options = options' := by
  cases found : splitFirst? ':' text with
  | none =>
    have apart := splitFirst?_eq_none.mp found
    obtain ⟨rfl, rfl⟩ := (spells_bare_iff apart).mp spells
    obtain ⟨rfl, rfl⟩ := (spells_bare_iff apart).mp spells'
    exact ⟨rfl, rfl⟩
  | some parts =>
    obtain ⟨apart, rfl⟩ := splitFirst?_eq_some.mp found
    obtain ⟨rfl, given⟩ := (spells_colon_iff apart).mp spells
    obtain ⟨rfl, given'⟩ := (spells_colon_iff apart).mp spells'
    have same := (readParameters_eq_ok.mpr given).symm.trans (readParameters_eq_ok.mpr given')
    exact ⟨rfl, Except.ok.inj same⟩

theorem ofString_eq_ok_iff_parts {text : String} {name rest : List Char}
    (parts : (splitFirst? ':' text.toList).getD (text.toList, []) = (name, rest))
    {description : Description} :
    Description.ofString text = .ok description ↔ description.name ≠ "" ∧
      description.name.toList = name ∧ SpellsOptions rest description.parameters := by
  rw [← readParameters_eq_ok]
  unfold Description.ofString
  rw [parts]
  show (if name.isEmpty then throw .missingName else
    readParameters rest >>= fun parameters => pure ⟨String.ofList name, parameters⟩ :
      Except DescriptionFault Description) = .ok description ↔ _
  constructor
  · intro reads
    split at reads
    · cases reads
    · rename_i some
      obtain ⟨parameters, given, same⟩ := bind_eq_ok.mp reads
      cases same
      refine ⟨fun none => some ?_, String.toList_ofList, given⟩
      rw [List.isEmpty_iff, ← String.toList_ofList (l := name)]
      exact String.toList_eq_nil_iff.mpr none
  · rintro ⟨some, rfl, given⟩
    rw [if_neg (by simpa using some), given, String.ofList_toList]
    rfl

theorem ofString_eq_ok {text : String} {description : Description} :
    Description.ofString text = .ok description ↔ description.name ≠ "" ∧
      Spells text.toList description.name.toList description.parameters := by
  cases found : splitFirst? ':' text.toList with
  | none =>
    rw [spells_bare_iff (splitFirst?_eq_none.mp found),
      ofString_eq_ok_iff_parts (congrArg (·.getD (text.toList, [])) found), spellsOptions_nil]
  | some parts =>
    obtain ⟨apart, whole⟩ := splitFirst?_eq_some.mp found
    rw [ofString_eq_ok_iff_parts (congrArg (·.getD (text.toList, [])) found), whole,
      spells_colon_iff apart]

end Programmer

end SpiProgrammer
