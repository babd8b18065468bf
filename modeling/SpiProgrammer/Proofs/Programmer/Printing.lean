import SpiProgrammer.Proofs.Programmer.Grammar

/-! # Printing descriptions

A description is printed as its name and, if it has parameters, a colon and the parameters between
commas.  Main statement: a text is understood piece by piece, as what stands between its marks, and
fails at the first piece that is no parameter; what is printed is understood as what was printed, if
none of it holds a mark that would part it, and what was understood is always such. -/
set_option autoImplicit false

namespace SpiProgrammer

theorem mapM_eq_error {α β ε : Type} {f : α → Except ε β} {inputs : List α} {error : ε} :
    inputs.mapM f = .error error ↔
      ∃ input, inputs.find? (fun input => !(f input).isOk) = some input ∧
        f input = .error error := by
  induction inputs with
  | nil => exact ⟨nofun, nofun⟩
  | cons input rest ih =>
    rw [List.mapM_cons, List.find?_cons]
    cases found : f input with
    | error fault =>
      show (.error fault : Except ε (List β)) = .error error ↔ ∃ other, some input = some other ∧ _
      constructor
      · intro same
        cases same
        exact ⟨input, rfl, found⟩
      · rintro ⟨_, ⟨⟩, fails⟩
        cases found.symm.trans fails
        rfl
    | ok output =>
      show (rest.mapM f >>= fun outputs => pure (output :: outputs)) = .error error ↔
        ∃ other, rest.find? _ = some other ∧ _
      rw [← ih]
      cases rest.mapM f with
      | error fault => exact ⟨fun same => by cases same; rfl, fun same => by cases same; rfl⟩
      | ok outputs => exact ⟨nofun, nofun⟩

namespace Text

theorem Trims.subset {text core : List Char} (trims : Trims text core) : core ⊆ text := by
  obtain ⟨before, after, rfl, -, -⟩ := trims.around
  exact fun c member => List.mem_append_left after (List.mem_append_right before member)

theorem Trims.trimmed {text core : List Char} (trims : Trims text core) : Trims core core where
  around := ⟨[], [], (List.append_nil core).symm, nofun, nofun⟩
  first := trims.first
  last := trims.last

theorem trims_self_iff {text : String} : Trims text.toList text.toList ↔ trim text = text := by
  constructor
  · intro trims
    rw [trim, trims.eq_trimChars, String.ofList_toList]
  · intro same
    have trims := trims_trimChars text.toList
    rwa [← String.toList_ofList (l := trimChars text.toList), ← trim, same] at trims

end Text

namespace Programmer

/-! ## Reading between the marks -/

theorem splitFirst?_eq (mark : Char) (text : List Char) :
    splitFirst? mark text =
      if mark ∈ text then
        some (text.takeWhile (· ≠ mark), (text.dropWhile (· ≠ mark)).tail)
      else none := by
  induction text with
  | nil => rfl
  | cons c rest ih =>
    by_cases isMark : c = mark
    · subst isMark
      simp [splitFirst?]
    · by_cases later : mark ∈ rest
      · simp [splitFirst?, isMark, ih, later]
      · simp [splitFirst?, isMark, ih, later, Ne.symm isMark]

theorem splitFirst?_getD (mark : Char) (text : List Char) :
    (splitFirst? mark text).getD (text, []) =
      (text.takeWhile (· ≠ mark), (text.dropWhile (· ≠ mark)).tail) := by
  rw [splitFirst?_eq]
  by_cases marked : mark ∈ text
  · rw [if_pos marked, Option.getD_some]
  · have all : ∀ c ∈ text, decide (c ≠ mark) = true := fun c member =>
      decide_eq_true fun same => marked (same ▸ member)
    rw [if_neg marked, Option.getD_none, List.takeWhile_eq_self_iff.mpr all,
      List.dropWhile_eq_nil_iff.mpr all]
    rfl

theorem readParameter_eq_error {piece : List Char} {fault : DescriptionFault} :
    readParameter piece = .error fault ↔
      '=' ∉ piece ∧ fault = .malformedParameter (.ofList piece) := by
  unfold readParameter
  cases found : splitFirst? '=' piece with
  | none =>
    have apart := splitFirst?_eq_none.mp found
    exact ⟨fun same => ⟨apart, (Except.error.inj same).symm⟩, fun both => both.2 ▸ rfl⟩
  | some parts =>
    refine ⟨nofun, fun both => absurd both.1 ?_⟩
    rw [← splitFirst?_eq_none, found]
    exact nofun

theorem readParameter_isOk (piece : List Char) :
    (readParameter piece).isOk = decide ('=' ∈ piece) := by
  cases read : readParameter piece with
  | error fault => exact (decide_eq_false (readParameter_eq_error.mp read).1).symm
  | ok option =>
    obtain ⟨key, value, rfl, -⟩ := readParameter_eq_ok.mp read
    exact (decide_eq_true (List.mem_append_right key List.mem_cons_self)).symm

theorem readParameters_eq_error {rest : List Char} {fault : DescriptionFault} :
    readParameters rest = .error fault ↔ rest ≠ [] ∧
      ∃ piece, (rest.splitOn ',').find? (fun piece => '=' ∉ piece) = some piece ∧
        fault = .malformedParameter (.ofList piece) := by
  unfold readParameters
  rw [splitAll_eq_splitOn]
  have unread : (fun piece => !(readParameter piece).isOk) = fun piece => decide ('=' ∉ piece) := by
    funext piece
    rw [readParameter_isOk, decide_not]
  by_cases none : rest = []
  · subst none
    exact ⟨nofun, fun both => absurd rfl both.1⟩
  · rw [if_neg (by simpa using none), mapM_eq_error, unread]
    simp only [readParameter_eq_error]
    constructor
    · rintro ⟨piece, first, -, same⟩
      exact ⟨none, piece, first, same⟩
    · rintro ⟨-, piece, first, same⟩
      have apart := List.find?_some (p := fun piece => decide ('=' ∉ piece)) first
      exact ⟨piece, first, of_decide_eq_true apart, same⟩

theorem spellsOptions_iff {rest : List Char} {options : List (String × String)} :
    SpellsOptions rest options ↔
      if rest = [] then options = [] else List.Forall₂ IsOption (rest.splitOn ',') options := by
  by_cases none : rest = []
  · subst none
    rw [if_pos rfl, spellsOptions_nil]
  · rw [if_neg none, ← readParameters_eq_ok, readParameters, if_neg (by simpa using none),
      splitAll_eq_splitOn, mapM_eq_ok]
    simp only [readParameter_eq_ok]

theorem ofString_eq_error {text : String} {fault : DescriptionFault} :
    Description.ofString text = .error fault ↔
      let name := text.toList.takeWhile (· ≠ ':')
      let rest := (text.toList.dropWhile (· ≠ ':')).tail
      if name = [] then fault = .missingName else readParameters rest = .error fault := by
  unfold Description.ofString
  rw [splitFirst?_getD]
  dsimp only
  by_cases none : text.toList.takeWhile (· ≠ ':') = []
  · rw [if_pos none, none]
    exact ⟨fun same => (Except.error.inj same).symm, fun same => same ▸ rfl⟩
  · rw [if_neg none, if_neg (by simpa using none)]
    show (readParameters _ >>= fun parameters => pure _) = .error fault ↔ _
    cases readParameters (text.toList.dropWhile (· ≠ ':')).tail with
    | error other => exact ⟨fun same => by cases same; rfl, fun same => by cases same; rfl⟩
    | ok parameters => exact ⟨nofun, nofun⟩

/-! ## Printing -/

def printOption (option : String × String) : List Char :=
  option.1.toList ++ '=' :: option.2.toList

def Description.print (description : Description) : String :=
  match description.parameters with
  | [] => description.name
  | options =>
    .ofList (description.name.toList ++ ':' :: [','].intercalate (options.map printOption))

/-- A key or value that can stand between commas: no comma and no blanks around it. -/
structure Plain (text : String) : Prop where
  parted : ',' ∉ text.toList
  trimmed : Text.trim text = text

/-- Nothing in the description holds a mark that would part it. -/
structure Description.Printable (description : Description) : Prop where
  named : description.name ≠ ""
  apart : ':' ∉ description.name.toList
  keys : ∀ option ∈ description.parameters, Plain option.1 ∧ '=' ∉ option.1.toList
  values : ∀ option ∈ description.parameters, Plain option.2

theorem isOption_printOption {option : String × String} (key : Plain option.1)
    (apart : '=' ∉ option.1.toList) (value : Plain option.2) :
    IsOption (printOption option) option :=
  ⟨option.1.toList, option.2.toList, rfl, apart, Text.trims_self_iff.mpr key.trimmed,
    Text.trims_self_iff.mpr value.trimmed⟩

theorem spells_print {description : Description} (printable : description.Printable) :
    Spells description.print.toList description.name.toList description.parameters := by
  obtain ⟨name, parameters⟩ := description
  cases parameters with
  | nil => exact .bare printable.apart
  | cons option options =>
    show Spells (String.ofList _).toList _ _
    rw [String.toList_ofList]
    refine .colon printable.apart (.some (by simp) ?_ ?_)
    · intro piece member
      obtain ⟨option, given, rfl⟩ := List.mem_map.mp member
      have key := (printable.keys option given).1.parted
      have value := (printable.values option given).parted
      simp [printOption, key, value]
    · rw [List.forall₂_map_left_iff, List.forall₂_same]
      intro option given
      obtain ⟨key, apart⟩ := printable.keys option given
      exact isOption_printOption key apart (printable.values option given)

theorem IsOption.plain {piece : List Char} {option : String × String}
    (isOption : IsOption piece option) (parted : ',' ∉ piece) :
    (Plain option.1 ∧ '=' ∉ option.1.toList) ∧ Plain option.2 := by
  obtain ⟨key, value, rfl, apart, trimsKey, trimsValue⟩ := isOption
  have partedKey : ',' ∉ key := fun member => parted (List.mem_append_left _ member)
  have partedValue : ',' ∉ value := fun member =>
    parted (List.mem_append_right _ (List.mem_cons_of_mem _ member))
  exact ⟨⟨⟨fun member => partedKey (trimsKey.subset member),
      Text.trims_self_iff.mp trimsKey.trimmed⟩, fun member => apart (trimsKey.subset member)⟩,
    ⟨fun member => partedValue (trimsValue.subset member),
      Text.trims_self_iff.mp trimsValue.trimmed⟩⟩

theorem SpellsOptions.plain {text : List Char} {options : List (String × String)}
    (spells : SpellsOptions text options) :
    ∀ option ∈ options, (Plain option.1 ∧ '=' ∉ option.1.toList) ∧ Plain option.2 := by
  cases spells with
  | none => exact nofun
  | some some parted each =>
    clear some
    induction each with
    | nil => exact nofun
    | cons isOption _ ih =>
      obtain ⟨first, later⟩ := List.forall_mem_cons.mp parted
      exact List.forall_mem_cons.mpr ⟨isOption.plain first, ih later⟩

theorem Spells.printable {text : List Char} {description : Description}
    (named : description.name ≠ "")
    (spells : Spells text description.name.toList description.parameters) :
    description.Printable := by
  obtain ⟨name, parameters⟩ := description
  generalize named' : name.toList = chars at spells
  cases spells with
  | bare apart => exact ⟨named, named' ▸ apart, nofun, nofun⟩
  | colon apart given =>
    exact ⟨named, named' ▸ apart, fun option member => (given.plain option member).1,
      fun option member => (given.plain option member).2⟩

theorem ofString_print {description : Description} (printable : description.Printable) :
    Description.ofString description.print = .ok description :=
  ofString_eq_ok.mpr ⟨printable.named, spells_print printable⟩

/-- A text stands for the name before its first colon and, if there is more behind the colon, for
the parameters between the commas: each a key before the first equals sign and a value behind it,
without the blanks around them.  Without a name, or where a parameter has no equals sign, it is not
understood, and the first such parameter is what is complained of.  What has been understood is
understood again as it is printed, and so is every description in which no mark would part what
belongs together. -/
theorem ofString_by_marks (text : String) :
    let name := text.toList.takeWhile (· ≠ ':')
    let rest := (text.toList.dropWhile (· ≠ ':')).tail
    let pieces := rest.splitOn ','
    ((∃ fault, Description.ofString text = .error fault) ↔
      name = [] ∨ rest ≠ [] ∧ ∃ piece ∈ pieces, '=' ∉ piece) ∧
    (∀ fault, Description.ofString text = .error fault →
      if name = [] then fault = .missingName
      else ∃ piece, pieces.find? (fun piece => '=' ∉ piece) = some piece ∧
        fault = .malformedParameter (.ofList piece)) ∧
    (∀ description, Description.ofString text = .ok description →
      description.name.toList = name ∧
      (if rest = [] then description.parameters = []
        else List.Forall₂ IsOption pieces description.parameters) ∧
      Description.ofString description.print = .ok description) ∧
    (∀ description : Description, description.Printable →
      Description.ofString description.print = .ok description) := by
  intro name rest pieces
  refine ⟨?_, fun fault refused => ?_, fun description understood => ?_,
    fun _ => ofString_print⟩
  · by_cases none : name = []
    · refine iff_of_true ⟨.missingName, ofString_eq_error.mpr ?_⟩ (.inl none)
      exact (if_pos none).mpr rfl
    · have reads (fault : DescriptionFault) :
          Description.ofString text = .error fault ↔ readParameters rest = .error fault :=
        ofString_eq_error.trans (iff_of_eq (if_neg none))
      simp only [reads, readParameters_eq_error, none, false_or]
      constructor
      · rintro ⟨fault, some, piece, first, -⟩
        have apart := List.find?_some (p := fun piece => decide ('=' ∉ piece)) first
        exact ⟨some, piece, List.mem_of_find?_eq_some first, of_decide_eq_true apart⟩
      · rintro ⟨some, malformed⟩
        obtain ⟨piece, first⟩ := Option.isSome_iff_exists.mp
          (List.find?_isSome.mpr (malformed.imp fun _ both => ⟨both.1, decide_eq_true both.2⟩))
        exact ⟨_, some, piece, first, rfl⟩
  · have reads := ofString_eq_error.mp refused
    by_cases none : name = []
    · rw [if_pos none] at reads ⊢
      exact reads
    · rw [if_neg none] at reads ⊢
      exact (readParameters_eq_error.mp reads).2
  · obtain ⟨named, spells⟩ := ofString_eq_ok.mp understood
    have parts := (ofString_eq_ok_iff_parts (splitFirst?_getD ':' text.toList)).mp understood
    exact ⟨parts.2.1, spellsOptions_iff.mp parts.2.2, ofString_print (spells.printable named)⟩

-- a comma in the name and the other marks in a value part nothing; a key and a value may be empty
example : Description.ofString "a,b: key =v:w=x ,=" =
    .ok ⟨"a,b", [("key", "v:w=x"), ("", "")]⟩ := by cbv

end Programmer

end SpiProgrammer
