import SpiProgrammer.CommandLine.Invocation
import SpiProgrammer.Proofs.Programmer.Grammar

/-! # Which options a command line gives

What is said here of a command line is said of its texts: an option is given where one of them
begins it, and its value is attached there or is the next text.  Reading goes through the texts with
what has been given so far and with the option whose value is still to come; `Leads` says what one
argument adds to that.

Main statement: what reading comes to has every option that is given, with the value it is given,
and no other. -/
set_option autoImplicit false

namespace SpiProgrammer.CommandLine

/-! ## Options on the command line -/

/-- What follows a letter in a cluster is its value, without an equals sign in front of it. -/
def attachedValue : List Char → Option String
  | [] => none
  | '=' :: value => some (String.ofList value)
  | value => some (String.ofList value)

/-- The argument begins an option, with the value that is attached to it.  Only verbosity may stand
in front of a letter that takes a value. -/
inductive Begins (key : Key) : Argument → Option String → Prop
  | named (value : Option String) : Begins key (.named key.name value) value
  | lettered (louder : Nat) (rest : List Char) :
    Begins key (.letters (List.replicate louder 'v' ++ key.letter :: rest)) (attachedValue rest)

/-- Among the arguments is the option with this value, attached to it or following it. -/
def Gives (arguments : List String) (key : Key) (value : String) : Prop :=
  ∃ before text after, arguments = before ++ text :: after ∧
    (Begins key (.ofString text) (some value) ∨
      Begins key (.ofString text) none ∧ ∃ rest, after = value :: rest)

theorem gives_nil {key : Key} {value : String} : ¬ Gives [] key value := by
  rintro ⟨before, text, after, split, -⟩
  simp at split

theorem gives_cons {text : String} {rest : List String} {key : Key} {value : String} :
    Gives (text :: rest) key value ↔
      Begins key (.ofString text) (some value) ∨
      (Begins key (.ofString text) none ∧ ∃ later, rest = value :: later) ∨
      Gives rest key value := by
  constructor
  · rintro ⟨_ | ⟨head, before⟩, begins, after, split, given⟩
    · cases split
      exact given.imp_right .inl
    · cases split
      exact .inr (.inr ⟨before, begins, after, rfl, given⟩)
  · rintro (attached | ⟨begins, later, rfl⟩ | ⟨before, begins, after, rfl, given⟩)
    · exact ⟨[], text, rest, rfl, .inl attached⟩
    · exact ⟨[], text, value :: later, rfl, .inr ⟨begins, later, rfl⟩⟩
    · exact ⟨text :: before, begins, after, rfl, given⟩

/-! ## Names and letters -/

theorem Key.name_inj {key other : Key} : key.name = other.name ↔ key = other := by
  cases key <;> cases other <;> decide

theorem Key.letter_inj {key other : Key} : key.letter = other.letter ↔ key = other := by
  cases key <;> cases other <;> decide

theorem Key.letter_ne_verbose (key : Key) : key.letter ≠ 'v' := by
  cases key <;> decide

theorem Key.name_ne_flag (key : Key) (flag : Flag) : key.name ≠ flag.name := by
  cases key <;> cases flag <;> decide

theorem name_of_byName? {verb : Verb} {name : String} {meaning : Meaning}
    (found : verb.byName? name = some meaning) : meaning.name = name := by
  unfold Verb.byName? at found
  have same := List.find?_some found
  exact beq_iff_eq.mp same

theorem letter_of_byLetter? {verb : Verb} {letter : Char} {meaning : Meaning}
    (found : verb.byLetter? letter = some meaning) : meaning.letter? = some letter := by
  unfold Verb.byLetter? at found
  have same := List.find?_some found
  exact beq_iff_eq.mp same

theorem begins_named {key : Key} {name : String} {value attached : Option String} :
    Begins key (.named name attached) value ↔ key.name = name ∧ value = attached := by
  constructor
  · rintro ⟨⟩
    exact ⟨rfl, rfl⟩
  · rintro ⟨rfl, rfl⟩
    exact .named _

theorem begins_takes {key other : Key} {rest : List Char} {value : Option String} :
    Begins other (.letters (key.letter :: rest)) value ↔
      other = key ∧ value = attachedValue rest := by
  constructor
  · generalize same : key.letter :: rest = cluster
    intro begins
    cases begins with | lettered louder rest'
    cases louder with
    | zero =>
      obtain ⟨letter, rfl⟩ := List.cons.inj same
      exact ⟨Key.letter_inj.mp letter.symm, rfl⟩
    | succ louder => exact absurd (List.cons.inj same).1 key.letter_ne_verbose
  · rintro ⟨rfl, rfl⟩
    exact .lettered 0 rest

theorem begins_louder {key : Key} {rest : List Char} {value : Option String} :
    Begins key (.letters ('v' :: rest)) value ↔ Begins key (.letters rest) value := by
  constructor
  · generalize same : 'v' :: rest = cluster
    intro begins
    cases begins with | lettered louder rest'
    cases louder with
    | zero => exact absurd (List.cons.inj same).1.symm key.letter_ne_verbose
    | succ louder =>
      obtain ⟨-, rfl⟩ := List.cons.inj same
      exact .lettered louder rest'
  · intro begins
    cases begins with | lettered louder rest' => exact .lettered (louder + 1) rest'

theorem not_begins_end {key : Key} {value : Option String} : ¬ Begins key .end value := nofun

theorem not_begins_plain {key : Key} {text : String} {value : Option String} :
    ¬ Begins key (.plain text) value := nofun

theorem not_begins_nothing {key : Key} {value : Option String} :
    ¬ Begins key (.letters []) value := by
  generalize same : [] = cluster
  intro begins
  cases begins with | lettered louder rest => simp at same

theorem ofString_letters {text : String} {cluster : List Char}
    (isLetters : Argument.ofString text = .letters cluster) : cluster ≠ [] := by
  rintro rfl
  unfold Argument.ofString at isLetters
  split at isLetters <;> simp_all

theorem ofString_plain {text value : String} (isPlain : Argument.ofString text = .plain value) :
    value = text := by
  unfold Argument.ofString at isPlain
  split at isPlain <;> simp_all

/-! ## What has been given -/

namespace Given

/-- The option has been given, and this was its value. -/
def Settled (given : Given) : Key → String → Prop
  | .programmer, value => given.programmer = some value
  | .output, value => given.output = some value
  | .input, value => given.input = some value
  | .address, value => ∃ number, readNumber value = .ok number ∧ given.address = some number
  | .length, value => ∃ number, readNumber value = .ok number ∧ given.length = some number

/-- The option has been given with this value, which may not have been looked at yet. -/
def Bears (given : Given) (key : Key) (value : String) : Prop :=
  given.Settled key value ∨ given.pending = .holding key value

def Offers (given : Given) (key : Key) : Prop :=
  given.has key = true ∨ ∃ value, given.pending = .holding key value

theorem has_of_settled {given : Given} {key : Key} {value : String}
    (settled : given.Settled key value) : given.has key = true := by
  cases key with
  | programmer | output | input => simpa [has] using settled ▸ rfl
  | address | length =>
    obtain ⟨number, -, given⟩ := settled
    simp [has, given]

/-- The value of one option has been looked at. -/
structure Accepts (given next : Given) (key : Key) (value : String) : Prop where
  settled : next.Settled key value
  kept : ∀ other text, given.Settled other text → next.Settled other text
  only : ∀ other, next.has other = true → given.has other = true ∨ other = key
  pending : next.pending = given.pending

theorem stores {given next : Given} {key : Key} {value : String}
    (stored : given.store key value = .ok next) :
    next.Settled key value ∧ next.pending = given.pending ∧
      ∀ other, other ≠ key → next.has other = given.has other ∧
        ∀ text, next.Settled other text ↔ given.Settled other text := by
  cases key with
  | programmer =>
    cases stored
    refine ⟨rfl, rfl, fun other distinct => ?_⟩
    cases other <;> first | exact absurd rfl distinct | exact ⟨rfl, fun _ => .rfl⟩
  | output | input =>
    obtain ⟨path, read, rfl⟩ := map_eq_ok.mp stored
    unfold readPath at read
    split at read <;> cases read
    refine ⟨rfl, rfl, fun other distinct => ?_⟩
    cases other <;> first | exact absurd rfl distinct | exact ⟨rfl, fun _ => .rfl⟩
  | address | length =>
    obtain ⟨number, read, rfl⟩ := map_eq_ok.mp stored
    refine ⟨⟨number, mapError_eq_ok.mp read, rfl⟩, rfl, fun other distinct => ?_⟩
    cases other <;> first | exact absurd rfl distinct | exact ⟨rfl, fun _ => .rfl⟩

theorem accepts_of_accept {given next : Given} {key : Key} {value : String}
    (accepted : given.accept key value = .ok next) : Accepts given next key value := by
  unfold accept at accepted
  split at accepted
  · cases accepted
  case isFalse fresh =>
    obtain ⟨settled, pending, others⟩ := stores accepted
    refine ⟨settled, fun other text before => ?_, fun other had => ?_, pending⟩
    · -- an option that is settled has been given, and then it is not accepted again
      have distinct : other ≠ key := fun same => fresh (same ▸ has_of_settled before)
      exact ((others other distinct).2 text).mpr before
    · by_cases distinct : other = key
      · exact .inr distinct
      · exact .inl ((others other distinct).1 ▸ had)

/-- What is pending has been looked at, and nothing has been added. -/
structure Settles (given next : Given) : Prop where
  free : ∀ key, given.pending ≠ .awaiting key
  settled : ∀ key value, given.Bears key value → next.Settled key value
  only : ∀ key, next.has key = true → given.Offers key
  pending : next.pending = .nothing

theorem settles_of_settle {given next : Given} (settled : given.settle = .ok next) :
    Settles given next := by
  unfold settle at settled
  split at settled
  case h_1 nothing =>
    cases settled
    refine ⟨fun key => ?_, fun key value bears => ?_, fun key => .inl, nothing⟩
    · simp [nothing]
    · exact bears.resolve_right (by simp [nothing])
  case h_2 => cases settled
  case h_3 key value holding =>
    have accepts := accepts_of_accept settled
    refine ⟨fun key => ?_, fun other text bears => ?_, fun other had => ?_, accepts.pending⟩
    · simp [holding]
    · obtain before | pending := bears
      · exact accepts.kept other text (by cases other <;> exact before)
      · obtain ⟨rfl, rfl⟩ := Pending.holding.inj (holding.symm.trans pending)
        exact accepts.settled
    · obtain before | rfl := accepts.only other had
      · exact .inl (by cases other <;> exact before)
      · exact .inr ⟨value, holding⟩

/-- What one argument adds: the options that it begins, with the values attached to it. -/
structure Leads (given next : Given) (begun : Key → Option String → Prop) : Prop where
  free : ∀ key, given.pending ≠ .awaiting key
  kept : ∀ key value, given.Bears key value → next.Bears key value
  taken : ∀ key value, begun key (some value) → next.Bears key value
  only : ∀ key, next.Offers key → given.Offers key ∨ ∃ value, begun key (some value)
  awaits : ∀ key, next.pending = .awaiting key ↔ begun key none

theorem leads_of_startOption {given next : Given} {key : Key} {attached : Option String}
    (started : given.startOption key attached = .ok next) :
    Leads given next fun other value => other = key ∧ value = attached := by
  obtain ⟨between, settled, started⟩ := bind_eq_ok.mp started
  have settles := settles_of_settle settled
  cases attached with
  | none =>
    cases started
    refine ⟨settles.free, fun other value bears => ?_, nofun, ?_, ?_⟩
    · exact .inl (by cases other <;> exact settles.settled _ value bears)
    · rintro other (had | ⟨value, ⟨⟩⟩)
      exact .inl (settles.only other (by cases other <;> exact had))
    · simp [eq_comm]
  | some value =>
    have accepts := accepts_of_accept started
    have nothing : next.pending = .nothing := accepts.pending.trans settles.pending
    refine ⟨settles.free, fun other text bears => ?_, ?_, ?_, ?_⟩
    · exact .inl (accepts.kept other text (settles.settled other text bears))
    · rintro other text ⟨rfl, ⟨⟩⟩
      exact .inl accepts.settled
    · rintro other (had | ⟨text, holding⟩)
      · obtain before | rfl := accepts.only other had
        · exact .inl (settles.only other before)
        · exact .inr ⟨value, rfl, rfl⟩
      · rw [nothing] at holding
        cases holding
    · simp [nothing]

theorem leads_of_raise {given next : Given} {flag : Flag} (raised : given.raise flag = .ok next) :
    flag ≠ .help ∧ Leads given next fun _ _ => False := by
  obtain ⟨between, settled, raised⟩ := bind_eq_ok.mp raised
  have settles := settles_of_settle settled
  have same : flag ≠ .help ∧ next.has = between.has ∧ next.Settled = between.Settled ∧
      next.pending = between.pending := by
    cases flag with
    | help => cases raised
    | verbose =>
      cases raised
      exact ⟨by decide, funext fun key => by cases key <;> rfl,
        funext fun key => by cases key <;> rfl, rfl⟩
    | erase | noVerify =>
      dsimp only at raised
      split at raised
      · cases raised
      · cases raised
        exact ⟨by decide, funext fun key => by cases key <;> rfl,
          funext fun key => by cases key <;> rfl, rfl⟩
  obtain ⟨plain, has, settled, pending⟩ := same
  have nothing : next.pending = .nothing := pending.trans settles.pending
  refine ⟨plain, settles.free, fun key value bears => ?_, nofun, ?_, ?_⟩
  · exact .inl (settled ▸ settles.settled key value bears)
  · rintro key (had | ⟨value, holding⟩)
    · exact .inl (settles.only key (has ▸ had))
    · rw [nothing] at holding
      cases holding
  · simp [nothing]

theorem Leads.after {given between next : Given} {begun : Key → Option String → Prop}
    (first : Leads given between fun _ _ => False) (second : Leads between next begun) :
    Leads given next begun where
  free := first.free
  kept key value bears := second.kept key value (first.kept key value bears)
  taken := second.taken
  only key offers := (second.only key offers).imp_left fun offered =>
    (first.only key offered).resolve_right fun ⟨_, never⟩ => never
  awaits := second.awaits

theorem Leads.congr {given next : Given} {begun same : Key → Option String → Prop}
    (leads : Leads given next begun) (iff : ∀ key value, same key value ↔ begun key value) :
    Leads given next same := by
  obtain rfl : same = begun := funext fun key => funext fun value => propext (iff key value)
  exact leads

theorem leads_of_takeName {verb : Verb} {given next : Given} {name : String}
    {value : Option String} (took : given.takeName verb name value = .ok next) :
    Leads given next fun key => Begins key (.named name value) := by
  unfold takeName at took
  split at took
  · cases took
  case h_2 key found =>
    obtain rfl : key.name = name := name_of_byName? found
    exact (leads_of_startOption took).congr fun other text => by
      rw [begins_named, Key.name_inj]
  case h_3 flag found =>
    obtain rfl : flag.name = name := name_of_byName? found
    split at took
    · cases took
    · exact (leads_of_raise took).2.congr fun key text => by
        simp [begins_named, key.name_ne_flag flag]

/-- The letters before the first one that takes a value all ask for verbosity. -/
theorem leads_of_takeLetters {verb : Verb} {cluster : List Char} (some : cluster ≠ []) :
    ∀ {given next : Given}, given.takeLetters verb cluster = .ok next →
      Leads given next fun key => Begins key (.letters cluster) := by
  induction cluster with
  | nil => exact absurd rfl some
  | cons letter rest ih =>
    intro given next took
    unfold takeLetters at took
    split at took
    · cases took
    case h_2 key found =>
      obtain rfl : key.letter = letter := Option.some.inj (letter_of_byLetter? found)
      exact (leads_of_startOption took).congr fun other text => by
        rw [begins_takes]
        rfl
    case h_3 flag found =>
      obtain ⟨between, raised, took⟩ := bind_eq_ok.mp took
      obtain ⟨plain, leads⟩ := leads_of_raise raised
      have verbose : letter = 'v' := by
        have same : flag.letter? = Option.some letter := letter_of_byLetter? found
        cases flag with
        | help => exact absurd rfl plain
        | verbose => exact (Option.some.inj same).symm
        | erase | noVerify => cases same
      subst verbose
      -- the last letter leaves nothing to take, so there the induction has no case of its own
      cases rest with
      | nil =>
        cases took
        exact leads.congr fun key text => by simp [begins_louder, not_begins_nothing]
      | cons next rest =>
        exact (leads.after (ih (by simp) took)).congr fun key text => begins_louder

/-- An option that is given, or whose value is the first argument that is still to come. -/
def GivesNext (given : Given) (arguments : List String) (key : Key) (value : String) : Prop :=
  (given.pending = .awaiting key ∧ ∃ later, arguments = value :: later) ∨
    Gives arguments key value

theorem Leads.givesNext {given next : Given} {text : String} {rest : List String}
    (leads : Leads given next fun key => Begins key (.ofString text)) {key : Key}
    {value : String} :
    given.GivesNext (text :: rest) key value ↔
      Begins key (.ofString text) (some value) ∨ next.GivesNext rest key value := by
  unfold GivesNext
  rw [gives_cons, ← leads.awaits]
  constructor
  · rintro (⟨awaiting, -⟩ | given)
    · exact absurd awaiting (leads.free key)
    · exact given
  · exact .inr

/-- What reading comes to: the options that are given, and with the values that they are given. -/
structure Reads (given : Given) (arguments : List String) (final : Given) : Prop where
  kept : ∀ key value, given.Bears key value → final.Settled key value
  settled : ∀ key value, given.GivesNext arguments key value → final.Settled key value
  only : ∀ key, final.has key = true →
    given.Offers key ∨ ∃ value, given.GivesNext arguments key value

theorem Leads.reads {given next final : Given} {text : String} {rest : List String}
    (leads : Leads given next fun key => Begins key (.ofString text))
    (reads : Reads next rest final) : Reads given (text :: rest) final where
  kept key value bears := reads.kept key value (leads.kept key value bears)
  settled key value gives := by
    obtain begins | later := leads.givesNext.mp gives
    · exact reads.kept key value (leads.taken key value begins)
    · exact reads.settled key value later
  only key had := by
    simp only [leads.givesNext]
    obtain offers | ⟨value, later⟩ := reads.only key had
    · obtain before | ⟨value, begins⟩ := leads.only key offers
      · exact .inl before
      · exact .inr ⟨value, .inl begins⟩
    · exact .inr ⟨value, .inr later⟩

theorem Settles.reads {given final : Given} {arguments : List String}
    (settles : Settles given final) (none : ∀ key value, ¬ Gives arguments key value) :
    Reads given arguments final where
  kept := settles.settled
  settled key value gives := by
    obtain ⟨awaiting, -⟩ | gives := gives
    · exact absurd awaiting (settles.free key)
    · exact absurd gives (none key value)
  only key had := .inl (settles.only key had)

theorem reads_of_plain {given final : Given} {text : String} {rest : List String} {key : Key}
    (isPlain : Argument.ofString text = .plain text) (awaiting : given.pending = .awaiting key)
    (reads : Reads { given with pending := .holding key text } rest final) :
    Reads given (text :: rest) final := by
  have gives {other : Key} {value : String} :
      Gives (text :: rest) other value ↔ Gives rest other value := by
    simp [gives_cons, isPlain, not_begins_plain]
  have given_iff {other : Key} {value : String} : given.GivesNext (text :: rest) other value ↔
      (other = key ∧ value = text) ∨ Gives rest other value := by
    simp [GivesNext, gives, awaiting, eq_comm]
  -- only what is pending changes, and it goes from awaiting the value to holding it
  refine ⟨fun other value bears => ?_, fun other value gives => ?_, fun other had => ?_⟩
  · refine reads.kept other value (.inl ?_)
    have before := bears.resolve_right (by simp [awaiting])
    cases other <;> exact before
  · obtain ⟨rfl, rfl⟩ | later := given_iff.mp gives
    · exact reads.kept _ _ (.inr rfl)
    · exact reads.settled other value (.inr later)
  · simp only [given_iff]
    obtain (before | ⟨value, holding⟩) | ⟨value, ⟨awaits, -⟩ | later⟩ := reads.only other had
    · exact .inl (.inl (by cases other <;> exact before))
    · obtain ⟨rfl, rfl⟩ := Pending.holding.inj holding
      exact .inr ⟨text, .inl ⟨rfl, rfl⟩⟩
    · cases awaits
    · exact .inr ⟨value, .inr later⟩

theorem reads_of_takeAll {verb : Verb} {arguments : List String} :
    ∀ {given final : Given}, given.takeAll verb arguments = .ok final →
      Reads given arguments final := by
  induction arguments with
  | nil =>
    intro given final took
    exact (settles_of_settle took).reads fun _ _ => gives_nil
  | cons text rest ih =>
    intro given final took
    unfold takeAll at took
    split at took
    case h_1 isEnd =>
      split at took
      case isTrue last =>
        obtain rfl := List.isEmpty_iff.mp last
        refine (settles_of_settle took).reads fun key value => ?_
        simp [gives_cons, isEnd, not_begins_end, gives_nil]
      case isFalse => cases took
    case h_2 name value isNamed =>
      obtain ⟨next, takes, took⟩ := bind_eq_ok.mp took
      have leads := leads_of_takeName takes
      rw [← isNamed] at leads
      exact leads.reads (ih took)
    case h_3 cluster isLetters =>
      obtain ⟨next, takes, took⟩ := bind_eq_ok.mp took
      have leads := leads_of_takeLetters (ofString_letters isLetters) takes
      rw [← isLetters] at leads
      exact leads.reads (ih took)
    case h_4 value isPlain =>
      split at took
      case h_1 key awaiting =>
        obtain rfl := ofString_plain isPlain
        exact reads_of_plain isPlain awaiting (ih took)
      case h_2 => cases took

end Given

/-! ## Arguments in front of the command -/

theorem frontName_ok {verbosity next : Option Nat} {name : String} {value : Option String}
    (front : frontName verbosity name value = .ok next) : name = "verbose" := by
  unfold frontName at front
  split at front
  case isTrue known =>
    split at front
    · cases front
    split at front
    · cases front
    case isFalse notHelp =>
    split at front
    · cases front
    case isFalse notVersion => exact known.resolve_right (not_or_intro notHelp notVersion)
  case isFalse => cases front

theorem frontLetters_ok {cluster : List Char} :
    ∀ {verbosity next : Option Nat}, frontLetters verbosity cluster = .ok next →
      ∀ key value, ¬ Begins key (.letters cluster) value := by
  induction cluster with
  | nil => exact fun _ _ _ => not_begins_nothing
  | cons letter rest ih =>
    intro verbosity next front key value
    unfold frontLetters at front
    split at front
    case h_2 later same =>
      obtain ⟨rfl, rfl⟩ := List.cons.inj same
      rw [begins_louder]
      exact ih front key value
    case h_1 same => cases same
    all_goals cases front

theorem ofString_name {text : String} {verb : Verb} (named : Verb.ofName? text = some verb) :
    Argument.ofString text = .plain text := by
  unfold Verb.ofName? at named
  have same := List.find?_some named
  obtain rfl : verb.name = text := beq_iff_eq.mp same
  cases verb <;> decide

theorem readCommand_of_readFrom {arguments : List String} {invocation : Invocation} :
    ∀ {verbosity : Option Nat}, readFrom verbosity arguments = .ok invocation →
      ∃ verb louder rest, readCommand verb louder rest = .ok invocation ∧
        ∀ key value, Gives arguments key value ↔ Gives rest key value := by
  induction arguments with
  | nil => exact nofun
  | cons text rest ih =>
    intro verbosity understood
    -- what stands in front of the command begins no option
    have skip (none : ∀ key value, ¬ Begins key (.ofString text) value) (key : Key)
        (value : String) : Gives (text :: rest) key value ↔ Gives rest key value := by
      simp [gives_cons, none]
    have later {next : Option Nat} (none : ∀ key value, ¬ Begins key (.ofString text) value)
        (understood : readFrom next rest = .ok invocation) :
        ∃ verb louder after, readCommand verb louder after = .ok invocation ∧
          ∀ key value, Gives (text :: rest) key value ↔ Gives after key value := by
      obtain ⟨verb, louder, after, read, same⟩ := ih understood
      exact ⟨verb, louder, after, read,
        fun key value => (skip none key value).trans (same key value)⟩
    unfold readFrom at understood
    split at understood
    case h_1 verb named =>
      refine ⟨verb, verbosity, rest, understood, skip fun key value => ?_⟩
      rw [ofString_name named]
      exact not_begins_plain
    split at understood
    · cases understood
    split at understood
    · cases understood
    case h_2 name value isNamed =>
      obtain ⟨next, front, understood⟩ := bind_eq_ok.mp understood
      refine later (fun key other => ?_) understood
      rw [isNamed, begins_named, frontName_ok front]
      exact fun same => key.name_ne_flag .verbose same.1
    case h_3 cluster isLetters =>
      obtain ⟨next, front, understood⟩ := bind_eq_ok.mp understood
      refine later (fun key other => ?_) understood
      rw [isLetters]
      exact frontLetters_ok front key other
    · cases understood

/-! ## Erasing -/

/-- What the options of the command that erases come to. -/
structure AsksToErase (arguments : List String) (programmer : String) (address : UInt32)
    (length : Option UInt32) : Prop where
  onProgrammer : Gives arguments .programmer programmer
  atAddress : ∀ value, Gives arguments .address value → readNumber value = .ok address
  noAddress : (∀ value, ¬ Gives arguments .address value) → address = 0
  ofLength : ∀ value, Gives arguments .length value →
    ∃ number, readNumber value = .ok number ∧ length = some number
  noLength : (∀ value, ¬ Gives arguments .length value) → length = none

theorem AsksToErase.not_gives_length {arguments : List String} {programmer : String}
    {address : UInt32} (asks : AsksToErase arguments programmer address none) (value : String) :
    ¬ Gives arguments .length value := by
  intro gives
  obtain ⟨number, -, ⟨⟩⟩ := asks.ofLength value gives

theorem demand_eq_ok {α : Type} {given : Option α} {value : α} :
    demand given = .ok value ↔ given = some value := by
  cases given <;> simp [demand]

theorem commandOf_erase {verb : Verb} {given : Given} {programmer : String} {address : UInt32}
    {length : Option UInt32}
    (read : commandOf verb given = .ok (.erase programmer address length)) :
    given.programmer = some programmer ∧ given.address.getD 0 = address ∧
      given.length = length := by
  cases verb with
  | erase => simpa [commandOf, bind_eq_ok, demand_eq_ok, pure, Except.pure] using read
  | _ => simp [commandOf, bind_eq_ok, demand_eq_ok, pure, Except.pure] at read

theorem asksToErase_of_ofArguments {arguments : List String} {verbosity : Nat}
    {programmer : String} {address : UInt32} {length : Option UInt32}
    (understood : Invocation.ofArguments arguments =
      .ok ⟨verbosity, .erase programmer address length⟩) :
    AsksToErase arguments programmer address length := by
  obtain ⟨verb, louder, rest, read, same⟩ := readCommand_of_readFrom understood
  obtain ⟨given, took, read⟩ := bind_eq_ok.mp read
  obtain ⟨command, asked, read⟩ := bind_eq_ok.mp read
  cases read
  obtain ⟨named, rfl, rfl⟩ := commandOf_erase asked
  have reads := Given.reads_of_takeAll took
  have settled {key : Key} {value : String} (gives : Gives arguments key value) :
      given.Settled key value :=
    reads.settled key value (.inr ((same key value).mp gives))
  have only (key : Key) (had : given.has key = true) : ∃ value, Gives arguments key value := by
    obtain offers | ⟨value, next⟩ := reads.only key had
    · cases key <;> simp [Given.Offers, Given.has] at offers
    · exact ⟨value, (same key value).mpr (next.resolve_left (by simp))⟩
  refine ⟨?_, fun value gives => ?_, fun none => ?_, fun value gives => ?_, fun none => ?_⟩
  · obtain ⟨value, gives⟩ := only .programmer (by simp [Given.has, named])
    have same : given.programmer = some value := settled gives
    rwa [Option.some.inj (named.symm.trans same)]
  · obtain ⟨number, read, given⟩ := settled gives
    simpa [given] using read
  · have missing : given.address = .none := by
      by_contra has
      obtain ⟨value, gives⟩ := only .address (Option.isSome_iff_ne_none.mpr has)
      exact none value gives
    simp [missing]
  · exact settled gives
  · by_contra has
    obtain ⟨value, gives⟩ := only .length (Option.isSome_iff_ne_none.mpr has)
    exact none value gives

end SpiProgrammer.CommandLine
