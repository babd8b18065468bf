import SpiProgrammer.Dialogue.Run
import SpiProgrammer.Programmer.Connection
import SpiProgrammer.Proofs.Programmer.Grammar
import SpiProgrammer.Proofs.Text.Numerals

/-! # What a description configures

The options are taken in one after the other, but what they come to is said of all of them at once:
which keys they have, which values, and what each value settles.  So it does not depend on their
order.

Main statement: opening a programmer goes to the bus exactly for the descriptions that the grammar
has and whose options settle something, and then asks for what they settle; any other description is
refused with one failure, whatever there is on the bus, which is not asked for anything. -/
set_option autoImplicit false

namespace SpiProgrammer

namespace Session

/-! ## Options -/

/-- The value is a decimal numeral of a frequency of sixteen bits that is not zero. -/
def IsFrequency (value : String) (frequency : Nat) : Prop :=
  Text.IsDecimal value.toList frequency ∧ 0 < frequency ∧ frequency ≤ 65535

theorem readFrequency_eq_ok {value : String} {frequency : Nat} :
    readFrequency value = .ok frequency ↔ IsFrequency value frequency := by
  have reads (number : Nat) : Text.readNumeral 10 0x10000 value.toList = .ok number ↔
      Text.IsDecimal value.toList number ∧ number < 0x10000 := by
    rw [Text.readNumeral_eq_ok (by decide), Text.denotes_ten]
  unfold readFrequency IsFrequency
  constructor
  · intro same
    cases numeral : Text.readNumeral 10 0x10000 value.toList with
    | error fault =>
      rw [numeral] at same
      cases same
    | ok number =>
      obtain ⟨decimal, within⟩ := (reads number).mp numeral
      simp only [numeral, checkFrequency] at same
      split at same
      · cases same
      · obtain rfl : number = frequency := Except.ok.inj same
        exact ⟨decimal, by omega, by omega⟩
  · rintro ⟨decimal, positive, within⟩
    have numeral := (reads frequency).mpr ⟨decimal, by omega⟩
    simp only [numeral, checkFrequency, if_neg (Nat.ne_of_gt positive)]
    rfl

/-- The value picks the probe with this serial number. -/
def IsSerial (value : String) (serial : Option String) : Prop :=
  value ≠ "" ∧ serial = some value

theorem accept_eq_ok {options next : Options} {key value : String} :
    options.accept key value = .ok next ↔
      (key = "serial" ∧ ∃ serial, IsSerial value serial ∧ next = { options with serial }) ∨
        (key = "spispeed" ∧ ∃ frequency, IsFrequency value frequency ∧
          next = { options with frequency }) := by
  unfold Options.accept
  by_cases isSerial : key = "serial"
  · subst isSerial
    by_cases empty : value = "" <;> simp [IsSerial, empty, eq_comm]
  by_cases isSpeed : key = "spispeed"
  · subst isSpeed
    rw [if_neg isSerial, if_pos rfl]
    cases reads : readFrequency value with
    | error fault =>
      have none (frequency : Nat) : ¬ IsFrequency value frequency := fun is => by
        cases reads.symm.trans (readFrequency_eq_ok.mpr is)
      simp [none, Except.map]
    | ok number =>
      have only (frequency : Nat) : IsFrequency value frequency ↔ number = frequency := by
        rw [← readFrequency_eq_ok, reads, Except.ok.injEq]
      simp [only, Except.map, eq_comm]
  · rw [if_neg isSerial, if_neg isSpeed]
    simp [isSerial, isSpeed]

/-- What one key settles: whatever value is given for it means what it then is, and it stays as it
was if none is given. -/
structure Turns {α : Type} (key : String) (Means : String → α → Prop)
    (given : List (String × String)) (before after : α) : Prop where
  means : ∀ value, (key, value) ∈ given → Means value after
  stays : key ∉ given.map Prod.fst → after = before

section Turns

variable {α : Type} {key : String} {Means : String → α → Prop} {given : List (String × String)}
  {before after : α}

theorem turns_of_absent (absent : key ∉ given.map Prod.fst) :
    Turns key Means given before after ↔ after = before :=
  ⟨fun turns => turns.stays absent,
    fun same => ⟨fun _ member => absurd (List.mem_map_of_mem member) absent, fun _ => same⟩⟩

theorem turns_cons_self {value : String} (absent : key ∉ given.map Prod.fst) :
    Turns key Means ((key, value) :: given) before after ↔ Means value after := by
  refine ⟨fun turns => turns.means value List.mem_cons_self,
    fun means => ⟨fun other member => ?_, fun none => absurd List.mem_cons_self none⟩⟩
  rcases List.mem_cons.mp member with same | later
  · cases same
    exact means
  · exact absurd (List.mem_map_of_mem later) absent

theorem turns_cons_other {name value : String} (other : key ≠ name) :
    Turns key Means ((name, value) :: given) before after ↔ Turns key Means given before after := by
  have same (value' : String) : (key, value') ∈ (name, value) :: given ↔ (key, value') ∈ given :=
    List.mem_cons.trans (or_iff_right fun equal => other (Prod.mk.inj equal).1)
  have keys : key ∈ ((name, value) :: given).map Prod.fst ↔ key ∈ given.map Prod.fst :=
    List.mem_cons.trans (or_iff_right other)
  exact ⟨fun turns => ⟨fun value' member => turns.means value' ((same value').mpr member),
      fun absent => turns.stays (mt keys.mp absent)⟩,
    fun turns => ⟨fun value' member => turns.means value' ((same value').mp member),
      fun absent => turns.stays (mt keys.mpr absent)⟩⟩

end Turns

/-- What the options settle, all together: no key is given twice, and there are none but two, each
of which settles its part. -/
structure Settles (start : Options) (given : List (String × String)) (options : Options) :
    Prop where
  distinct : (given.map Prod.fst).Nodup
  known : ∀ key ∈ given.map Prod.fst, key = "serial" ∨ key = "spispeed"
  serial : Turns "serial" IsSerial given start.serial options.serial
  frequency : Turns "spispeed" IsFrequency given start.frequency options.frequency

theorem Turns.perm {α : Type} {key : String} {Means : String → α → Prop}
    {given other : List (String × String)} {before after : α}
    (turns : Turns key Means given before after) (same : given.Perm other) :
    Turns key Means other before after where
  means value member := turns.means value (same.mem_iff.mpr member)
  stays absent := turns.stays fun member => absent ((same.map Prod.fst).mem_iff.mp member)

theorem Settles.perm {start options : Options} {given other : List (String × String)}
    (settles : Settles start given options) (same : given.Perm other) :
    Settles start other options where
  distinct := (same.map Prod.fst).nodup_iff.mp settles.distinct
  known key member := settles.known key ((same.map Prod.fst).mem_iff.mpr member)
  serial := settles.serial.perm same
  frequency := settles.frequency.perm same

theorem settles_nil {start options : Options} : Settles start [] options ↔ options = start := by
  constructor
  · intro settles
    rcases options with ⟨serial, frequency⟩
    rcases start with ⟨serial', frequency'⟩
    have sameSerial : serial = serial' := settles.serial.stays List.not_mem_nil
    have sameFrequency : frequency = frequency' := settles.frequency.stays List.not_mem_nil
    rw [sameSerial, sameFrequency]
  · rintro rfl
    exact ⟨List.nodup_nil, nofun, ⟨nofun, fun _ => rfl⟩, ⟨nofun, fun _ => rfl⟩⟩

theorem settles_cons {start options : Options} {key value : String}
    {given : List (String × String)} :
    Settles start ((key, value) :: given) options ↔
      key ∉ given.map Prod.fst ∧
        ∃ next, start.accept key value = .ok next ∧ Settles next given options := by
  simp only [accept_eq_ok]
  constructor
  · intro settles
    obtain ⟨absent, distinct⟩ := List.nodup_cons.mp settles.distinct
    obtain ⟨isKnown, known⟩ := List.forall_mem_cons.mp settles.known
    refine ⟨absent, ?_⟩
    obtain rfl | rfl : key = "serial" ∨ key = "spispeed" := isKnown
    · have means := (turns_cons_self absent).mp settles.serial
      exact ⟨{ start with serial := options.serial }, .inl ⟨rfl, options.serial, means, rfl⟩,
        distinct, known, (turns_of_absent absent).mpr rfl,
        (turns_cons_other (by decide)).mp settles.frequency⟩
    · have means := (turns_cons_self absent).mp settles.frequency
      exact ⟨{ start with frequency := options.frequency },
        .inr ⟨rfl, options.frequency, means, rfl⟩, distinct, known,
        (turns_cons_other (by decide)).mp settles.serial, (turns_of_absent absent).mpr rfl⟩
  · rintro ⟨absent, next, accepted, settles⟩
    have distinct := List.nodup_cons.mpr ⟨absent, settles.distinct⟩
    rcases accepted with ⟨rfl, serial, means, rfl⟩ | ⟨rfl, frequency, means, rfl⟩
    · have same : options.serial = serial := (turns_of_absent absent).mp settles.serial
      exact ⟨distinct, List.forall_mem_cons.mpr ⟨.inl rfl, settles.known⟩,
        (turns_cons_self absent).mpr (same ▸ means),
        (turns_cons_other (by decide)).mpr settles.frequency⟩
    · have same : options.frequency = frequency := (turns_of_absent absent).mp settles.frequency
      exact ⟨distinct, List.forall_mem_cons.mpr ⟨.inr rfl, settles.known⟩,
        (turns_cons_other (by decide)).mpr settles.serial,
        (turns_cons_self absent).mpr (same ▸ means)⟩

/-- Options are taken in one after the other if none has a key that was seen before, and together
they settle what they come to. -/
theorem acceptAll_eq_ok {given : List (String × String)} {options : Options} :
    ∀ {start : Options} {seen : List String},
      start.acceptAll seen given = .ok options ↔
        (∀ key ∈ given.map Prod.fst, key ∉ seen) ∧ Settles start given options := by
  induction given with
  | nil =>
    intro start seen
    rw [settles_nil]
    exact ⟨fun same => ⟨nofun, (Except.ok.inj same).symm⟩, fun same => same.2 ▸ rfl⟩
  | cons entry given ih =>
    obtain ⟨key, value⟩ := entry
    intro start seen
    have first : start.acceptAll seen ((key, value) :: given) = .ok options ↔
        key ∉ seen ∧ ∃ next, start.accept key value = .ok next ∧
          next.acceptAll (key :: seen) given = .ok options := by
      rw [Options.acceptAll]
      by_cases again : key ∈ seen
      · simp [again]
      · rw [if_neg again, bind_eq_ok]
        exact (and_iff_right again).symm
    rw [first, settles_cons]
    constructor
    · rintro ⟨new, next, accepted, rest⟩
      obtain ⟨apart, settles⟩ := ih.mp rest
      refine ⟨List.forall_mem_cons.mpr ⟨new, fun other member seenBefore =>
        apart other member (List.mem_cons_of_mem key seenBefore)⟩, ?_, next, accepted, settles⟩
      exact fun member => apart key member List.mem_cons_self
    · rintro ⟨apart, absent, next, accepted, settles⟩
      obtain ⟨new, apart⟩ := List.forall_mem_cons.mp apart
      refine ⟨new, next, accepted, ih.mpr ⟨fun other member seenBefore => ?_, settles⟩⟩
      rcases List.mem_cons.mp seenBefore with rfl | seenBefore
      · exact absent member
      · exact apart other member seenBefore

theorem ofList_eq_ok {given : List (String × String)} {options : Options} :
    Options.ofList given = .ok options ↔ Settles ⟨none, 1000⟩ given options := by
  rw [Options.ofList, acceptAll_eq_ok]
  exact and_iff_right fun _ _ => List.not_mem_nil

end Session

namespace Programmer

/-! ## Descriptions -/

/-- The programmer can be asked for by this name. -/
def IsName (name : List Char) : Prop :=
  name = "stlinkv3".toList ∨ name = "stlinkv3_spi".toList

theorem find?_isSome {name : String} : (find? name).isSome ↔ IsName name.toList := by
  rw [find?, List.find?_isSome, IsName, String.toList_inj, String.toList_inj]
  simp [available, @eq_comm _ "stlinkv3" name]

/-- The description asks for these options: it gives a name that there is, and its options settle
them, starting from any probe and a frequency of 1000 kHz. -/
def Describes (text : String) (options : Session.Options) : Prop :=
  ∃ name given, Spells text.toList name given ∧ IsName name ∧
    Session.Settles { serial := none, frequency := 1000 } given options

theorem configuration_eq_ok {text : String} {options : Session.Options} :
    configuration text = .ok options ↔ Describes text options := by
  unfold configuration Describes
  rw [bind_eq_ok]
  simp only [mapError_eq_ok, ofString_eq_ok]
  constructor
  · rintro ⟨description, ⟨-, spells⟩, configured⟩
    split at configured
    · cases configured
    · rename_i found
      have settles := Session.ofList_eq_ok.mp (mapError_eq_ok.mp configured)
      exact ⟨_, _, spells, find?_isSome.mp (by rw [found]; rfl), settles⟩
  · rintro ⟨name, given, spells, isName, settles⟩
    have same : (String.ofList name).toList = name := String.toList_ofList
    have some : String.ofList name ≠ "" := by
      rintro none
      rw [← same, none] at isName
      rcases isName with empty | empty <;> cases empty
    obtain ⟨entry, found⟩ := Option.isSome_iff_exists.mp (find?_isSome.mpr (same.symm ▸ isName))
    refine ⟨⟨String.ofList name, given⟩, ⟨some, same.symm ▸ spells⟩, ?_⟩
    rw [found]
    exact mapError_eq_ok.mpr (Session.ofList_eq_ok.mpr settles)

-- blanks around keys and values do not count, nor do a sign and zeros in front of a number, and the
-- marks that part keys from values and names from options may stand in a value
example : configuration "stlinkv3: spispeed = +08000 ,serial=a:b=c" =
    .ok { serial := some "a:b=c", frequency := 8000 } := by cbv

theorem Describes.frequency_pos {text : String} {options : Session.Options}
    (describes : Describes text options) : 0 < options.frequency := by
  obtain ⟨name, given, -, -, settles⟩ := describes
  by_cases isGiven : "spispeed" ∈ given.map Prod.fst
  · obtain ⟨⟨key, value⟩, member, rfl⟩ := List.mem_map.mp isGiven
    exact (settles.frequency.means value member).2.1
  · rw [settles.frequency.stays isGiven]
    decide

theorem Describes.perm {text other : String} {options : Session.Options} {name : List Char}
    {given given' : List (String × String)} (spells : Spells text.toList name given)
    (spells' : Spells other.toList name given') (same : given.Perm given')
    (describes : Describes text options) : Describes other options := by
  obtain ⟨name', given'', spelled, isName, settles⟩ := describes
  obtain ⟨rfl, rfl⟩ := spelled.unique spells
  exact ⟨_, _, spells', isName, settles.perm same⟩

/-! ## Opening -/

section Opening

variable {text : String} {options : Session.Options}

theorem openDescribed_ok (configured : configuration text = .ok options) :
    (openDescribed text).run.run = (connect options).run.run >>= fun outcome =>
      pure (outcome.map fun connected => connected.mapError Failure.bridge) := by
  unfold openDescribed
  rw [configured]
  show ((connect options).run >>= fun outcome => pure (outcome.mapError Failure.bridge) :
    OptionT (Dialogue Usb.Bus) _).run = _
  rw [OptionT.run_bind]
  refine bind_congr fun outcome => ?_
  cases outcome <;> rfl

theorem openDescribed_error {failure : Failure} (refused : configuration text = .error failure) :
    (openDescribed text).run.run = pure (some (.error failure)) := by
  unfold openDescribed
  rw [refused]
  rfl

theorem connect_lists (positive : 0 < options.frequency) :
    ∃ next, (connect options).run.run = .ask Usb.BusRequest.list next := by
  unfold connect Session.checkFrequency
  rw [if_neg (Nat.ne_of_gt positive)]
  exact ⟨_, rfl⟩

end Opening

/-- A description is understood before the bus is asked for anything.  It asks for certain options
exactly if the grammar has it, it gives a name that there is, and its options, in whatever order,
settle these.  The programmer is then opened as with these options, beginning with a look at the
bus.  Any other description is refused for a reason that lies in it alone: the bus is not asked, and
nothing is said. -/
theorem openDescribed_by_description (text : String) :
    (∀ options, configuration text = .ok options ↔ Describes text options) ∧
    (∀ other name given given', Spells text.toList name given → Spells other.toList name given' →
      given.Perm given' → ∀ options, Describes text options ↔ Describes other options) ∧
    (∀ options, Describes text options → ∀ (σ : Type) (machine : Machine σ Usb.Bus) (state : σ),
      let ran := (openDescribed text).run.run.run machine state
      let connected := (connect options).run.run.run machine state
      ran = ⟨connected.value.map fun outcome => outcome.mapError Failure.bridge, connected.state,
        connected.events, connected.notices⟩ ∧
      ∃ listed events, ran.events = ⟨.list, listed⟩ :: events) ∧
    ((∀ options, ¬ Describes text options) → ∃ failure,
      ∀ (σ : Type) (machine : Machine σ Usb.Bus) (state : σ),
        (openDescribed text).run.run.run machine state = ⟨some (.error failure), state, [], []⟩) := by
  refine ⟨fun _ => configuration_eq_ok, ?_, fun options describes σ machine state => ?_, ?_⟩
  · intro other name given given' spells spells' same options
    exact ⟨Describes.perm spells spells' same, Describes.perm spells' spells same.symm⟩
  · have opened := openDescribed_ok (configuration_eq_ok.mpr describes)
    obtain ⟨next, lists⟩ := connect_lists describes.frequency_pos
    have ran : (openDescribed text).run.run.run machine state =
        let connected := (connect options).run.run.run machine state
        ⟨connected.value.map fun outcome => outcome.mapError Failure.bridge, connected.state,
          connected.events, connected.notices⟩ := by
      rw [opened, Dialogue.run_bind]
      simp [Dialogue.pure_eq, Dialogue.run_done]
    refine ⟨ran, ?_⟩
    rw [ran, lists, Dialogue.run_ask]
    exact ⟨_, _, rfl⟩
  · intro none
    cases configured : configuration text with
    | ok options => exact absurd (configuration_eq_ok.mp configured) (none options)
    | error failure =>
      refine ⟨failure, fun σ machine state => ?_⟩
      rw [openDescribed_error configured]
      rfl

end Programmer

end SpiProgrammer
