import SpiProgrammer.Proofs.Bridge.Negotiation
import SpiProgrammer.Proofs.Bridge.Verdict
import SpiProgrammer.Proofs.Words

/-! # Opening a session

A session is opened in three steps: the version is asked for and must not be too old, the input
clock is asked for, and the serial bus is set up with the prescaler that the answer settles.  The
first step that fails is the last one taken, and its failure is that of the opening.

Main statement: this is what happens on every link, an open session holds what the bridge has
answered, and nothing is set up on a bridge that has not reported a version new enough. -/
set_option autoImplicit false

namespace SpiProgrammer.Session

open Bridge

/-! ## The three steps -/

/-- The version of a bridge that is too old, as a failure. -/
def firmwareFailure? (reply : Bytes) : Option Error :=
  let found := reply.getD 4 0
  if found < oldestFirmware then some (.firmwareTooOld found oldestFirmware) else none

def versionStep : Step where
  transfer := .frame .getVersion
  answer := some 12
  failure? := firmwareFailure?

def clockStep : Step :=
  questionStep .getClock 12

def configureStep (prescaler : Prescaler) : Step :=
  questionStep (.configure (.flash prescaler)) 2

def openingSteps (prescaler : Prescaler) : List Step :=
  [versionStep, clockStep, configureStep prescaler]

/-- The clock that is settled by an answer about the input clock. -/
def settledBy (frequency : Nat) (reply : Bytes) : Clock :=
  .negotiate (Bytes.toNatLE ((reply.drop 4).take 4)) frequency

theorem toNat_inputClock {reply : Bytes} (exact : reply.length = 12) :
    (inputClockForm.meaning reply).toNat = Bytes.toNatLE ((reply.drop 4).take 4) := by
  match reply, exact with
  | [_, _, _, _, b₄, b₅, b₆, b₇, _, _, _, _], _ => exact Bytes.toNat_toUInt32LE b₄ b₅ b₆ b₇

theorem accepts_versionStep {reply : Bytes} :
    versionStep.Accepts reply ↔ reply.length = 12 ∧ 3 ≤ (reply.getD 4 0).toNat := by
  show reply.length = 12 ∧ firmwareFailure? reply = none ↔ _
  refine and_congr_right fun _ => ?_
  simp [firmwareFailure?, oldestFirmware, UInt8.le_iff_toNat_le]

theorem accepts_clockStep {reply : Bytes} : clockStep.Accepts reply ↔ reply.length = 12 := by
  simp [Step.Accepts, clockStep, questionStep]

theorem accepts_configureStep {prescaler : Prescaler} {reply : Bytes} :
    (configureStep prescaler).Accepts reply ↔ reply.length = 2 := by
  simp [Step.Accepts, configureStep, questionStep]

section Goes

variable {σ : Type} (machine : Machine σ Link) (state : σ)

theorem checkVersion_goes :
    let asked := checkVersion.run.course machine state
    ∃ outcome, versionStep.Goes asked.events outcome ∧
      asked.value = outcome.map Version.form.meaning := by
  refine versionStep.looked_goes machine rfl
    (query_goes machine .getVersion Version.form state) fun reply next => ?_
  have byte : (Version.form.meaning reply).bridge = reply.getD 4 0 := rfl
  dsimp only
  rw [byte]
  by_cases old : reply.getD 4 0 < oldestFirmware
  · have tells : versionStep.failure? reply =
        some (.firmwareTooOld (reply.getD 4 0) oldestFirmware) := if_pos old
    rw [if_pos old, Step.judge, tells]
    rfl
  · have well : versionStep.failure? reply = none := if_neg old
    rw [if_neg old, Step.judge, well]
    rfl

theorem inputClock_goes :
    let asked := inputClock.run.course machine state
    ∃ outcome, clockStep.Goes asked.events outcome ∧
      asked.value = outcome.map fun reply => (inputClockForm.meaning reply).toNat :=
  clockStep.looked_goes machine rfl (query_goes machine .getClock inputClockForm state)
    fun _ _ => rfl

theorem settleClock_goes {frequency : Nat} (moves : 0 < frequency) :
    let asked := (settleClock frequency).run.course machine state
    ∃ outcome, clockStep.Goes asked.events outcome ∧
      asked.value = outcome.map (settledBy frequency) := by
  obtain ⟨outcome, goes, ends⟩ := inputClock_goes machine state
  rcases asked : inputClock.run.run machine state with ⟨value, next, events, notices⟩
  simp only [Dialogue.course, asked] at goes ends ⊢
  subst ends
  refine ⟨outcome, ?_⟩
  cases outcome with
  | error error =>
    rw [run_settleClock_error machine state moves asked]
    exact ⟨goes, rfl⟩
  | ok reply =>
    rw [run_settleClock_ok machine state moves asked]
    have exact := accepts_clockStep.mp (goes.accepts rfl).1
    refine ⟨goes, congrArg Except.ok ?_⟩
    simp only [settledBy, toNat_inputClock exact]

theorem configure_goes (prescaler : Prescaler) :
    let asked := (configure (.flash prescaler)).run.course machine state
    ∃ outcome, (configureStep prescaler).Goes asked.events outcome ∧
      asked.value = outcome.map fun _ => () :=
  query_goes machine (.configure (.flash prescaler)) acknowledgement state

end Goes

/-! ## What opening comes to -/

/-- The events of opening a session and how it ends. -/
inductive Opens (frequency : Nat) : List Link.Event → Except Error Session → Prop
  | unversioned {asking : List Link.Event} (error : Error)
    (fails : versionStep.Goes asking (.error error)) : Opens frequency asking (.error error)
  | unclocked {asking clocking : List Link.Event} {version : Bytes} (error : Error)
    (versioned : versionStep.Goes asking (.ok version))
    (fails : clockStep.Goes clocking (.error error)) :
    Opens frequency (asking ++ clocking) (.error error)
  | configured {asking clocking configuring : List Link.Event} {version clock : Bytes}
    {outcome : Except Error Bytes} (versioned : versionStep.Goes asking (.ok version))
    (clocked : clockStep.Goes clocking (.ok clock))
    (goes : (configureStep (settledBy frequency clock).prescaler).Goes configuring outcome) :
    Opens frequency (asking ++ (clocking ++ configuring))
      (outcome.map fun _ => ⟨Version.form.meaning version, settledBy frequency clock⟩)

theorem start_of_moves {frequency : Nat} (moves : 0 < frequency) :
    start frequency = do
      let version ← checkVersion
      let clock ← settleClock frequency
      configure (.flash clock.prescaler)
      note .info ("SCK frequency set to " ++ toString clock.frequency ++ " kHz")
      return { version, clock } := by
  unfold start
  rw [checkFrequency, if_neg (Nat.ne_of_gt moves)]
  rfl

theorem start_opens {σ : Type} (machine : Machine σ Link) (state : σ) {frequency : Nat}
    (moves : 0 < frequency) :
    let ran := (start frequency).run.course machine state
    Opens frequency ran.events ran.value := by
  rw [start_of_moves moves]
  rcases Step.first_goes machine _ (checkVersion_goes machine state) with
    ⟨asking, error, after, fails, ran⟩ | ⟨asking, version, asked, versioned, ran⟩ <;> rw [ran]
  · exact .unversioned error fails
  rcases Step.first_goes machine _ (settleClock_goes machine asked moves) with
    ⟨clocking, error, after, fails, ran⟩ | ⟨clocking, clock, settled, clocked, ran⟩ <;> rw [ran]
  · exact .unclocked error versioned fails
  rcases Step.first_goes machine _
    (configure_goes machine settled (settledBy frequency clock).prescaler) with
    ⟨configuring, error, after, fails, ran⟩ | ⟨configuring, reply, after, goes, ran⟩ <;> rw [ran]
  · exact .configured versioned clocked fails
  · have opens := Opens.configured versioned clocked goes
    rw [← List.append_nil configuring] at opens
    exact opens

/-! ## The main statement -/

/-- The transfers out of an opening that goes well. -/
def openingFrames (prescaler : Prescaler) : List Bytes :=
  [Command.getVersion.frame, Command.getClock.frame,
    (Command.configure (.flash prescaler)).frame]

/-- The first two questions with their answers. -/
def questioned (version clock : Bytes) : List Link.Event :=
  [frameSent .getVersion, answered 12 version, frameSent .getClock, answered 12 clock]

/-- The answers to the first two questions: the version is new enough, and the prescaler is
settled by the clock. -/
structure Answers (frequency : Nat) (version clock : Bytes) (prescaler : Prescaler) : Prop where
  version_length : version.length = 12
  recent : 3 ≤ (version.getD 4 0).toNat
  clock_length : clock.length = 12
  settled : prescaler = (settledBy frequency clock).prescaler

/-- A frame that sets the bus up stands right behind the answers that it needs, and is made with
the prescaler that they settle. -/
def ConfiguredAfter (frequency : Nat) (prescaler : Prescaler) (events : List Link.Event) : Prop :=
  ∀ before settings sent after,
    events = before ++ ⟨.send (Command.configure settings).frame, sent⟩ :: after →
      ∃ version clock, before = questioned version clock ∧
        Answers frequency version clock prescaler ∧
        (Command.configure settings).frame = (Command.configure (.flash prescaler)).frame

/-- Opening goes through its steps, and `outcome` is what they have received or the failure of
the first that fails. -/
structure Opening (frequency : Nat) (events : List Link.Event) (value : Except Error Session)
    (prescaler : Prescaler) (outcome : Except Error (List Bytes)) : Prop where
  steps : GoThrough (openingSteps prescaler) events outcome
  sent : sentBytes events <+: openingFrames prescaler
  failed_iff : ∀ error, value = .error error ↔ outcome = .error error
  opened_iff : (∃ session, value = .ok session) ↔ ∃ replies, outcome = .ok replies
  opened : ∀ session, value = .ok session → ∃ version clock acknowledged,
    events = questioned version clock ++
      [frameSent (.configure (.flash prescaler)), answered 2 acknowledged] ∧
    Answers frequency version clock prescaler ∧ acknowledged.length = 2 ∧
    session = ⟨Version.form.meaning version, settledBy frequency clock⟩
  configured : ConfiguredAfter frequency prescaler events

theorem sent_of_goThrough {prescaler : Prescaler} {events : List Link.Event}
    {outcome : Except Error (List Bytes)}
    (through : GoThrough (openingSteps prescaler) events outcome) :
    sentBytes events <+: openingFrames prescaler := by
  obtain ⟨taken, first, sent, -⟩ := through.sentBytes_eq
  rw [sent]
  exact first.map fun step => step.transfer.bytes

theorem opening_of_failure {frequency : Nat} {prescaler : Prescaler} {events : List Link.Event}
    {error : Error} (steps : GoThrough (openingSteps prescaler) events (.error error))
    (configured : ConfiguredAfter frequency prescaler events) :
    Opening frequency events (.error error) prescaler (.error error) where
  steps := steps
  sent := sent_of_goThrough steps
  failed_iff := fun other => by simp
  opened_iff := by simp
  opened := nofun
  configured := configured

theorem configure_ne {settings : Settings} {command : Command} (other : command.function ≠ 0x20) :
    (Command.configure settings).frame ≠ command.frame :=
  Command.frame_ne other.symm

section Configured

variable {frequency : Nat} {asking clocking configuring : List Link.Event}
  {version clock : Bytes} {prescaler : Prescaler}

theorem configuredAfter_version {outcome : Except Error Bytes}
    (goes : versionStep.Goes asking outcome) : ConfiguredAfter frequency prescaler asking := by
  intro before settings sent after split
  rw [← List.append_nil asking] at split
  obtain ⟨between, -, nothing⟩ := goes.before_other (configure_ne (by decide)) split
  simp at nothing

theorem configuredAfter_clock {outcome : Except Error Bytes}
    (versioned : versionStep.Goes asking (.ok version))
    (goes : clockStep.Goes clocking outcome) :
    ConfiguredAfter frequency prescaler (asking ++ clocking) := by
  intro before settings sent after split
  obtain ⟨behind, -, split⟩ := versioned.before_other (configure_ne (by decide)) split
  rw [← List.append_nil clocking] at split
  obtain ⟨between, -, nothing⟩ := goes.before_other (configure_ne (by decide)) split
  simp at nothing

section Questioned

variable (versioned : versionStep.Goes asking (.ok version))
  (clocked : clockStep.Goes clocking (.ok clock))
include versioned clocked

theorem questioned_of_goes : asking ++ clocking = questioned version clock := by
  rw [(versioned.accepts rfl).2, (clocked.accepts rfl).2]
  rfl

theorem answers_of_goes :
    Answers frequency version clock (settledBy frequency clock).prescaler := by
  obtain ⟨whole, recent⟩ := accepts_versionStep.mp (versioned.accepts rfl).1
  exact ⟨whole, recent, accepts_clockStep.mp (clocked.accepts rfl).1, rfl⟩

theorem configuredAfter_configure {outcome : Except Error Bytes}
    (goes : (configureStep (settledBy frequency clock).prescaler).Goes configuring outcome) :
    ConfiguredAfter frequency (settledBy frequency clock).prescaler
      (asking ++ (clocking ++ configuring)) := by
  intro before settings sent after split
  obtain ⟨behind, front, split⟩ := versioned.before_other (configure_ne (by decide)) split
  obtain ⟨last, middle, split⟩ := clocked.before_other (configure_ne (by decide)) split
  obtain ⟨nothing, same⟩ := goes.eq_nil_of_sends split
  rw [front, middle, nothing, List.append_nil]
  exact ⟨version, clock, questioned_of_goes versioned clocked, answers_of_goes versioned clocked,
    same⟩

end Questioned

end Configured

theorem Opens.opening {frequency : Nat} {events : List Link.Event} {value : Except Error Session}
    (opens : Opens frequency events value) :
    ∃ prescaler outcome, Opening frequency events value prescaler outcome := by
  cases opens with
  | unversioned error fails =>
    -- no prescaler is settled, so that any will do
    exact ⟨.slowest, .error error,
      opening_of_failure (.stops _ fails) (configuredAfter_version fails)⟩
  | unclocked error versioned fails =>
    exact ⟨.slowest, .error error,
      opening_of_failure (.goesOn versioned (.stops _ fails))
        (configuredAfter_clock versioned fails)⟩
  | @configured asking clocking configuring version clock outcome versioned clocked goes =>
    have behind := configuredAfter_configure versioned clocked goes
    cases outcome with
    | error error =>
      exact ⟨_, .error error,
        opening_of_failure (.goesOn versioned (.goesOn clocked (.stops _ goes))) behind⟩
    | ok acknowledged =>
      have steps : GoThrough (openingSteps (settledBy frequency clock).prescaler)
          (asking ++ (clocking ++ (configuring ++ []))) (.ok [version, clock, acknowledged]) :=
        .goesOn versioned (.goesOn clocked (.goesOn goes .done))
      rw [List.append_nil] at steps
      obtain ⟨accepted, told⟩ := goes.accepts rfl
      refine ⟨_, _, steps, sent_of_goThrough steps, ?_, ?_, ?_, behind⟩
      · simp [Except.map]
      · simp [Except.map]
      · intro session well
        refine ⟨version, clock, acknowledged, ?_, answers_of_goes versioned clocked,
          accepts_configureStep.mp accepted, (Except.ok.inj well).symm⟩
        rw [← List.append_assoc, questioned_of_goes versioned clocked, told]
        rfl

/-- Opening takes its three steps in order, up to the first that fails: nothing is set up on a
bridge that has not reported a version new enough, and no session is open that has not been set up
with the prescaler of its clock and acknowledged.  No frequency at all is refused before anything
is asked. -/
theorem session_opens_in_three_steps {σ : Type} (machine : Machine σ Link) (state : σ) :
    (start 0).run.run machine state =
        ⟨.error (.configuration "spispeed must be at least 1 kHz"), state, [], []⟩ ∧
      (∀ prescaler, (∀ frame ∈ openingFrames prescaler, frame.length = 16) ∧
        (Command.configure (.flash prescaler)).frame.getD 6 0 = .ofNat prescaler.code.val) ∧
      ∀ frequency, 0 < frequency →
        let ran := (start frequency).run.run machine state
        ∃ prescaler outcome, Opening frequency ran.events ran.value prescaler outcome := by
  refine ⟨rfl, fun prescaler => ⟨?_, rfl⟩, fun frequency moves => ?_⟩
  · simp [openingFrames, Command.frame_length, frameSize]
  · exact (start_opens machine state moves).opening

/-- The emulated bridge is set up with its clock divided by 64, and not at all if its firmware is
too old. -/
theorem session_opens_on_emulated_bridge :
    let ran := (start 1000).run.run Peer.machine (.emulated {})
    let old := (start 1000).run.run Peer.machine
      (.emulated { versionReply := [3, 0, 7, 1, 2, 0, 0, 0, 0x83, 4, 0x4F, 0x37] })
    0 < 1000 ∧ (∃ version clock acknowledged, ran.events = questioned version clock ++
        [frameSent (.configure (.flash ⟨5⟩)), answered 2 acknowledged]) ∧
      ∃ prescaler, GoThrough (openingSteps prescaler) old.events
        (.error (.firmwareTooOld 2 3)) := by
  have opens := session_opens_in_three_steps Peer.machine (.emulated {})
  have refuses := session_opens_in_three_steps Peer.machine
    (.emulated { versionReply := [3, 0, 7, 1, 2, 0, 0, 0, 0x83, 4, 0x4F, 0x37] })
  refine ⟨by decide, ?_, ?_⟩
  · obtain ⟨prescaler, outcome, opening⟩ := opens.2.2 1000 (by decide)
    obtain ⟨version, clock, acknowledged, events, answers, -, same⟩ := opening.opened _ rfl
    have settled : prescaler = ⟨5⟩ :=
      answers.settled.trans (congrArg (fun session => session.clock.prescaler) same).symm
    exact ⟨version, clock, acknowledged, settled ▸ events⟩
  · obtain ⟨prescaler, outcome, opening⟩ := refuses.2.2 1000 (by decide)
    have failed := (opening.failed_iff (.firmwareTooOld 2 3)).mp rfl
    exact ⟨prescaler, failed ▸ opening.steps⟩

end SpiProgrammer.Session
