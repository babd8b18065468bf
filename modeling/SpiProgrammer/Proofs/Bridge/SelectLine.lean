import SpiProgrammer.Proofs.Bridge.Emulated
import SpiProgrammer.Proofs.Bridge.Exits

/-! # The level of the select line after transactions

The bridge receives every frame that is reported sent, and may receive others; it drives the line to
the level that a frame asks for, and takes what follows the announcement of a long write for data.
Main statement: whatever arrives and whatever is answered, after a transaction the line is high
unless raising it could not be sent, or lowering it was answered with a failure, or the line was
low before and the transaction came to nothing.  As nothing is undone when the chip cannot be
selected, an emulated bridge that loses one answer is left with the line low. -/
set_option autoImplicit false

namespace SpiProgrammer.Bridge

def levelOf? (frame : Bytes) : Option SelectLevel :=
  if frame = (Command.setSelect .low).frame then some .low
  else if frame = (Command.setSelect .high).frame then some .high
  else none

def announcesMore (frame : Bytes) : Bool :=
  frame.getD 1 0 == 0x21 && decide (leadingMax < (wordAt frame 2).toNat)

structure SelectLine where
  /-- The levels to which the line has been driven, the latest first. -/
  driven : List SelectLevel := []
  /-- What is sent next is taken for data. -/
  continues : Bool := false

namespace SelectLine

/-- The line is high to begin with. -/
def level (line : SelectLine) : SelectLevel :=
  line.driven.headD .high

def hears (line : SelectLine) (frame : Bytes) : SelectLine :=
  { line with driven := (levelOf? frame).toList ++ line.driven }

/-- What becomes of the line in one transfer.  What is not reported sent may yet be received. -/
inductive Sees (line : SelectLine) : Link.Event → SelectLine → Prop
  | answer (length : Nat) (got : Except Error Bytes) : line.Sees ⟨.receive length, got⟩ line
  | data (bytes : Bytes) (sent : Except Error Nat) (continues : line.continues = true) :
    line.Sees ⟨.send bytes, sent⟩ { line with continues := false }
  | frame (bytes : Bytes) (expects : line.continues = false) :
    line.Sees ⟨.send bytes, .ok bytes.length⟩
      { line.hears bytes with continues := announcesMore bytes }
  | stray (bytes : Bytes) (sent : Except Error Nat) (expects : line.continues = false)
    (unsent : sent ≠ .ok bytes.length) : line.Sees ⟨.send bytes, sent⟩ (line.hears bytes)
  | lost (bytes : Bytes) (sent : Except Error Nat) (expects : line.continues = false)
    (unsent : sent ≠ .ok bytes.length) : line.Sees ⟨.send bytes, sent⟩ line

inductive Follows : SelectLine → List Link.Event → SelectLine → Prop
  | nil (line : SelectLine) : Follows line [] line
  | cons {line next last : SelectLine} {event : Link.Event} {events : List Link.Event}
    (sees : line.Sees event next) (follows : Follows next events last) :
    Follows line (event :: events) last

variable {line next last : SelectLine}

theorem Follows.append {events later : List Link.Event}
    (follows : Follows line (events ++ later) last) :
    ∃ middle, Follows line events middle ∧ Follows middle later last := by
  induction events generalizing line with
  | nil => exact ⟨line, .nil line, follows⟩
  | cons event events ih =>
    cases follows with
    | cons sees follows =>
      obtain ⟨middle, first, rest⟩ := ih follows
      exact ⟨middle, .cons sees first, rest⟩

/-- Whatever is sent and answered, there is a line that sees it. -/
theorem exists_follows (events : List Link.Event) : ∃ last, Follows line events last := by
  induction events generalizing line with
  | nil => exact ⟨line, .nil line⟩
  | cons event events ih =>
    obtain ⟨next, sees⟩ : ∃ next, line.Sees event next := by
      rcases event with ⟨bytes | length, reply⟩
      · cases expects : line.continues with
        | true => exact ⟨_, .data bytes reply expects⟩
        | false =>
          by_cases whole : reply = .ok bytes.length
          · cases whole
            exact ⟨_, .frame bytes expects⟩
          · exact ⟨_, .lost bytes reply expects whole⟩
      · exact ⟨line, .answer length reply⟩
    obtain ⟨last, follows⟩ := @ih next
    exact ⟨last, .cons sees follows⟩

end SelectLine

/-! ## One step -/

theorem levelOf?_setSelect (level : SelectLevel) :
    levelOf? (Command.setSelect level).frame = some level := by
  cases level <;> decide

theorem levelOf?_other {command : Command} (other : command.function ≠ 0x23) :
    levelOf? command.frame = none := by
  unfold levelOf?
  rw [if_neg (Command.frame_ne other), if_neg (Command.frame_ne other)]

theorem announcesMore_other {command : Command} (other : command.function ≠ 0x21) :
    announcesMore command.frame = false := by
  unfold announcesMore
  have apart : command.frame.getD 1 0 ≠ 0x21 := by
    intro same
    apply other
    rw [← command.getD_frame_one, same]
    rfl
  rw [beq_eq_false_iff_ne.mpr apart, Bool.false_and]

theorem announcesMore_write {data : Bytes} (fits : data.length ≤ transferMax) :
    announcesMore (Command.write (.ofNat data.length) (data.take leadingMax)).frame =
      decide (leadingMax < data.length) := by
  unfold announcesMore
  rw [Command.announced_write fits]
  rfl

theorem Step.Goes.unsent {step : Step} {events : List Link.Event} {error : Error}
    (silent : step.answer = none) (fails : step.Goes events (.error error)) :
    ∃ sent, sent ≠ .ok step.transfer.bytes.length ∧
      events = [⟨.send step.transfer.bytes, sent⟩] := by
  cases fails with
  | sendFails error => exact ⟨.error error, nofun, rfl⟩
  | sendsOther count other => exact ⟨.ok count, fun same => other (Except.ok.inj same), rfl⟩
  | answerFails length due | answersOther length due | answersFailure length due =>
    cases silent.symm.trans due

namespace SelectLine

variable {line next last : SelectLine} {events : List Link.Event}

theorem hears_undriven {frame : Bytes} (undriven : levelOf? frame = none) :
    line.hears frame = line := by
  rw [hears, undriven]
  rfl

theorem Follows.single {event : Link.Event} (follows : Follows line [event] last) :
    line.Sees event last := by
  cases follows with
  | cons sees rest =>
    cases rest
    exact sees

theorem Follows.through_answers (follows : Follows line events last)
    (answers : ∀ event ∈ events, ∃ length got, event = ⟨.receive length, got⟩) : last = line := by
  induction follows with
  | nil line => rfl
  | @cons line next last event events sees follows ih =>
    obtain ⟨length, got, rfl⟩ := answers event List.mem_cons_self
    cases sees
    exact ih fun event member => answers event (List.mem_cons_of_mem _ member)

theorem Sees.of_send {bytes : Bytes} {sent : Except Error Nat}
    (sees : line.Sees ⟨.send bytes, sent⟩ next) (expects : line.continues = false) :
    sent = .ok bytes.length ∧
        next = { line.hears bytes with continues := announcesMore bytes } ∨
      sent ≠ .ok bytes.length ∧ (next = line.hears bytes ∨ next = line) := by
  cases sees with
  | data _ _ continues => simp [continues] at expects
  | frame => exact .inl ⟨rfl, rfl⟩
  | stray _ _ _ unsent => exact .inr ⟨unsent, .inl rfl⟩
  | lost _ _ _ unsent => exact .inr ⟨unsent, .inr rfl⟩

end SelectLine

section Steps

variable {step : Step} {line last : SelectLine} {events : List Link.Event}
  {outcome : Except Error Bytes}

theorem Step.Goes.seen (goes : step.Goes events outcome) (follows : line.Follows events last)
    (expects : line.continues = false) :
    last = { line.hears step.transfer.bytes with
        continues := announcesMore step.transfer.bytes } ∨
      (∃ error, outcome = .error error) ∧ (∃ sent, sent ≠ .ok step.transfer.bytes.length ∧
        events = [⟨.send step.transfer.bytes, sent⟩]) ∧
        (last = line.hears step.transfer.bytes ∨ last = line) := by
  obtain ⟨sent, answers, rfl, receives, whole⟩ := goes.sends_first
  cases follows with
  | cons sees follows =>
    have same := follows.through_answers receives
    subst same
    rcases sees.of_send expects with ⟨-, next⟩ | ⟨unsent, next⟩
    · exact .inl next
    · obtain ⟨rfl, failed⟩ := whole.resolve_left unsent
      exact .inr ⟨failed, ⟨sent, unsent, rfl⟩, next⟩

theorem Step.Goes.seen_as_data (goes : step.Goes events outcome)
    (follows : line.Follows events last) (continues : line.continues = true) :
    last = { line with continues := false } := by
  obtain ⟨sent, answers, rfl, receives, -⟩ := goes.sends_first
  cases follows with
  | cons sees follows =>
    have same := follows.through_answers receives
    subst same
    cases sees with
    | data => rfl
    | frame _ expects | stray _ _ expects | lost _ _ expects => simp [expects] at continues

/-- Neither drives the line nor announces more. -/
def Step.Quiet (step : Step) : Prop :=
  levelOf? step.transfer.bytes = none ∧ announcesMore step.transfer.bytes = false

theorem Step.Quiet.seen (quiet : step.Quiet) (goes : step.Goes events outcome)
    (follows : line.Follows events last) (expects : line.continues = false) : last = line := by
  have unchanged : { line with continues := false } = line := by
    rw [← expects]
  have seen := goes.seen follows expects
  rw [quiet.2, SelectLine.hears_undriven quiet.1, unchanged] at seen
  rcases seen with same | ⟨-, -, same | same⟩
  · exact same
  · exact same
  · exact same

theorem GoThrough.seen_quiet {steps : List Step} {outcome : Except Error (List Bytes)}
    (through : GoThrough steps events outcome) (quiet : ∀ step ∈ steps, step.Quiet)
    (expects : line.continues = false) (follows : line.Follows events last) : last = line := by
  induction through with
  | done =>
    cases follows
    rfl
  | stops later fails => exact (quiet _ List.mem_cons_self).seen fails follows expects
  | goesOn goes through ih =>
    obtain ⟨middle, first, rest⟩ := follows.append
    have same := (quiet _ List.mem_cons_self).seen goes first expects
    subst same
    exact ih (fun step member => quiet step (List.mem_cons_of_mem _ member)) rest

end Steps

/-! ## The steps of a transaction -/

section Transactions

variable {data : Bytes} {length : Nat} {line before last : SelectLine}
  {events : List Link.Event}

theorem quiet_of_frame {step : Step} {command : Command} (sends : step.transfer = .frame command)
    (undriven : command.function ≠ 0x23) (unannounced : command.function ≠ 0x21) : step.Quiet := by
  unfold Step.Quiet
  rw [sends]
  exact ⟨levelOf?_other undriven, announcesMore_other unannounced⟩

theorem quiet_of_mem {step : Step}
    (member : step ∈ [statusStep] ++ (readSteps length ++ [statusStep])) : step.Quiet := by
  have status : statusStep.Quiet := @quiet_of_frame _ .getStatus rfl (by decide) (by decide)
  simp only [List.mem_append, List.mem_singleton] at member
  rcases member with rfl | reads | rfl
  · exact status
  · unfold readSteps at reads
    split at reads
    · cases reads
    · cases List.mem_singleton.mp reads
      have undriven : (0x22 : Nat) ≠ 0x23 := by decide
      have unannounced : (0x22 : Nat) ≠ 0x21 := by decide
      exact @quiet_of_frame _ (.read (.ofNat length)) rfl undriven unannounced
  · exact status

theorem undriven_announceStep : levelOf? (announceStep data).transfer.bytes = none :=
  @levelOf?_other (.write _ _) (show (0x21 : Nat) ≠ 0x23 by decide)

theorem seen_unannounced {error : Error} (fails : (announceStep data).Goes events (.error error))
    (follows : line.Follows events last) (expects : line.continues = false) : last = line := by
  obtain ⟨sent, unsent, rfl⟩ := fails.unsent rfl
  rcases follows.single.of_send expects with ⟨whole, -⟩ | ⟨-, next⟩
  · exact absurd whole unsent
  · rwa [SelectLine.hears_undriven undriven_announceStep, or_self] at next

theorem seen_announced (fits : data.length ≤ transferMax) {reply : Bytes}
    (goes : (announceStep data).Goes events (.ok reply)) (follows : line.Follows events last)
    (expects : line.continues = false) :
    last = { line with continues := decide (leadingMax < data.length) } := by
  rcases goes.seen follows expects with same | ⟨⟨error, failed⟩, -⟩
  · rw [SelectLine.hears_undriven undriven_announceStep] at same
    rw [same, ← announcesMore_write fits]
    rfl
  · cases failed

/-- While the chip is selected the line is not driven, and in the end no data are expected. -/
theorem GoThrough.seen_selected (fits : data.length ≤ transferMax)
    {outcome : Except Error (List Bytes)}
    (through : GoThrough (selectedSteps data length) events outcome)
    (follows : line.Follows events last) (expects : line.continues = false) : last = line := by
  have quiet (step : Step) (member : step ∈ [statusStep] ++ (readSteps length ++ [statusStep])) :
      step.Quiet := quiet_of_mem member
  unfold selectedSteps writeSteps at through
  cases through with
  | stops later fails => exact seen_unannounced fails follows expects
  | goesOn goes through =>
    obtain ⟨middle, first, rest⟩ := follows.append
    have announced := seen_announced fits goes first expects
    by_cases long : leadingMax < data.length
    · rw [if_pos long] at through
      rw [decide_eq_true long] at announced
      have continues : middle.continues = true := by rw [announced]
      have back : { middle with continues := false } = line := by
        rw [announced, ← expects]
      cases through with
      | stops later fails => exact (fails.seen_as_data rest continues).trans back
      | goesOn goes through =>
        obtain ⟨other, second, rest⟩ := rest.append
        have same := (goes.seen_as_data second continues).trans back
        subst same
        exact through.seen_quiet quiet expects rest
    · rw [if_neg long] at through
      rw [decide_eq_false long, ← expects] at announced
      subst announced
      exact through.seen_quiet quiet expects rest

theorem Step.Goes.seen_select {level : SelectLevel} {outcome : Except Error Bytes}
    (goes : (selectStep level).Goes events outcome) (follows : line.Follows events last)
    (expects : line.continues = false) :
    last = { line with driven := level :: line.driven } ∨
      (∃ error, outcome = .error error) ∧ (∃ sent, sent ≠ .ok frameSize ∧
        events = [⟨.send (Command.setSelect level).frame, sent⟩]) ∧ last = line := by
  have heard : line.hears (selectStep level).transfer.bytes =
      { line with driven := level :: line.driven } := by
    show line.hears (Command.setSelect level).frame = _
    rw [SelectLine.hears, levelOf?_setSelect]
    rfl
  have quiet : announcesMore (selectStep level).transfer.bytes = false :=
    @announcesMore_other (.setSelect level) (show (0x23 : Nat) ≠ 0x21 by decide)
  have size : (selectStep level).transfer.bytes.length = frameSize :=
    (Command.setSelect level).frame_length
  have seen := goes.seen follows expects
  rw [heard, quiet, size, ← expects] at seen
  rcases seen with same | ⟨failed, unsent, same | same⟩
  · exact .inl same
  · exact .inl same
  · exact .inr ⟨failed, unsent, same⟩

theorem seen_closed (fits : data.length ≤ transferMax) {opening middle ending : List Link.Event}
    {reply : Bytes} {inner : Except Error (List Bytes)} {released : Except Error Bytes}
    (opens : (selectStep .low).Goes opening (.ok reply))
    (through : GoThrough (selectedSteps data length) middle inner)
    (closes : (selectStep .high).Goes ending released)
    (follows : before.Follows (opening ++ (middle ++ ending)) line)
    (expects : before.continues = false) :
    line.continues = false ∧ (line.level = .high ∨
      (∃ error, released = .error error) ∧ ∃ sent, sent ≠ .ok frameSize ∧
        (opening ++ (middle ++ ending)).getLast? =
          some ⟨.send (Command.setSelect .high).frame, sent⟩) := by
  obtain ⟨lowered, first, rest⟩ := follows.append
  obtain ⟨selected, second, third⟩ := rest.append
  have driven : lowered = { before with driven := .low :: before.driven } := by
    rcases opens.seen_select first expects with same | ⟨⟨error, failed⟩, -⟩
    · exact same
    · cases failed
  have quiet : lowered.continues = false := by rw [driven, expects]
  have same : selected = lowered := through.seen_selected fits second quiet
  subst same
  rcases closes.seen_select third quiet with raised | ⟨failed, ⟨sent, unsent, rfl⟩, unraised⟩
  · rw [raised]
    exact ⟨quiet, .inl rfl⟩
  · rw [unraised]
    refine ⟨quiet, .inr ⟨failed, sent, unsent, ?_⟩⟩
    rw [← List.append_assoc]
    exact List.getLast?_concat

/-- Why the line may be low after a transaction. -/
inductive LowAfter (before line : SelectLine) (events : List Link.Event)
    (received : Received Error) : Prop
  /-- The frame that raises it could not be sent. -/
  | unraised (sent : Except Error Nat) (unsent : sent ≠ .ok frameSize)
    (last : events.getLast? = some ⟨.send (Command.setSelect .high).frame, sent⟩)
  /-- The frame that lowers it was received, and yet the transaction took it for a failure. -/
  | unacknowledged (error : Error) (fails : (selectStep .low).Goes events (.error error))
    (nothing : received = ⟨[], .error error⟩) (lowered : line.driven = .low :: before.driven)
  /-- It was low before, and nothing was sent, or only the frame that lowers it, in vain. -/
  | untouched (error : Error) (nothing : received = ⟨[], .error error⟩)
    (vain : events = [] ∨ ∃ sent, sent ≠ .ok frameSize ∧
      events = [⟨.send (Command.setSelect .low).frame, sent⟩])
    (same : line.driven = before.driven) (low : before.level = .low)

theorem lowAfter_of_same {received : Received Error} (same : line = before) (error : Error)
    (nothing : received = ⟨[], .error error⟩)
    (vain : events = [] ∨ ∃ sent, sent ≠ .ok frameSize ∧
      events = [⟨.send (Command.setSelect .low).frame, sent⟩]) :
    line.level = .high ∨ LowAfter before line events received := by
  subst same
  cases level : line.level with
  | high => exact .inl rfl
  | low => exact .inr (.untouched error nothing vain rfl level)

theorem Exit.seen {received : Received Error} (exits : Exit data length events received)
    (follows : before.Follows events line) (expects : before.continues = false) :
    line.continues = false ∧ (received.outcome = .ok () → line.level = .high) ∧
      (line.level = .high ∨ LowAfter before line events received) := by
  cases exits with
  | refused long error =>
    have same : line = before := by
      cases follows
      rfl
    exact ⟨same ▸ expects, nofun, lowAfter_of_same same error rfl (.inl rfl)⟩
  | unselected error fails =>
    rcases fails.seen_select follows expects with lowered | ⟨-, vain, same⟩
    · rw [lowered]
      exact ⟨expects, nofun, .inr (.unacknowledged error fails rfl rfl)⟩
    · exact ⟨same ▸ expects, nofun, lowAfter_of_same same error rfl (.inr vain)⟩
  | broken fits error bytes opens breaks closes =>
    obtain ⟨quiet, raised | ⟨-, sent, unsent, last⟩⟩ :=
      seen_closed fits opens breaks closes follows expects
    · exact ⟨quiet, nofun, .inl raised⟩
    · exact ⟨quiet, nofun, .inr (.unraised sent unsent last)⟩
  | unreleased fits error opens through fails =>
    obtain ⟨quiet, raised | ⟨-, sent, unsent, last⟩⟩ :=
      seen_closed fits opens through fails follows expects
    · exact ⟨quiet, nofun, .inl raised⟩
    · exact ⟨quiet, nofun, .inr (.unraised sent unsent last)⟩
  | released fits opens through closes =>
    obtain ⟨quiet, raised | ⟨⟨error, failed⟩, -⟩⟩ :=
      seen_closed fits opens through closes follows expects
    · exact ⟨quiet, fun _ => raised, .inl raised⟩
    · cases failed

end Transactions

/-! ## Transactions one after another -/

/-- Transactions, of which each takes place whatever came of those before. -/
def transactions : List (Bytes × Nat) → Dialogue Link Unit
  | [] => pure ()
  | call :: later => do
    let _ ← transact call.1 call.2
    transactions later

section Sequences

variable {σ : Type} (machine : Machine σ Link)

theorem transactions_seen (calls : List (Bytes × Nat)) :
    ∀ (state : σ) (before line : SelectLine), before.continues = false →
      before.Follows ((transactions calls).run machine state).events line →
        line.continues = false := by
  induction calls with
  | nil =>
    intro state before line expects follows
    cases follows
    exact expects
  | cons call later ih =>
    intro state before line expects follows
    rw [transactions, Dialogue.run_bind] at follows
    obtain ⟨middle, first, rest⟩ := follows.append
    obtain ⟨quiet, -⟩ := (transact_exit machine call.1 call.2 state).seen first expects
    exact ih _ middle line quiet rest

/-- After a success the line is high, and after a failure it is low for one of three reasons. -/
theorem line_after_transaction (state : σ) (earlier : List (Bytes × Nat)) (data : Bytes)
    (length : Nat) (before line : SelectLine) :
    let past := (transactions earlier).run machine state
    let ran := (transact data length).run machine past.state
    SelectLine.Follows {} past.events before → before.Follows ran.events line →
      (ran.value.outcome = .ok () → line.level = .high) ∧
        (line.level = .high ∨ LowAfter before line ran.events ran.value) := by
  intro past ran start follows
  have expects := transactions_seen machine earlier state {} before rfl start
  exact ((transact_exit machine data length past.state).seen follows expects).2

end Sequences

theorem events_of_lost_acknowledgement :
    ((transact [0x06] 0).run Peer.machine
      (.emulated { faults := [⟨0x23, 1, .replyIsDropped⟩] })).events =
        [⟨.send (Command.setSelect .low).frame, .ok frameSize⟩, ⟨.receive 2, .error .timeout⟩] :=
  rfl

theorem line_low_explained :
    let bridge : Peer := .emulated { faults := [⟨0x23, 1, .replyIsDropped⟩] }
    let past := (transactions []).run Peer.machine bridge
    let ran := (transact [0x06] 0).run Peer.machine past.state
    let line : SelectLine := { driven := [.low] }
    (SelectLine.Follows {} past.events {} ∧ SelectLine.Follows {} ran.events line) ∧
      line.level = .low ∧ LowAfter {} line ran.events ran.value := by
  intro bridge past ran line
  have start : SelectLine.Follows {} past.events {} := .nil {}
  have events := events_of_lost_acknowledgement
  have follows : SelectLine.Follows {} ran.events line := by
    rw [show ran.events = _ from events]
    exact .cons (.frame (Command.setSelect .low).frame rfl) (.cons (.answer _ _) (.nil line))
  have left := line_after_transaction Peer.machine bridge [] [0x06] 0 {} line start follows
  exact ⟨⟨start, follows⟩, rfl, left.2.resolve_left nofun⟩

/-- The line is low although no frame to raise it was sent, nor could have failed to be. -/
theorem line_low_after_lost_acknowledgement :
    let ran := (transact [0x06] 0).run Peer.machine
      (.emulated { faults := [⟨0x23, 1, .replyIsDropped⟩] })
    ∃ line, SelectLine.Follows {} ran.events line ∧
      ¬ (line.level = .high ∨ ∃ sent, sent ≠ .ok frameSize ∧
        ⟨.send (Command.setSelect .high).frame, sent⟩ ∈ ran.events) := by
  simp only [events_of_lost_acknowledgement]
  refine ⟨_, .cons (.frame _ rfl) (.cons (.answer _ _) (.nil _)), ?_⟩
  rintro (high | ⟨sent, -, member⟩)
  · revert high
    decide
  · have apart : (Command.setSelect .high).frame ≠ (Command.setSelect .low).frame := by decide
    simp [apart] at member

end SpiProgrammer.Bridge
