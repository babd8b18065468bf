import Mathlib.Data.List.Forall2
import SpiProgrammer.Proofs.Bridge.Emulated
import SpiProgrammer.Proofs.Bridge.Exits

/-! # The verdict on a transaction

The events tell whether a transaction succeeds: each step is one that went out whole and, where an
answer was due, received one that it accepts.  Main statement: on every link a transaction is a
success exactly if its events are those of a flawless one, and what it hands over is then the
answer to the read. -/
set_option autoImplicit false

namespace SpiProgrammer.Bridge

/-- The replies with which the step succeeds. -/
def Step.Accepts (step : Step) (reply : Bytes) : Prop :=
  match step.answer with
  | none => reply = []
  | some length => reply.length = length ∧ step.failure? reply = none

def sentWholly (bytes : Bytes) : Link.Event :=
  ⟨.send bytes, .ok bytes.length⟩

def answered (length : Nat) (reply : Bytes) : Link.Event :=
  ⟨.receive length, .ok reply⟩

def Step.wholly (step : Step) (reply : Bytes) : List Link.Event :=
  sentWholly step.transfer.bytes ::
    match step.answer with
    | none => []
    | some length => [answered length reply]

/-- The events of steps that all go well, by what they receive. -/
def wholly : List Step → List Bytes → List Link.Event
  | step :: steps, reply :: replies => step.wholly reply ++ wholly steps replies
  | _, _ => []

theorem Step.Goes.accepts {step : Step} {events : List Link.Event} {outcome : Except Error Bytes}
    (goes : step.Goes events outcome) {reply : Bytes} (well : outcome = .ok reply) :
    step.Accepts reply ∧ events = step.wholly reply := by
  cases goes with
  | sends silent =>
    cases well
    simp [Step.Accepts, Step.wholly, silent, sentWholly]
  | answers length due reply exact success =>
    cases well
    simp [Step.Accepts, Step.wholly, due, exact, success, sentWholly, answered]
  | _ => cases well

theorem Step.Goes.of_wholly {step : Step} {events rest later : List Link.Event}
    {outcome : Except Error Bytes} (goes : step.Goes events outcome) {reply : Bytes}
    (accepts : step.Accepts reply) (same : events ++ rest = step.wholly reply ++ later) :
    outcome = .ok reply ∧ rest = later := by
  -- an answer that is seen where the success has one is the answer of the success
  have answer {length : Nat} (due : step.answer = some length) {got : Except Error Bytes}
      (same : [⟨.send step.transfer.bytes, .ok step.transfer.bytes.length⟩,
        ⟨.receive length, got⟩] ++ rest = step.wholly reply ++ later) :
      got = .ok reply ∧ rest = later ∧ reply.length = length ∧ step.failure? reply = none := by
    have inside : got = .ok reply ∧ rest = later := by
      simpa [Step.wholly, due, sentWholly, answered] using same
    simp only [Step.Accepts, due] at accepts
    exact ⟨inside.1, inside.2, accepts⟩
  cases goes with
  | sendFails error => simp [Step.wholly, sentWholly] at same
  | sendsOther count other => simp [Step.wholly, sentWholly, other] at same
  | sends silent =>
    simp only [Step.Accepts, silent] at accepts
    subst accepts
    simpa [Step.wholly, silent, sentWholly] using same
  | answerFails length due error =>
    obtain ⟨arrived, -⟩ := answer due same
    cases arrived
  | answersOther length due received other =>
    obtain ⟨arrived, -, exact, -⟩ := answer due same
    cases arrived
    exact absurd exact other
  | answersFailure length due received exact error tells =>
    obtain ⟨arrived, -, -, success⟩ := answer due same
    cases arrived
    cases success.symm.trans tells
  | answers length due received exact well =>
    obtain ⟨arrived, follows, -⟩ := answer due same
    exact ⟨arrived, follows⟩

theorem GoThrough.accepts {steps : List Step} {events : List Link.Event}
    {outcome : Except Error (List Bytes)} (through : GoThrough steps events outcome) :
    ∀ replies, outcome = .ok replies →
      List.Forall₂ Step.Accepts steps replies ∧ events = wholly steps replies := by
  induction through with
  | done =>
    intro replies well
    cases well
    exact ⟨.nil, rfl⟩
  | stops later fails =>
    intro replies well
    cases well
  | @goesOn step later events rest reply outcome goes through ih =>
    intro replies well
    cases outcome with
    | error error => cases well
    | ok others =>
      cases well
      obtain ⟨accepts, first⟩ := goes.accepts rfl
      obtain ⟨all, follows⟩ := ih others rfl
      exact ⟨.cons accepts all, by rw [first, follows]; rfl⟩

/-- Steps whose events begin like those of successes of theirs and of further steps. -/
theorem GoThrough.of_wholly {steps : List Step} {events : List Link.Event}
    {outcome : Except Error (List Bytes)} (through : GoThrough steps events outcome)
    {later : List Step} {rest : List Link.Event} :
    ∀ replies, List.Forall₂ Step.Accepts (steps ++ later) replies →
      events ++ rest = wholly (steps ++ later) replies →
        ∃ first others, replies = first ++ others ∧ outcome = .ok first ∧
          List.Forall₂ Step.Accepts later others ∧ rest = wholly later others := by
  induction through with
  | done =>
    intro replies accept same
    exact ⟨[], replies, rfl, rfl, accept, same⟩
  | stops others fails =>
    intro replies accept same
    cases accept with
    | cons accepts rest =>
      obtain ⟨goesWell, -⟩ := fails.of_wholly accepts same
      cases goesWell
  | @goesOn step others events following reply outcome goes through ih =>
    intro replies accept same
    cases accept with
    | @cons _ answer _ answers accepts accept =>
      rw [List.append_assoc] at same
      obtain ⟨goesWell, follows⟩ := goes.of_wholly accepts same
      cases goesWell
      obtain ⟨first, last, split, ends, acceptLast, lastEvents⟩ := ih answers accept follows
      refine ⟨reply :: first, last, ?_, ?_, acceptLast, lastEvents⟩
      · rw [split]
        rfl
      · rw [ends]
        rfl

/-- What was sent and then answered in steps that all went well was asked for by one of them. -/
theorem asked_of_wholly {steps : List Step} {replies : List Bytes}
    (accept : List.Forall₂ Step.Accepts steps replies) {bytes reply : Bytes} {length : Nat}
    {after : List Link.Event} :
    ∀ before, wholly steps replies = before ++ sentWholly bytes :: answered length reply :: after →
      ∃ step ∈ steps, step.transfer.bytes = bytes ∧ step.answer = some length ∧
        step.Accepts reply := by
  induction accept with
  | nil =>
    intro before split
    cases before <;> cases split
  | @cons step given steps replies accepts accept ih =>
    intro before split
    have further (before : List Link.Event)
        (split : wholly steps replies =
          before ++ sentWholly bytes :: answered length reply :: after) :
        ∃ other ∈ step :: steps, other.transfer.bytes = bytes ∧ other.answer = some length ∧
          other.Accepts reply := by
      obtain ⟨other, member, asked⟩ := ih before split
      exact ⟨other, List.mem_cons_of_mem step member, asked⟩
    unfold wholly Step.wholly at split
    cases due : step.answer with
    | none =>
      simp only [due, List.cons_append, List.nil_append] at split
      cases before with
      | nil =>
        obtain ⟨-, next⟩ := List.cons.inj split
        cases accept with
        | nil => cases next
        | cons _ _ => cases (List.cons.inj next).1
      | cons event before => exact further before (List.cons.inj split).2
    | some asked =>
      simp only [due, List.cons_append, List.nil_append] at split
      match before with
      | [] =>
        obtain ⟨sent, next⟩ := List.cons.inj split
        obtain ⟨heard, -⟩ := List.cons.inj next
        simp only [sentWholly, answered, Interface.Event.mk.injEq, LinkRequest.send.injEq,
          LinkRequest.receive.injEq] at sent heard
        obtain ⟨rfl, same⟩ := heard
        cases same
        exact ⟨step, List.mem_cons_self, sent.1, due, accepts⟩
      | [event] =>
        obtain ⟨-, next⟩ := List.cons.inj split
        cases (List.cons.inj next).1
      | event :: other :: before =>
        obtain ⟨-, next⟩ := List.cons.inj split
        exact further before (List.cons.inj next).2

/-- All steps of a transaction that is not cut short. -/
def transactionSteps (data : Bytes) (length : Nat) : List Step :=
  selectStep .low :: (selectedSteps data length ++ [selectStep .high])

section Exits

variable {data : Bytes} {length : Nat} {events : List Link.Event} {received : Received Error}

theorem Exit.accepts (exits : Exit data length events received)
    (well : received.outcome = .ok ()) :
    ∃ opened replies closed,
      List.Forall₂ Step.Accepts (transactionSteps data length) (opened :: (replies ++ [closed])) ∧
      events = wholly (transactionSteps data length) (opened :: (replies ++ [closed])) ∧
      received.bytes = readReply data length replies := by
  cases exits with
  | released fits opens through closes =>
    have closing := GoThrough.goesOn closes .done
    have whole := GoThrough.goesOn opens (through.append_ok rfl closing)
    rw [List.append_nil] at whole
    obtain ⟨accept, same⟩ := whole.accepts _ rfl
    exact ⟨_, _, _, accept, same, rfl⟩
  | _ => cases well

theorem Exit.of_wholly (exits : Exit data length events received) {opened closed : Bytes}
    {replies : List Bytes}
    (accept : List.Forall₂ Step.Accepts (transactionSteps data length)
      (opened :: (replies ++ [closed])))
    (same : events = wholly (transactionSteps data length) (opened :: (replies ++ [closed]))) :
    received = ⟨readReply data length replies, .ok ()⟩ := by
  cases accept with
  | cons accepts accept =>
    unfold transactionSteps wholly at same
    cases exits with
    | refused long error => cases same
    | unselected error fails =>
      rw [← List.append_nil events] at same
      cases (fails.of_wholly accepts same).1
    | broken fits error bytes opens breaks closes =>
      obtain ⟨-, next⟩ := opens.of_wholly accepts same
      obtain ⟨_, _, -, ends, -⟩ := breaks.of_wholly _ accept next
      cases ends
    | @unreleased _ _ ending _ _ fits error opens through fails =>
      obtain ⟨-, next⟩ := opens.of_wholly accepts same
      obtain ⟨_, others, -, -, acceptLast, last⟩ := through.of_wholly _ accept next
      rw [← List.append_nil ending] at last
      obtain ⟨_, _, -, ends, -⟩ := (GoThrough.stops [] fails).of_wholly others acceptLast last
      cases ends
    | released fits opens through closes =>
      obtain ⟨-, next⟩ := opens.of_wholly accepts same
      obtain ⟨first, others, split, ends, acceptLast, -⟩ := through.of_wholly _ accept next
      obtain ⟨rfl, -⟩ := List.append_inj' split acceptLast.length_eq
      cases ends
      rfl

end Exits

/-! ## The events of a success -/

def frameSent (command : Command) : Link.Event :=
  ⟨.send command.frame, .ok frameSize⟩

/-- What goes over the link in a transaction that succeeds, by the answers to its questions. -/
def flawless (data : Bytes) (length : Nat) (opened first read last closed : Bytes) :
    List Link.Event :=
  [frameSent (.setSelect .low), answered 2 opened,
    frameSent (.write (.ofNat data.length) (data.take leadingMax))] ++
  (if leadingMax < data.length
    then [⟨.send (data.drop leadingMax), .ok (data.length - leadingMax)⟩] else []) ++
  [frameSent .getStatus, answered 8 first] ++
  (if length = 0 then [] else [frameSent (.read (.ofNat length)), answered length read]) ++
  [frameSent .getStatus, answered 8 last, frameSent (.setSelect .high), answered 2 closed]

theorem sentWholly_frame (command : Command) : sentWholly command.frame = frameSent command := by
  rw [sentWholly, command.frame_length]
  rfl

theorem sentWholly_rest (data : Bytes) :
    sentWholly (data.drop leadingMax) =
      ⟨.send (data.drop leadingMax), .ok (data.length - leadingMax)⟩ := by
  rw [sentWholly, List.length_drop]

section Replies

variable {data : Bytes} {length : Nat}

@[simp]
theorem accepts_selectStep {level : SelectLevel} {reply : Bytes} :
    (selectStep level).Accepts reply ↔ reply.length = 2 := by
  simp [Step.Accepts, selectStep, questionStep, acknowledgement]

@[simp]
theorem accepts_announceStep {reply : Bytes} : (announceStep data).Accepts reply ↔ reply = [] :=
  Iff.rfl

@[simp]
theorem accepts_restStep {reply : Bytes} : (restStep data).Accepts reply ↔ reply = [] :=
  Iff.rfl

@[simp]
theorem accepts_readStep {reply : Bytes} :
    (readStep length).Accepts reply ↔ reply.length = length := by
  simp [Step.Accepts, readStep, questionStep]

@[simp]
theorem accepts_statusStep {reply : Bytes} :
    statusStep.Accepts reply ↔ reply.length = 8 ∧ reply.drop 4 = [0, 0, 0, 0] := by
  show reply.length = 8 ∧ statusFailure? reply = none ↔ _
  refine and_congr_right fun exact => ?_
  match reply, exact with
  | [b₀, b₁, b₂, b₃, b₄, b₅, b₆, b₇], _ =>
    have spelled := TransferStatus.toNat_code b₀ b₁ b₂ b₃ b₄ b₅ b₆ b₇
    simp only [statusFailure?, ite_eq_left_iff, reduceCtorEq, imp_false, not_not,
      List.drop_succ_cons, List.drop_zero, List.cons.injEq, and_true, ← UInt8.toNat_inj,
      ← UInt32.toNat_inj, spelled]
    simp only [UInt8.toNat_ofNat, UInt32.toNat_ofNat]
    omega

/-- What the steps of a transaction receive while the chip is selected. -/
def repliesOf (data : Bytes) (length : Nat) (first read last : Bytes) : List Bytes :=
  (writeSteps data).map (fun _ => []) ++
    first :: ((readSteps length).map (fun _ => read) ++ [last])

theorem accept_transactionSteps {replies : List Bytes} :
    List.Forall₂ Step.Accepts (transactionSteps data length) replies ↔
      ∃ opened first read last closed, opened.length = 2 ∧
        (first.length = 8 ∧ first.drop 4 = [0, 0, 0, 0]) ∧ read.length = length ∧
        (last.length = 8 ∧ last.drop 4 = [0, 0, 0, 0]) ∧ closed.length = 2 ∧
        replies = opened :: (repliesOf data length first read last ++ [closed]) := by
  unfold transactionSteps selectedSteps repliesOf writeSteps readSteps
  by_cases long : leadingMax < data.length <;> by_cases nothing : length = 0
  all_goals simp [long, nothing, List.forall₂_cons_left_iff, and_assoc]

theorem wholly_transactionSteps {opened first read last closed : Bytes} :
    wholly (transactionSteps data length)
      (opened :: (repliesOf data length first read last ++ [closed])) =
        flawless data length opened first read last closed := by
  unfold transactionSteps selectedSteps repliesOf writeSteps readSteps flawless
  by_cases long : leadingMax < data.length <;> by_cases nothing : length = 0
  all_goals
    simp [long, nothing, wholly, Step.wholly, selectStep, announceStep, restStep, readStep,
      statusStep, questionStep, Transfer.bytes, sentWholly_frame, sentWholly_rest,
      acknowledgement, TransferStatus.form]

theorem readReply_repliesOf {first read last : Bytes} (exact : read.length = length) :
    readReply data length (repliesOf data length first read last) = read := by
  have reads : (repliesOf data length first read last).drop ((writeSteps data).length + 1) =
      (readSteps length).map (fun _ => read) ++ [last] := by
    rw [repliesOf, ← List.drop_drop, List.drop_left' (by simp)]
    rfl
  rw [readReply, reads, List.take_left' (by simp), readSteps]
  by_cases nothing : length = 0
  · rw [if_pos nothing, List.eq_nil_of_length_eq_zero (exact.trans nothing)]
    rfl
  · rw [if_neg nothing]
    simp

end Replies

/-- Whether a transfer has moved all the bytes it had to, and no more. -/
def Exact : Link.Event → Prop
  | ⟨.send bytes, sent⟩ => sent = .ok bytes.length
  | ⟨.receive length, got⟩ => ∃ reply, got = .ok reply ∧ reply.length = length

theorem exact_of_wholly {steps : List Step} {replies : List Bytes}
    (accept : List.Forall₂ Step.Accepts steps replies) :
    ∀ event ∈ wholly steps replies, Exact event := by
  induction accept with
  | nil => simp [wholly]
  | @cons step reply steps replies accepts accept ih =>
    intro event member
    rcases List.mem_append.mp member with inStep | later
    · unfold Step.Accepts at accepts
      unfold Step.wholly at inStep
      rcases List.mem_cons.mp inStep with rfl | answer
      · rfl
      · cases due : step.answer with
        | none => simp [due] at answer
        | some length =>
          simp only [due, List.mem_singleton] at accepts answer
          subst answer
          exact ⟨reply, rfl, accepts.1⟩
    · exact ih event later

theorem eq_statusStep_of_asks {data : Bytes} {length looked : Nat} {step : Step}
    (member : step ∈ transactionSteps data length)
    (asks : step.transfer.bytes = Command.getStatus.frame) (due : step.answer = some looked) :
    step = statusStep := by
  have apart {command : Command} (same : command.frame = Command.getStatus.frame) :
      command.function = 0x02 := by
    rw [← command.getD_frame_one, same]
    rfl
  simp only [transactionSteps, selectedSteps, List.mem_cons, List.mem_append, List.not_mem_nil,
    or_false] at member
  rcases member with rfl | (writes | rfl | reads | rfl) | rfl
  · cases apart asks
  · have silent : step.answer = none := by
      rcases List.mem_cons.mp writes with rfl | rest
      · rfl
      · split at rest
        · cases List.mem_singleton.mp rest
          rfl
        · cases rest
    cases silent.symm.trans due
  · rfl
  · unfold readSteps at reads
    split at reads
    · cases reads
    · cases List.mem_singleton.mp reads
      cases apart asks
  · rfl
  · cases apart asks

/-- The verdict is told by the events: a transaction is a success exactly if they are those of a
flawless one, so no transfer that is not exact and no status but zero passes for a success. -/
theorem transact_succeeds_iff_flawless {σ : Type} (machine : Machine σ Link) (state : σ)
    (data : Bytes) (length : Nat) :
    let ran := (transact data length).run machine state
    (∀ read, ran.value = ⟨read, .ok ()⟩ ↔ read.length = length ∧
      ∃ opened first last closed, opened.length = 2 ∧
        (first.length = 8 ∧ first.drop 4 = [0, 0, 0, 0]) ∧
        (last.length = 8 ∧ last.drop 4 = [0, 0, 0, 0]) ∧ closed.length = 2 ∧
        ran.events = flawless data length opened first read last closed) ∧
    ((∃ event ∈ ran.events, ¬ Exact event) → ∃ error, ran.value.outcome = .error error) ∧
    (∀ before reply after,
      ran.events = before ++ frameSent .getStatus :: answered 8 reply :: after →
        reply.drop 4 ≠ [0, 0, 0, 0] → ∃ error, ran.value.outcome = .error error) := by
  intro ran
  have exits : Exit data length ran.events ran.value := transact_exit machine data length state
  have fails (refutes : ran.value.outcome = .ok () → False) :
      ∃ error, ran.value.outcome = .error error := by
    cases outcome : ran.value.outcome with
    | ok _ => exact (refutes outcome).elim
    | error error => exact ⟨error, rfl⟩
  refine ⟨fun read => ⟨fun well => ?_, ?_⟩, ?_, fun before reply after split bad => ?_⟩
  · obtain ⟨opened, replies, closed, accept, same, bytes⟩ := exits.accepts (by rw [well])
    obtain ⟨opened', first, other, last, closed', opens, looks, exact, looksAgain, closes, all⟩ :=
      accept_transactionSteps.mp accept
    obtain ⟨rfl, rest⟩ := List.cons.inj all
    obtain ⟨rfl, lastOne⟩ := List.append_inj' rest rfl
    cases lastOne
    have handed : read = other := by
      rw [well] at bytes
      exact bytes.trans (readReply_repliesOf exact)
    subst handed
    exact ⟨exact, opened, first, last, closed, opens, looks, looksAgain, closes,
      same.trans wholly_transactionSteps⟩
  · rintro ⟨exact, opened, first, last, closed, opens, looks, looksAgain, closes, same⟩
    have accept : List.Forall₂ Step.Accepts (transactionSteps data length)
        (opened :: (repliesOf data length first read last ++ [closed])) :=
      accept_transactionSteps.mpr ⟨opened, first, read, last, closed, opens, looks, exact,
        looksAgain, closes, rfl⟩
    rw [exits.of_wholly accept (same.trans wholly_transactionSteps.symm),
      readReply_repliesOf exact]
  · rintro ⟨event, member, inexact⟩
    refine fails fun well => inexact ?_
    obtain ⟨opened, replies, closed, accept, same, -⟩ := exits.accepts well
    exact exact_of_wholly accept event (same ▸ member)
  · refine fails fun well => bad ?_
    obtain ⟨opened, replies, closed, accept, same, -⟩ := exits.accepts well
    rw [same, ← sentWholly_frame] at split
    obtain ⟨step, member, asks, due, accepts⟩ := asked_of_wholly accept before split
    rw [eq_statusStep_of_asks member asks due] at accepts
    exact (accepts_statusStep.mp accepts).2

/-- Two bytes are read; a status is not zero; an answer is lost. -/
theorem verdicts_on_emulated_bridge :
    let reading := (transact [0x9F] 2).run Peer.machine (.emulated {})
    let refused := (transact [0x06] 0).run Peer.machine (.emulated { statuses := [7] })
    let unheard := (transact [0x06] 0).run Peer.machine
      (.emulated { faults := [⟨0x23, 1, .replyIsDropped⟩] })
    (∃ opened first last closed,
        reading.events = flawless [0x9F] 2 opened first [0xEF, 0x40] last closed) ∧
      (∃ error, refused.value.outcome = .error error) ∧
      ∃ error, unheard.value.outcome = .error error := by
  refine ⟨?_, ?_, ?_⟩
  · have verdict := transact_succeeds_iff_flawless Peer.machine (.emulated {}) [0x9F] 2
    obtain ⟨-, opened, first, last, closed, -, -, -, -, same⟩ := (verdict.1 [0xEF, 0x40]).mp rfl
    exact ⟨opened, first, last, closed, same⟩
  · have verdict := transact_succeeds_iff_flawless Peer.machine (.emulated { statuses := [7] })
      [0x06] 0
    have looked : (Emulator.answerHead ++ [7, 0, 0, 0]).drop 4 ≠ [0, 0, 0, 0] := by decide
    exact verdict.2.2 [frameSent (.setSelect .low), answered 2 Emulator.acknowledged,
      frameSent (.write 1 [0x06])] _ _ rfl looked
  · have verdict := transact_succeeds_iff_flawless Peer.machine
      (.emulated { faults := [⟨0x23, 1, .replyIsDropped⟩] }) [0x06] 0
    have inexact : ¬ Exact ⟨.receive 2, .error .timeout⟩ := nofun
    exact verdict.2.1 ⟨_, List.mem_cons_of_mem _ List.mem_cons_self, inexact⟩

end SpiProgrammer.Bridge
