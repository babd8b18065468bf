import SpiProgrammer.Bridge.Peer
import SpiProgrammer.Proofs.Bridge.ChipSelect
import SpiProgrammer.Proofs.Dialogue.Layers
import SpiProgrammer.Proofs.Words

/-! # The emulated bridge, frame by frame

One equation for each kind of transfer says what the bridge does with it and what it replies.
Main statement: a question asked of a bridge that is in step leaves it in step, whatever fault
strikes; it has either not been processed, or it has, and then a success hands over the very
reply of the bridge. -/
set_option autoImplicit false

namespace SpiProgrammer.Bridge

namespace Command

/-- The number of a command's function in its class. -/
def function (command : Command) : Nat :=
  (command.content.getD 1 0).toNat

theorem getD_frame {command : Command} {index : Nat} (within : index < command.content.length) :
    command.frame.getD index 0 = command.content.getD index 0 := by
  simp [frame, List.getD_eq_getElem?_getD, List.getElem?_append_left within]

theorem getD_frame_one (command : Command) :
    (command.frame.getD 1 0).toNat = command.function := by
  rw [function, getD_frame]
  cases command <;> simp [content]

theorem frame_ne {first second : Command} (apart : first.function ≠ second.function) :
    first.frame ≠ second.frame := by
  intro same
  apply apart
  rw [← first.getD_frame_one, ← second.getD_frame_one, same]

theorem announced_write {length : Nat} (fits : length ≤ transferMax) (leading : Bytes) :
    (wordAt (Command.write (.ofNat length) leading).frame 2).toNat = length := by
  have word : wordAt (Command.write (.ofNat length) leading).frame 2 = .ofNat length :=
    Bytes.toUInt16LE_halves (.ofNat length)
  rw [word, UInt16.toNat_ofNat']
  exact Nat.mod_eq_of_lt (Nat.lt_succ_of_le fits)

theorem announced_read {length : Nat} (fits : length ≤ transferMax) :
    (wordAt (Command.read (.ofNat length)).frame 2).toNat = length :=
  announced_write fits []

end Command

theorem TransferStatus.code_answer (status : UInt32) :
    (form.meaning (Emulator.answerHead ++ Bytes.ofUInt32LE status)).code = status := by
  have bound : status.toNat < 0x100000000 := status.toNat_lt
  apply UInt32.toNat_inj.mp
  refine (toNat_code 0x80 0 0 0 status.toUInt8 (status >>> 8).toUInt8 (status >>> 16).toUInt8
    (status >>> 24).toUInt8).trans ?_
  simp only [UInt32.toNat_toUInt8, UInt32.toNat_shiftRight]
  show status.toNat % 256 + 256 * (status.toNat >>> 8 % 256) +
    65536 * (status.toNat >>> 16 % 256 + 256 * (status.toNat >>> 24 % 256)) = status.toNat
  simp only [Nat.shiftRight_eq_div_pow]
  omega

namespace Emulator

/-- Nothing is waiting to be received, and the next transfer is taken for a frame. -/
structure InStep (emulator : Emulator) : Prop where
  noReply : emulator.replies = []
  expectsFrame : emulator.continues = false

/-- The bridge once a transfer of the function has been counted. -/
def pass (emulator : Emulator) (function : Nat) : Emulator :=
  { emulator with faults := passTurn emulator.faults function }

theorem InStep.pass {emulator : Emulator} (inStep : emulator.InStep) (function : Nat) :
    (emulator.pass function).InStep :=
  ⟨inStep.noReply, inStep.expectsFrame⟩

theorem functionOf_frame {emulator : Emulator} (expects : emulator.continues = false)
    (command : Command) : emulator.functionOf command.frame = command.function := by
  rw [functionOf, expects, Command.frame_length]
  exact command.getD_frame_one

/-! ## What the bridge does with a transfer -/

/-- The bridge once the line has been driven. -/
def driven (emulator : Emulator) : SelectLevel → Emulator
  | .low => { emulator with pending := [] }
  | .high =>
    { emulator with chip := (emulator.chip.transfer emulator.pending 0).2, pending := [] }

theorem drive_high (emulator : Emulator) : emulator.drive 1 = emulator.driven .high := by
  have notLow : (1 : UInt8) ≠ 0 := by decide
  rw [drive, if_neg notLow]
  by_cases waiting : emulator.pending = []
  · rw [if_pos (by rw [waiting]; rfl), driven, waiting]
    cases emulator
    cases waiting
    rfl
  · rw [if_neg (by simpa using waiting)]
    rfl

theorem process_setSelect (emulator : Emulator) (level : SelectLevel) :
    emulator.process 0x23 (Command.setSelect level).frame =
      (some acknowledged, ({ emulator with continues := false }).driven level) := by
  cases level with
  | low => rfl
  | high => exact congrArg (some acknowledged, ·) (drive_high { emulator with continues := false })

theorem process_getStatus (emulator : Emulator) :
    emulator.process 0x02 Command.getStatus.frame =
      (some (answerHead ++ Bytes.ofUInt32LE (emulator.statuses.headD 0)),
        { emulator with continues := false, statuses := emulator.statuses.tail }) := rfl

theorem process_read (emulator : Emulator) {length : Nat} (fits : length ≤ transferMax) :
    emulator.process 0x22 (Command.read (.ofNat length)).frame =
      (some (emulator.chip.transfer emulator.pending length).1,
        { emulator with
          continues := false
          chip := (emulator.chip.transfer emulator.pending length).2
          pending := [] }) := by
  simp only [process, cycle, Command.announced_read fits]
  rfl

theorem process_write (emulator : Emulator) {data : Bytes} (fits : data.length ≤ transferMax) :
    emulator.process 0x21 (Command.write (.ofNat data.length) (data.take leadingMax)).frame =
      (none, { emulator with
        continues := decide (leadingMax < data.length)
        pending := emulator.pending ++ data.take leadingMax }) := by
  have leading : ((Command.write (.ofNat data.length) (data.take leadingMax)).frame.drop 4).take
      (min data.length leadingMax) = data.take leadingMax := by
    show (((data.take leadingMax).take leadingMax) ++ _).take (min data.length leadingMax) = _
    rw [List.take_take, Nat.min_self]
    exact List.take_left' (by rw [List.length_take, Nat.min_comm])
  simp only [process, Command.announced_write fits, leading]
  rfl

theorem process_continuation (emulator : Emulator) (data : Bytes) :
    emulator.process continuation data =
      (none, { emulator with continues := false, pending := emulator.pending ++ data }) := rfl

/-! ## How a transfer ends -/

def machine : Machine Emulator Link
  | .send bytes, emulator =>
    ((emulator.send bytes).1.mapError PipeFault.toError, (emulator.send bytes).2)
  | .receive _, emulator =>
    (emulator.receive.1.mapError PipeFault.toError, emulator.receive.2)

theorem run_emulated {α : Type} (d : Dialogue Link α) (emulator : Emulator) :
    d.run Peer.machine (.emulated emulator) =
      let inner := d.run machine emulator
      ⟨inner.value, .emulated inner.state, inner.events, inner.notices⟩ := by
  have alike (r : LinkRequest) (_ : True) (peer : Peer) (emulator : Emulator)
      (same : peer = .emulated emulator) :
      (Peer.machine r peer).1 = (machine r emulator).1 ∧
        (Peer.machine r peer).2 = .emulated (machine r emulator).2 := by
    subst same
    cases r <;> exact ⟨rfl, rfl⟩
  obtain ⟨value, state, events, notices⟩ :=
    Dialogue.run_related (fun peer emulator => peer = Peer.emulated emulator) alike
      (d.asks_any fun _ => trivial) (.emulated emulator) emulator rfl
  rcases ran : d.run Peer.machine (.emulated emulator) with ⟨_, _, _, _⟩
  rw [ran] at value state events notices
  subst value state events notices
  rfl

/-- A transfer is struck while it is sent and then not processed, or else it is processed. -/
theorem send_cases (emulator : Emulator) {data : Bytes} (nonempty : data ≠ []) :
    let function := emulator.functionOf data
    let fault := dueFault? emulator.faults function
    (fault ≠ none ∧ ∃ sent, sent ≠ .ok data.length ∧
      emulator.send data = (sent, { emulator.pass function with continues := false })) ∨
    emulator.send data =
      let processed := (emulator.pass function).process function data
      (.ok data.length, processed.2.queue processed.1 fault) := by
  have counted : data.length - 1 ≠ data.length := by
    have := List.length_pos_iff.mpr nonempty
    omega
  intro function fault
  cases due : fault with
  | none =>
    simp only [function, fault] at due ⊢
    simp only [send, due]
    exact .inr rfl
  | some kind =>
    simp only [function, fault] at due ⊢
    simp only [send, due]
    cases kind with
    | sendFails => exact .inl ⟨nofun, .error (.failed "injected"), nofun, rfl⟩
    | sendTimesOut => exact .inl ⟨nofun, .error .timeout, nofun, rfl⟩
    | sendIsShort =>
      exact .inl ⟨nofun, .ok (data.length - 1), fun same => counted (Except.ok.inj same), rfl⟩
    | replyIsShort | replyIsLong | replyIsDropped | replyTimesOut | replyFails => exact .inr rfl

theorem takeReply_spoil_empties (reply : Bytes) (fault : Option FaultKind) :
    (takeReply (spoil reply fault)).2 = [] := by
  cases fault with
  | none => rfl
  | some kind => cases kind <;> rfl

theorem takeReply_spoil {reply : Bytes} (nonempty : 0 < reply.length) (fault : Option FaultKind) :
    (takeReply (spoil reply fault)).1 = .ok reply ∨
      fault ≠ none ∧ ∀ other, (takeReply (spoil reply fault)).1 = .ok other →
        other.length ≠ reply.length := by
  have shorter : reply.dropLast.length ≠ reply.length := by
    rw [List.length_dropLast]
    omega
  have longer : (reply ++ [0]).length ≠ reply.length := by
    rw [List.length_append]
    exact Nat.succ_ne_self _
  cases fault with
  | none => exact .inl rfl
  | some kind =>
    cases kind with
    | sendFails | sendTimesOut | sendIsShort => exact .inl rfl
    | replyIsShort => exact .inr ⟨nofun, fun other same => Except.ok.inj same ▸ shorter⟩
    | replyIsLong => exact .inr ⟨nofun, fun other same => Except.ok.inj same ▸ longer⟩
    | replyIsDropped | replyTimesOut | replyFails => exact .inr ⟨nofun, nofun⟩

end Emulator

/-! ## Exchanges with the bridge -/

/-- How an exchange ends: well, with this value and this state, or else it was not calm, and the
state that is left is one of these. -/
inductive Ended {α : Type} (calm : Prop) (value : α) (after : Emulator) (Left : Emulator → Prop) :
    Except Error α × Emulator → Prop
  | well : Ended calm value after Left (.ok value, after)
  | broken (disturbed : ¬ calm) (error : Error) (emulator : Emulator) (left : Left emulator) :
    Ended calm value after Left (.error error, emulator)

section Ended

variable {α β : Type} {calm further : Prop} {value : α} {after last : Emulator}
  {Left Other : Emulator → Prop}

theorem Ended.weaken {result : Except Error α × Emulator}
    (ended : Ended calm value after Left result) (calmer : further → calm)
    (covers : ∀ emulator, Left emulator → Other emulator) :
    Ended further value after Other result := by
  cases ended with
  | well => exact .well
  | broken disturbed error emulator left =>
    exact .broken (fun is => disturbed (calmer is)) error emulator (covers emulator left)

theorem Ended.leaving {result : Except Error α × Emulator}
    (ended : Ended calm value after Left result)
    (covers : ∀ emulator, Left emulator → Other emulator) :
    Ended calm value after Other result :=
  ended.weaken id covers

theorem Ended.keeps {Kept : Emulator → Prop} {result : Except Error α × Emulator}
    (ended : Ended calm value after Left result) (well : Kept after)
    (left : ∀ emulator, Left emulator → Kept emulator) : Kept result.2 := by
  cases ended with
  | well => exact well
  | broken _ _ emulator reached => exact left emulator reached

theorem ended_pure (emulator : Emulator) (result : α) :
    Ended True result emulator Left
      ((pure result : Exchange α).run.answer Emulator.machine emulator) :=
  .well

theorem Ended.bind {exchange : Exchange α} {emulator : Emulator} {result : β}
    (first : Ended calm value after Left (exchange.run.answer Emulator.machine emulator))
    (next : α → Exchange β)
    (second : Ended further result last Left ((next value).run.answer Emulator.machine after)) :
    Ended (calm ∧ further) result last Left
      ((exchange >>= next).run.answer Emulator.machine emulator) := by
  rcases went : exchange.run.answer Emulator.machine emulator with ⟨outcome, middle⟩
  rw [went] at first
  cases first with
  | well =>
    rw [Dialogue.answer_bind_ok _ _ _ went]
    exact second.weaken And.right fun _ left => left
  | broken disturbed error _ left =>
    rw [Dialogue.answer_bind_error _ _ _ went]
    exact .broken (fun both => disturbed both.1) error middle left

end Ended

theorem sentWhole_refuses {what : String} {length : Nat} {sent : Except PipeFault Nat}
    (bad : sent ≠ .ok length) :
    ∃ error, sentWhole what length (sent.mapError PipeFault.toError) = .error error := by
  cases sent with
  | error fault => exact ⟨fault.toError, rfl⟩
  | ok count =>
    have apart : count ≠ length := fun same => bad (congrArg _ same)
    exact ⟨.shortTransfer what length count, if_neg apart⟩

theorem sendAll_ended (what : String) (complaint : Error → String) {emulator : Emulator}
    {data : Bytes} (nonempty : data ≠ []) {after : Emulator}
    (processed : (emulator.pass (emulator.functionOf data)).process (emulator.functionOf data)
      data = (none, after)) :
    Ended (dueFault? emulator.faults (emulator.functionOf data) = none) () after
      (fun left => left = { emulator.pass (emulator.functionOf data) with continues := false })
      ((sendAll what complaint data).run.answer Emulator.machine emulator) := by
  rcases emulator.send_cases nonempty with ⟨struck, sent, bad, sending⟩ | sending
  · have answered : Emulator.machine (.send data) emulator = (sent.mapError PipeFault.toError,
        { emulator.pass (emulator.functionOf data) with continues := false }) := by
      simp only [Emulator.machine, sending]
    obtain ⟨error, refused⟩ := @sentWhole_refuses what _ _ bad
    rw [Dialogue.answer_of_course (course_sendAll Emulator.machine what complaint data answered),
      refused]
    exact .broken struck error _ rfl
  · simp only [processed] at sending
    have answered : Emulator.machine (.send data) emulator = (.ok data.length, after) := by
      simp only [Emulator.machine, sending]
      rfl
    rw [Dialogue.answer_of_course (course_sendAll Emulator.machine what complaint data answered)]
    simp only [sentWhole, if_true]
    exact .well

/-- A question to a bridge that is in step is struck and not processed, or processed and answered by
what the fault makes of the reply. -/
theorem answer_ask {emulator after : Emulator} (inStep : emulator.InStep) {command : Command}
    {reply : Bytes}
    (processed : (emulator.pass command.function).process command.function command.frame =
      (some reply, after)) (staysInStep : after.InStep) (length : Nat) :
    let fault := dueFault? emulator.faults command.function
    let asked := (ask command length).answer Emulator.machine emulator
    (fault ≠ none ∧ ∃ error, asked = (⟨[], .error error⟩, emulator.pass command.function)) ∨
      asked = (receivedWhole command.name length
        ((takeReply (Emulator.spoil reply fault)).1.mapError PipeFault.toError), after) := by
  intro fault asked
  have nonempty : command.frame ≠ [] := by
    rw [← List.length_pos_iff, command.frame_length]
    decide
  have cases := emulator.send_cases nonempty
  rw [Emulator.functionOf_frame inStep.expectsFrame command] at cases
  rcases cases with ⟨struck, sent, bad, sending⟩ | sending
  · have same : { emulator.pass command.function with continues := false } =
        emulator.pass command.function := by
      rw [← (inStep.pass command.function).expectsFrame]
    have sends : Emulator.machine (.send command.frame) emulator =
        (sent.mapError PipeFault.toError, emulator.pass command.function) := by
      simp only [Emulator.machine, sending, same]
    obtain ⟨error, refused⟩ := @sentWhole_refuses command.name _ _ bad
    have course := course_ask_refused Emulator.machine command length sends refused
    exact .inl ⟨struck, error, Dialogue.answer_of_course course⟩
  · simp only [processed, Emulator.queue, staysInStep.noReply, List.nil_append] at sending
    have sends : Emulator.machine (.send command.frame) emulator =
        (.ok command.frame.length, { after with replies := Emulator.spoil reply fault }) := by
      simp only [Emulator.machine, sending]
      rfl
    have same : { after with replies := [] } = after := by
      rw [← staysInStep.noReply]
    have receives : Emulator.machine (.receive length)
        { after with replies := Emulator.spoil reply fault } =
          ((takeReply (Emulator.spoil reply fault)).1.mapError PipeFault.toError, after) := by
      simp only [Emulator.machine, Emulator.receive, Emulator.takeReply_spoil_empties, same]
    have course := course_ask_answered Emulator.machine command length sends receives
    exact .inr (Dialogue.answer_of_course course)

theorem answer_heard {σ : Type} (machine : Machine σ Link)
    (receiving : Dialogue Link (Received Error)) (state : σ) :
    (heard receiving).run.answer machine state =
      let received := receiving.answer machine state
      (received.1.outcome.map fun _ => received.1.bytes, received.2) :=
  Dialogue.answer_of_course (course_heard machine receiving state)

theorem ask_ended {emulator after : Emulator} (inStep : emulator.InStep) {command : Command}
    {reply : Bytes} (nonempty : 0 < reply.length)
    (processed : (emulator.pass command.function).process command.function command.frame =
      (some reply, after)) (staysInStep : after.InStep) :
    Ended (dueFault? emulator.faults command.function = none) reply after
      (fun left => left = emulator.pass command.function ∨ left = after)
      ((heard (ask command reply.length)).run.answer Emulator.machine emulator) := by
  rw [answer_heard]
  rcases answer_ask inStep processed staysInStep reply.length with ⟨struck, error, asked⟩ | asked
  · rw [asked]
    exact .broken struck error _ (.inl rfl)
  · rw [asked]
    have arrives := Emulator.takeReply_spoil nonempty (dueFault? emulator.faults command.function)
    generalize (takeReply (Emulator.spoil reply
      (dueFault? emulator.faults command.function))).1 = got at arrives ⊢
    rcases arrives with rfl | ⟨struck, other⟩
    · have whole : receivedWhole command.name reply.length
          ((Except.ok reply : QueuedReply).mapError PipeFault.toError) = ⟨reply, .ok ()⟩ :=
        if_pos rfl
      rw [whole]
      exact .well
    · cases got with
      | error fault => exact .broken struck fault.toError after (.inr rfl)
      | ok bytes =>
        have apart : receivedWhole command.name reply.length
            ((Except.ok bytes : QueuedReply).mapError PipeFault.toError) =
              ⟨bytes.take reply.length,
                .error (.shortTransfer command.name reply.length bytes.length)⟩ :=
          if_neg (other bytes rfl)
        rw [apart]
        exact .broken struck _ after (.inr rfl)

end SpiProgrammer.Bridge
