import SpiProgrammer.Proofs.Bridge.SelectLine
import SpiProgrammer.Proofs.Dialogue.Watching

/-! # What goes out as a frame

What is sent is a frame, unless it follows the announcement of more data than the frame itself
carries, when that went out whole.  A dialogue on the link is `Quiet` if it never sends the frame
that closes the bridge and leaves nothing announced.  Every request but closing is quiet, and so
is a transaction, however often and wherever it fails. -/
set_option autoImplicit false

namespace SpiProgrammer.Bridge

/-- Bytes that were to be sent, and whether they were reported sent as a whole. -/
structure Sending where
  bytes : Bytes
  whole : Bool

def Link.sending? : Link.Event → Option Sending
  | ⟨.send bytes, .ok count⟩ => some ⟨bytes, count == bytes.length⟩
  | ⟨.send bytes, .error _⟩ => some ⟨bytes, false⟩
  | ⟨.receive _, _⟩ => none

/-- What is sent next is data. -/
def Sending.announces (sending : Sending) : Bool :=
  sending.whole && announcesMore sending.bytes

/-- The frames among what was sent; `continues` says that data are still to come. -/
def frames : (continues : Bool) → List Sending → List Bytes
  | _, [] => []
  | true, _ :: rest => frames false rest
  | false, sending :: rest => sending.bytes :: frames sending.announces rest

/-- Any frame may be sent but the one that closes the bridge. -/
def stayOpen? (continues : Bool) (sending : Sending) : Option Bool :=
  if continues then some false
  else if sending.bytes = Command.close.frame then none
  else some sending.announces

theorem frames_of_stayOpen? {continues last : Bool} {sent : List Sending}
    (allowed : sent.foldlM stayOpen? continues = some last) :
    Command.close.frame ∉ frames continues sent ∧
      ∀ later, frames continues (sent ++ later) = frames continues sent ++ frames last later := by
  induction sent generalizing continues with
  | nil =>
    cases Option.some.inj allowed
    cases last <;> exact ⟨nofun, fun later => rfl⟩
  | cons sending rest ih =>
    rw [List.foldlM_cons] at allowed
    obtain ⟨next, step, allowed⟩ := Option.bind_eq_some_iff.mp allowed
    obtain ⟨never, joins⟩ := ih allowed
    cases continues with
    | true =>
      cases Option.some.inj step
      exact ⟨never, joins⟩
    | false =>
      by_cases closes : sending.bytes = Command.close.frame
      · simp [stayOpen?, closes] at step
      · simp only [stayOpen?, if_neg closes] at step
        cases Option.some.inj step
        exact ⟨List.not_mem_cons_of_ne_of_not_mem (Ne.symm closes) never,
          fun later => congrArg _ (joins later)⟩

/-! ## One transfer -/

section Transfers

variable {α φ : Type} {next? : φ → Sending → Option φ} {phase : φ} {after : Bool → φ}

/-- One transfer out led here; it is a success exactly if it went out whole. -/
def Sent (after : Bool → φ) : Except Error α → φ → Prop
  | .ok _, last => last = after true
  | .error _, last => last = after false

theorem sendAll_obeys {what : String} {complaint : Error → String} {bytes : Bytes}
    (allowed : ∀ whole, next? phase ⟨bytes, whole⟩ = some (after whole)) :
    (sendAll what complaint bytes).run.Obeys (.seeing Link.sending? next?) (Sent after) phase := by
  rintro (error | count)
  · exact ⟨_, allowed false, rfl⟩
  · refine ⟨_, allowed (count == bytes.length), ?_⟩
    show (if count ≠ bytes.length then throw (.shortTransfer what bytes.length count)
      else pure () : Exchange Unit).run.Obeys _ (Sent after) _
    by_cases whole : count = bytes.length
    · rw [if_neg (not_not_intro whole), beq_iff_eq.mpr whole]
      rfl
    · rw [if_pos whole, beq_eq_false_iff_ne.mpr whole]
      rfl

theorem sendFrame_obeys {command : Command}
    (allowed : ∀ whole, next? phase ⟨command.frame, whole⟩ = some (after whole)) :
    (sendFrame command).run.Obeys (.seeing Link.sending? next?) (Sent after) phase :=
  sendAll_obeys allowed

theorem receive_obeys (what : String) (length : Nat) :
    (receive what length).Obeys (.seeing Link.sending? next?) (fun _ last => last = phase)
      phase := by
  rintro (error | reply)
  · exact ⟨phase, rfl, rfl⟩
  · refine ⟨phase, rfl, ?_⟩
    show (if reply.length = length then pure ⟨reply, .ok ()⟩
      else pure ⟨reply.take length, .error (.shortTransfer what length reply.length)⟩ :
        Dialogue Link (Received Error)).Obeys _ _ phase
    split <;> rfl

theorem query_obeys {command : Command} {form : AnswerForm α}
    (allowed : ∀ whole, next? phase ⟨command.frame, whole⟩ = some (after whole)) :
    (query command form).run.Obeys (.seeing Link.sending? next?)
      (fun _ last => ∃ whole, last = after whole) phase := by
  unfold query
  refine (sendFrame_obeys allowed).step (fun _ _ sent => ⟨false, sent⟩) ?_
  rintro _ last rfl
  refine Dialogue.obeys_lift ((receive_obeys command.name form.length).imp ?_)
  rintro ⟨bytes, outcome⟩ _ rfl
  cases outcome <;> exact ⟨true, rfl⟩

end Transfers

/-! ## Dialogues that leave the bridge open -/

/-- Objects to the frame that closes the bridge. -/
def stayOpen : Watch Bool Link :=
  .seeing Link.sending? stayOpen?

/-- From one frame to another, the bridge is not closed. -/
def Quiet {α : Type} (d : Dialogue Link α) : Prop :=
  d.Obeys stayOpen (fun _ continues => continues = false) false

section Quiet

variable {α β : Type}

theorem Quiet.bind {d : Dialogue Link α} {f : α → Dialogue Link β} (first : Quiet d)
    (second : ∀ value, Quiet (f value)) : Quiet (d >>= f) := by
  refine Dialogue.obeys_bind (first.imp ?_)
  rintro value last rfl
  exact second value

theorem Quiet.noting {x : Exchange α} (quiet : Quiet x.run) (level : Log.Level) (text : String) :
    Quiet (do note level text; x : Exchange α).run :=
  quiet

theorem Quiet.andThen {x : Exchange α} {f : α → Exchange β} (first : Quiet x.run)
    (second : ∀ value, Quiet (f value).run) : Quiet (x >>= f).run := by
  refine Dialogue.Obeys.step first (fun _ _ same => same) ?_
  rintro value last rfl
  exact second value

theorem quiet_complaining {complaint : Error → String} {exchange : Exchange α}
    (quiet : Quiet exchange.run) : Quiet (complaining complaint exchange).run := by
  refine Quiet.bind quiet fun outcome => ?_
  cases outcome <;> rfl

/-- The command neither closes the bridge nor announces more data than its frame carries. -/
def Command.Plain (command : Command) : Prop :=
  command.function ≠ 0x01 ∧ command.function ≠ 0x21

theorem stayOpen?_frame {command : Command} (stays : command.function ≠ 0x01) (whole : Bool) :
    stayOpen? false ⟨command.frame, whole⟩ = some (whole && announcesMore command.frame) :=
  if_neg (Command.frame_ne stays)

theorem stayOpen?_plain {command : Command} (plain : command.Plain) (whole : Bool) :
    stayOpen? false ⟨command.frame, whole⟩ = some false := by
  rw [stayOpen?_frame plain.1, announcesMore_other plain.2, Bool.and_false]

theorem stayOpen?_write {data : Bytes} (fits : data.length ≤ transferMax) (whole : Bool) :
    stayOpen? false ⟨(Command.write (.ofNat data.length) (data.take leadingMax)).frame, whole⟩ =
      some (whole && decide (leadingMax < data.length)) := by
  have stays : (Command.write (.ofNat data.length) (data.take leadingMax)).function ≠ 0x01 := by
    show 0x21 ≠ 0x01
    decide
  rw [stayOpen?_frame stays, announcesMore_write fits]

theorem plain_setSelect (level : SelectLevel) : (Command.setSelect level).Plain :=
  ⟨show 0x23 ≠ 0x01 by decide, show 0x23 ≠ 0x21 by decide⟩

theorem plain_read (length : UInt16) : (Command.read length).Plain :=
  ⟨show 0x22 ≠ 0x01 by decide, show 0x22 ≠ 0x21 by decide⟩

theorem plain_configure (settings : Settings) : (Command.configure settings).Plain :=
  ⟨show 0x20 ≠ 0x01 by decide, show 0x20 ≠ 0x21 by decide⟩

theorem plain_getStatus : Command.getStatus.Plain := ⟨by decide, by decide⟩

theorem plain_getVersion : Command.getVersion.Plain := ⟨by decide, by decide⟩

theorem plain_getClock : Command.getClock.Plain := ⟨by decide, by decide⟩

theorem sendFrame_quiet {command : Command} (plain : command.Plain) :
    Quiet (sendFrame command).run := by
  refine (sendFrame_obeys (stayOpen?_plain plain)).imp ?_
  rintro (error | _) last sent <;> exact sent

theorem query_quiet {command : Command} {form : AnswerForm α} (plain : command.Plain) :
    Quiet (query command form).run :=
  (query_obeys (stayOpen?_plain plain)).imp fun _ _ sent => sent.elim fun _ same => same

theorem receive_quiet (what : String) (length : Nat) : Quiet (receive what length) :=
  receive_obeys what length

theorem setSelect_quiet (level : SelectLevel) : Quiet (setSelect level).run :=
  quiet_complaining (query_quiet (plain_setSelect level))

theorem checkStatus_quiet : Quiet checkStatus.run := by
  unfold checkStatus lastStatus
  refine Quiet.andThen ?_ fun status => ?_
  · exact (query_quiet plain_getStatus).andThen fun _ => rfl
  · split <;> rfl

theorem write_quiet (data : Bytes) : Quiet (write data).run := by
  unfold write
  by_cases long : transferMax < data.length
  · rw [if_pos long]
    rfl
  rw [if_neg long]
  refine (sendFrame_obeys (stayOpen?_write (Nat.le_of_not_lt long))).step ?_ ?_
  · rintro error last rfl
    rfl
  · -- the frame went out whole, so what it does not carry is announced and follows
    rintro _ last rfl
    by_cases more : leadingMax < data.length
    · rw [if_pos more, decide_eq_true more]
      have sent := @sendAll_obeys _ stayOpen? true (fun _ => false) "write SPI data"
        (fun error => "Failed to send write SPI data: " ++ error.message)
        (data.drop leadingMax) fun _ => rfl
      exact sent.imp fun outcome _ led => by cases outcome <;> exact led
    · rw [if_neg more, decide_eq_false more]
      rfl

theorem read_quiet (length : Nat) : Quiet (read length) := by
  unfold read
  by_cases long : transferMax < length
  · rw [if_pos long]
    rfl
  rw [if_neg long]
  refine (sendFrame_quiet (plain_read _)).bind ?_
  rintro (error | _)
  · rfl
  · exact receive_quiet _ length

/-! ### Transactions -/

theorem andThen_quiet (received : Received Error) {next : Exchange Unit} (quiet : Quiet next.run) :
    Quiet (Bridge.andThen received next) := by
  unfold Bridge.andThen
  split
  · rfl
  · exact quiet.bind fun _ => rfl

theorem abandon_quiet : Quiet abandon := by
  refine (setSelect_quiet .high).bind ?_
  rintro (error | _) <;> rfl

theorem exchangeSelected_quiet (data : Bytes) (length : Nat) :
    Quiet (exchangeSelected data length) := by
  unfold exchangeSelected
  refine (Quiet.andThen (write_quiet data) fun _ => checkStatus_quiet).bind ?_
  rintro (error | _)
  · rfl
  · refine Quiet.bind ?_ fun received => andThen_quiet received checkStatus_quiet
    unfold readSome
    split
    · rfl
    · exact read_quiet length

theorem transact_quiet (data : Bytes) (length : Nat) : Quiet (transact data length) := by
  unfold transact
  split
  · rfl
  split
  · rfl
  refine (setSelect_quiet .low).bind ?_
  rintro (error | _)
  · rfl
  · refine (exchangeSelected_quiet data length).bind fun received => ?_
    split
    · exact andThen_quiet received (setSelect_quiet .high)
    · exact abandon_quiet.bind fun _ => rfl

end Quiet

end SpiProgrammer.Bridge
