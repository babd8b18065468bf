import SpiProgrammer.Proofs.Bridge.Emulated
import SpiProgrammer.Proofs.Flash.Cycle

/-! # Transactions as cycles of the chip

On the emulated bridge a transaction is one cycle of the chip, whatever an earlier one has left
pending.  Main statement: a transaction leaves the bridge in step; if nothing disturbs it the
chip has gone through the cycle with all that was sent, and what the cycle reads is handed over;
if it fails the chip has gone through a cycle with a first part of it. -/
set_option autoImplicit false

namespace SpiProgrammer.Bridge

open Flash (Chip)

/-- No fault strikes the next transfers, given by their functions. -/
def spared (faults : List Fault) : List Nat → Prop
  | [] => True
  | function :: rest => dueFault? faults function = none ∧ spared (passTurn faults function) rest

theorem spared_append (faults : List Fault) (first later : List Nat) :
    spared faults (first ++ later) ↔
      spared faults first ∧ spared (first.foldl passTurn faults) later := by
  induction first generalizing faults with
  | nil => simp [spared]
  | cons function rest ih => simp only [List.cons_append, spared, ih, List.foldl_cons, and_assoc]

namespace Emulator

/-- Nothing disturbs the next transfers, given by their functions, of which as many as are counted
ask for the status. -/
structure Calm (emulator : Emulator) (functions : List Nat) (looks : Nat) : Prop where
  undisturbed : spared emulator.faults functions
  successes : ∀ status ∈ emulator.statuses.take looks, status = 0

/-- The bridge with the turns of these functions passed, and as many statuses told. -/
def spend (emulator : Emulator) (functions : List Nat) (looks : Nat) : Emulator :=
  { emulator with
    faults := functions.foldl passTurn emulator.faults
    statuses := emulator.statuses.drop looks }

end Emulator

section Requests

variable {emulator : Emulator}

theorem answer_complaining {α σ : Type} (machine : Machine σ Link) (complaint : Error → String)
    (exchange : Exchange α) (state : σ) :
    (complaining complaint exchange).run.answer machine state =
      exchange.run.answer machine state :=
  Dialogue.answer_of_course (course_complaining machine complaint exchange state)

theorem query_ended {α : Type} (inStep : emulator.InStep) (command : Command)
    (form : AnswerForm α) {reply : Bytes} {after : Emulator} (filled : reply.length = form.length)
    (nonempty : 0 < form.length)
    (processed : (emulator.pass command.function).process command.function command.frame =
      (some reply, after)) (staysInStep : after.InStep) :
    Ended (dueFault? emulator.faults command.function = none) (form.meaning reply) after
      (fun left => left = emulator.pass command.function ∨ left = after)
      ((query command form).run.answer Emulator.machine emulator) := by
  have asked := ask_ended inStep (by omega) processed staysInStep
  rw [filled] at asked
  rw [query_eq_ask]
  exact (asked.bind _ (ended_pure after (form.meaning reply))).weaken (fun calm => ⟨calm, trivial⟩)
    fun _ left => left

theorem Emulator.InStep.driven (inStep : emulator.InStep) (level : SelectLevel) :
    (emulator.driven level).InStep := by
  cases level <;> exact ⟨inStep.noReply, inStep.expectsFrame⟩

theorem Emulator.InStep.expecting (inStep : emulator.InStep) :
    { emulator with continues := false } = emulator := by
  rw [← inStep.expectsFrame]

theorem Emulator.InStep.spend (inStep : emulator.InStep) (functions : List Nat) (looks : Nat) :
    (emulator.spend functions looks).InStep :=
  ⟨inStep.noReply, inStep.expectsFrame⟩

theorem setSelect_ended (inStep : emulator.InStep) (level : SelectLevel) :
    Ended (emulator.Calm [0x23] 0) () ((emulator.spend [0x23] 0).driven level)
      (fun left => left = emulator.spend [0x23] 0 ∨
        left = (emulator.spend [0x23] 0).driven level)
      ((setSelect level).run.answer Emulator.machine emulator) := by
  have spent : (emulator.spend [0x23] 0).InStep := inStep.spend [0x23] 0
  have processed := (emulator.spend [0x23] 0).process_setSelect level
  rw [spent.expecting] at processed
  rw [setSelect, answer_complaining]
  have asked := query_ended inStep (.setSelect level) acknowledgement rfl (by decide) processed
    (spent.driven level)
  exact asked.weaken (fun calm => calm.undisturbed.1) fun _ left => left

theorem checkStatus_ended (inStep : emulator.InStep) :
    Ended (emulator.Calm [0x02] 1) () (emulator.spend [0x02] 1)
      (fun left => left = emulator.spend [0x02] 0 ∨ left = emulator.spend [0x02] 1)
      (checkStatus.run.answer Emulator.machine emulator) := by
  have spent : (emulator.spend [0x02] 1).InStep := inStep.spend [0x02] 1
  have processed : (emulator.pass 0x02).process 0x02 Command.getStatus.frame =
      (some (Emulator.answerHead ++ Bytes.ofUInt32LE (emulator.statuses.headD 0)),
        emulator.spend [0x02] 1) := by
    rw [Emulator.process_getStatus, ← spent.expecting]
    simp only [Emulator.spend, List.drop_one]
    rfl
  have asked := query_ended inStep .getStatus TransferStatus.form rfl (by decide) processed spent
  have looked := asked.bind (fun status => pure status.code) (ended_pure _ _)
  rw [TransferStatus.code_answer] at looked
  have judged : Ended (emulator.statuses.headD 0 = 0) () (emulator.spend [0x02] 1)
      (fun left => left = emulator.spend [0x02] 0 ∨ left = emulator.spend [0x02] 1)
      ((unless emulator.statuses.headD 0 = 0 do
        note .error ("SPI read/write failure: " ++ toString (emulator.statuses.headD 0).toNat)
        throw (.status (emulator.statuses.headD 0)) : Exchange Unit).run.answer
          Emulator.machine (emulator.spend [0x02] 1)) := by
    by_cases success : emulator.statuses.headD 0 = 0
    · rw [if_pos success]
      exact .well
    · rw [if_neg success]
      exact .broken success (.status _) _ (.inr rfl)
  refine (looked.bind _ judged).weaken (fun calm => ⟨⟨calm.undisturbed.1, trivial⟩, ?_⟩)
    fun _ left => left
  have successes := calm.successes
  cases told : emulator.statuses with
  | nil => rfl
  | cons status rest => exact successes status (by simp [told])

/-- The functions of the transfers that write. -/
def writeFunctions (data : Bytes) : List Nat :=
  0x21 :: if leadingMax < data.length then [Emulator.continuation] else []

/-- The bridge in step during a transaction: a first part of the data is pending for the chip, or
the chip has gone through its cycle and nothing is pending. -/
inductive Underway (chip : Chip) (data : Bytes) (length : Nat) (emulator : Emulator) : Prop
  | pending (inStep : emulator.InStep) (same : emulator.chip = chip) (count : Nat)
    (front : emulator.pending = data.take count)
  | finished (inStep : emulator.InStep) (done : emulator.chip = (chip.transfer data length).2)
    (nothing : emulator.pending = [])

theorem sendFrame_ended (inStep : emulator.InStep) (command : Command) {after : Emulator}
    (processed : (emulator.pass command.function).process command.function command.frame =
      (none, after)) :
    Ended (dueFault? emulator.faults command.function = none) () after
      (fun left => left = emulator.pass command.function)
      ((sendFrame command).run.answer Emulator.machine emulator) := by
  have nonempty : command.frame ≠ [] := by
    rw [← List.length_pos_iff, command.frame_length]
    decide
  have counted := Emulator.functionOf_frame inStep.expectsFrame command
  rw [← counted] at processed
  have sent := sendAll_ended command.name
    (fun error => "Failed to issue the " ++ command.name ++ " command: " ++ error.message)
    nonempty processed
  rw [counted, (inStep.pass command.function).expecting] at sent
  unfold sendFrame
  rw [ExceptT.run_bind, Dialogue.answer_bind]
  exact sent

/-- The bridge once a write has been announced. -/
def Emulator.announced (emulator : Emulator) (data : Bytes) : Emulator :=
  { emulator.pass 0x21 with
    continues := decide (leadingMax < data.length)
    pending := data.take leadingMax }

theorem announce_ended (inStep : emulator.InStep) (empty : emulator.pending = []) {data : Bytes}
    (fits : data.length ≤ transferMax) (length : Nat) :
    Ended (dueFault? emulator.faults 0x21 = none) () (emulator.announced data)
      (Underway emulator.chip data length)
      ((sendFrame (.write (.ofNat data.length) (data.take leadingMax))).run.answer
        Emulator.machine emulator) := by
  have processed := (emulator.pass 0x21).process_write fits
  have nothing : (emulator.pass 0x21).pending = [] := empty
  rw [nothing, List.nil_append] at processed
  have unheard : Underway emulator.chip data length (emulator.pass 0x21) :=
    .pending (inStep.pass 0x21) rfl 0 empty
  have sent := sendFrame_ended inStep (.write (.ofNat data.length) (data.take leadingMax)) processed
  exact sent.leaving fun left same => same ▸ unheard

theorem rest_ended (inStep : emulator.InStep) {data : Bytes} (long : leadingMax < data.length)
    (length : Nat) :
    Ended (dueFault? (emulator.announced data).faults Emulator.continuation = none) ()
      { emulator.spend [0x21, Emulator.continuation] 0 with pending := data }
      (Underway emulator.chip data length)
      ((sendRaw "write SPI data" (data.drop leadingMax)).run.answer Emulator.machine
        (emulator.announced data)) := by
  have nonempty : data.drop leadingMax ≠ [] := by
    rw [← List.length_pos_iff, List.length_drop]
    omega
  -- even data that look like a frame are taken for the rest
  have counted : (emulator.announced data).functionOf (data.drop leadingMax) =
      Emulator.continuation := by
    simp [Emulator.functionOf, Emulator.announced, long]
  have processed := ((emulator.announced data).pass Emulator.continuation).process_continuation
    (data.drop leadingMax)
  have whole : ((emulator.announced data).pass Emulator.continuation).pending ++
      data.drop leadingMax = data := List.take_append_drop leadingMax data
  rw [whole] at processed
  rw [← counted] at processed
  have sent := sendAll_ended "write SPI data"
    (fun error => "Failed to send " ++ "write SPI data" ++ ": " ++ error.message) nonempty processed
  rw [counted] at sent
  have unheard : Underway emulator.chip data length
      { (emulator.announced data).pass Emulator.continuation with continues := false } :=
    .pending ⟨inStep.noReply, rfl⟩ rfl leadingMax rfl
  have quiet : emulator.continues = false := inStep.expectsFrame
  simp only [Emulator.spend, quiet]
  exact sent.leaving fun left same => same ▸ unheard

theorem write_ended (inStep : emulator.InStep) (empty : emulator.pending = []) {data : Bytes}
    (fits : data.length ≤ transferMax) (length : Nat) :
    Ended (emulator.Calm (writeFunctions data) 0) ()
      { emulator.spend (writeFunctions data) 0 with pending := data }
      (Underway emulator.chip data length) ((write data).run.answer Emulator.machine emulator) := by
  have announcing : write data = (do
      sendFrame (.write (.ofNat data.length) (data.take leadingMax))
      if leadingMax < data.length then sendRaw "write SPI data" (data.drop leadingMax)) := by
    unfold write
    rw [if_neg (by omega)]
  have announced := announce_ended inStep empty fits length
  rw [announcing]
  by_cases long : leadingMax < data.length
  · have both := announced.bind (fun _ => sendRaw "write SPI data" (data.drop leadingMax))
      (rest_ended inStep long length)
    rw [if_pos long, writeFunctions, if_pos long]
    exact both.weaken (fun calm => ⟨calm.undisturbed.1, calm.undisturbed.2.1⟩) fun _ left => left
  · have short : emulator.announced data = { emulator.spend [0x21] 0 with pending := data } := by
      have quiet : emulator.continues = false := inStep.expectsFrame
      have all : data.take leadingMax = data := List.take_of_length_le (Nat.le_of_not_lt long)
      simp only [Emulator.announced, Emulator.spend, all, decide_eq_false long, quiet]
      rfl
    have both := announced.bind (fun _ => pure ()) (ended_pure (emulator.announced data) ())
    rw [short] at both
    rw [if_neg long, writeFunctions, if_neg long]
    exact both.weaken (fun calm => ⟨calm.undisturbed.1, trivial⟩) fun _ left => left

def readFunctions (length : Nat) : List Nat :=
  if length = 0 then [] else [0x22]

/-- The bridge once all of the data has been written and what there is to read has been read. -/
def Emulator.exchanged (emulator : Emulator) (data : Bytes) (length : Nat) : Emulator :=
  if length = 0 then { emulator with pending := data }
  else { emulator with chip := (emulator.chip.transfer data length).2, pending := [] }

theorem readSome_ended (inStep : emulator.InStep) {data : Bytes} (all : emulator.pending = data)
    {length : Nat} (fits : length ≤ transferMax) :
    Ended (emulator.Calm (readFunctions length) 0) (emulator.chip.transfer data length).1
      ((emulator.spend (readFunctions length) 0).exchanged data length)
      (Underway emulator.chip data length)
      ((heard (readSome length)).run.answer Emulator.machine emulator) := by
  subst all
  unfold readSome readFunctions
  by_cases nothing : length = 0
  · subst nothing
    have silent : (emulator.chip.transfer emulator.pending 0).1 = [] :=
      List.eq_nil_of_length_eq_zero (emulator.chip.length_transfer emulator.pending 0)
    rw [silent]
    exact .well
  · rw [if_neg nothing, if_neg nothing]
    have filled : (emulator.chip.transfer emulator.pending length).1.length = length :=
      emulator.chip.length_transfer emulator.pending length
    have processed := (emulator.pass 0x22).process_read fits
    have quiet : emulator.continues = false := inStep.expectsFrame
    have asked := @ask_ended emulator _ inStep (.read (.ofNat length))
      (emulator.chip.transfer emulator.pending length).1 (by omega) processed ⟨inStep.noReply, rfl⟩
    rw [filled] at asked
    have unheard : Underway emulator.chip emulator.pending length (emulator.pass 0x22) :=
      .pending (inStep.pass 0x22) rfl emulator.pending.length (List.take_length).symm
    have unseen : Underway emulator.chip emulator.pending length
        { emulator.pass 0x22 with
          continues := false
          chip := (emulator.chip.transfer emulator.pending length).2
          pending := [] } := .finished ⟨inStep.noReply, rfl⟩ rfl rfl
    simp only [Emulator.exchanged, if_neg nothing, Emulator.spend, quiet]
    rw [read_eq_ask fits]
    refine asked.weaken (fun calm => calm.undisturbed.1) fun left => ?_
    rintro (rfl | rfl)
    · exact unheard
    · exact unseen

theorem Emulator.Calm.split {first later : List Nat} {looks more : Nat}
    (calm : emulator.Calm (first ++ later) (looks + more)) :
    emulator.Calm first looks ∧ (emulator.spend first looks).Calm later more := by
  obtain ⟨undisturbed, successes⟩ := calm
  rw [spared_append] at undisturbed
  rw [List.take_add] at successes
  refine ⟨⟨undisturbed.1, fun status told => ?_⟩, undisturbed.2, fun status told => ?_⟩
  · exact successes status (List.mem_append_left _ told)
  · exact successes status (List.mem_append_right _ told)

theorem Emulator.spend_spend (first later : List Nat) (looks more : Nat) :
    (emulator.spend first looks).spend later more =
      emulator.spend (first ++ later) (looks + more) := by
  simp only [Emulator.spend, List.foldl_append, List.drop_drop]

def selectedFunctions (data : Bytes) (length : Nat) : List Nat :=
  writeFunctions data ++ ([0x02] ++ (readFunctions length ++ [0x02]))

theorem Emulator.exchanged_spend (data : Bytes) (length : Nat) (functions : List Nat)
    (looks : Nat) :
    (emulator.exchanged data length).spend functions looks =
      (emulator.spend functions looks).exchanged data length := by
  unfold Emulator.exchanged
  split <;> rfl

theorem Underway.spend {chip : Chip} {data : Bytes} {length : Nat}
    (underway : Underway chip data length emulator) (functions : List Nat) (looks : Nat) :
    Underway chip data length (emulator.spend functions looks) := by
  cases underway with
  | pending inStep same count front =>
    exact .pending (inStep.spend functions looks) same count front
  | finished inStep done nothing =>
    exact .finished (inStep.spend functions looks) done nothing

theorem Underway.exchanged (inStep : emulator.InStep) (data : Bytes) (length : Nat) :
    Underway emulator.chip data length (emulator.exchanged data length) := by
  unfold Emulator.exchanged
  split
  · exact .pending ⟨inStep.noReply, inStep.expectsFrame⟩ rfl data.length List.take_length.symm
  · exact .finished ⟨inStep.noReply, inStep.expectsFrame⟩ rfl rfl

theorem Underway.inStep {chip : Chip} {data : Bytes} {length : Nat}
    (underway : Underway chip data length emulator) : emulator.InStep := by
  cases underway with
  | pending inStep => exact inStep
  | finished inStep => exact inStep

theorem checkStatus_underway {chip : Chip} {data : Bytes} {length : Nat}
    (underway : Underway chip data length emulator) :
    Ended (emulator.Calm [0x02] 1) () (emulator.spend [0x02] 1) (Underway chip data length)
      (checkStatus.run.answer Emulator.machine emulator) := by
  refine (checkStatus_ended underway.inStep).leaving fun left => ?_
  rintro (rfl | rfl)
  · exact underway.spend [0x02] 0
  · exact underway.spend [0x02] 1

theorem exchangeSelected_ended (inStep : emulator.InStep) (empty : emulator.pending = [])
    {data : Bytes} {length : Nat} (fits : data.length ≤ transferMax)
    (readFits : length ≤ transferMax) :
    Ended (emulator.Calm (selectedFunctions data length) 2) (emulator.chip.transfer data length).1
      ((emulator.spend (selectedFunctions data length) 2).exchanged data length)
      (Underway emulator.chip data length)
      ((heard (exchangeSelected data length)).run.answer Emulator.machine emulator) := by
  let written : Emulator := { emulator.spend (writeFunctions data) 0 with pending := data }
  let looked : Emulator := written.spend [0x02] 1
  let heardOf : Emulator := (looked.spend (readFunctions length) 0).exchanged data length
  have writtenInStep : written.InStep := ⟨inStep.noReply, inStep.expectsFrame⟩
  have lookedInStep : looked.InStep := writtenInStep.spend [0x02] 1
  have full : Underway emulator.chip data length written :=
    .pending writtenInStep rfl data.length List.take_length.symm
  have wrote := write_ended inStep empty fits length
  have saw : Ended (written.Calm [0x02] 1) () looked (Underway emulator.chip data length)
      (checkStatus.run.answer Emulator.machine written) := checkStatus_underway full
  have read : Ended (looked.Calm (readFunctions length) 0) (emulator.chip.transfer data length).1
      heardOf (Underway emulator.chip data length)
      ((heard (readSome length)).run.answer Emulator.machine looked) :=
    readSome_ended lookedInStep rfl readFits
  have sawAgain : Ended (heardOf.Calm [0x02] 1) () (heardOf.spend [0x02] 1)
      (Underway emulator.chip data length) (checkStatus.run.answer Emulator.machine heardOf) :=
    checkStatus_underway
      (Underway.exchanged (lookedInStep.spend (readFunctions length) 0) data length)
  have last := sawAgain.bind (fun _ => pure (emulator.chip.transfer data length).1)
    (ended_pure _ _)
  have after : (emulator.spend (selectedFunctions data length) 2).exchanged data length =
      heardOf.spend [0x02] 1 := by
    have spent : emulator.spend (selectedFunctions data length) 2 =
        (((emulator.spend (writeFunctions data) 0).spend [0x02] 1).spend
          (readFunctions length) 0).spend [0x02] 1 := by
      simp only [Emulator.spend_spend, selectedFunctions, List.append_assoc]
    rw [spent, ← Emulator.exchanged_spend]
    simp only [heardOf, looked, written, Emulator.exchanged]
    split <;> rfl
  rw [heard_exchangeSelected, after]
  have whole := wrote.bind (fun _ => do
    checkStatus
    let bytes ← heard (readSome length)
    checkStatus
    return bytes) (saw.bind _ (read.bind _ last))
  refine whole.weaken (fun calm => ?_) fun _ left => left
  -- each part is calm since its transfers are a segment of all that are
  have parts : emulator.Calm (writeFunctions data ++ ([0x02] ++ (readFunctions length ++ [0x02])))
      (0 + (1 + (0 + 1))) := calm
  obtain ⟨writes, calm⟩ := parts.split
  obtain ⟨looks, calm⟩ := calm.split
  obtain ⟨reads, looksAgain⟩ := calm.split
  have looksLast : heardOf.Calm [0x02] 1 := by
    simp only [heardOf, Emulator.exchanged]
    split <;> exact ⟨looksAgain.undisturbed, looksAgain.successes⟩
  exact ⟨writes, ⟨looks.undisturbed, looks.successes⟩, ⟨reads.undisturbed, reads.successes⟩,
    looksLast, trivial⟩

end Requests

/-! ## Transactions -/

/-- The bridge in step once the chip has gone through a cycle with a first part of the data. -/
structure BrokenOff (chip : Chip) (data : Bytes) (emulator : Emulator) : Prop where
  inStep : emulator.InStep
  cycle : ∃ count length, emulator.chip = (chip.transfer (data.take count) length).2

section Transactions

variable {emulator : Emulator} {chip : Chip} {data : Bytes} {length : Nat}

theorem Underway.brokenOff (underway : Underway chip data length emulator) :
    BrokenOff chip data emulator := by
  cases underway with
  | pending inStep same count front =>
    exact ⟨inStep, 0, 0, same.trans (chip.transfer_nothing 0).symm⟩
  | finished inStep done nothing =>
    exact ⟨inStep, data.length, length, by rw [List.take_length, done]⟩

theorem Underway.brokenOff_driven (underway : Underway chip data length emulator) :
    BrokenOff chip data (emulator.driven .high) := by
  refine ⟨underway.inStep.driven .high, ?_⟩
  cases underway with
  | pending inStep same count front =>
    exact ⟨count, 0, by rw [← same, ← front]; rfl⟩
  | finished inStep done nothing =>
    refine ⟨data.length, length, ?_⟩
    rw [List.take_length, ← done]
    simp only [Emulator.driven, nothing, Chip.transfer_nothing]

theorem release_ended (underway : Underway chip data length emulator) :
    Ended (emulator.Calm [0x23] 0) () ((emulator.spend [0x23] 0).driven .high)
      (BrokenOff chip data) (release.run.answer Emulator.machine emulator) := by
  have spent := underway.spend [0x23] 0
  refine (setSelect_ended underway.inStep .high).leaving fun left => ?_
  rintro (rfl | rfl)
  · exact spent.brokenOff
  · exact spent.brokenOff_driven

theorem answer_abandon {σ : Type} (machine : Machine σ Link) (state : σ) :
    abandon.answer machine state = ((), (release.run.answer machine state).2) := by
  unfold abandon
  rw [Dialogue.answer_bind]
  cases (release.run.answer machine state).1 <;> rfl

def transactionFunctions (data : Bytes) (length : Nat) : List Nat :=
  [0x23] ++ (selectedFunctions data length ++ [0x23])

def Emulator.cycled (emulator : Emulator) (data : Bytes) (length : Nat) : Emulator :=
  { emulator with chip := (emulator.chip.transfer data length).2, pending := [] }

theorem Emulator.driven_exchanged (emulator : Emulator) (data : Bytes) (length : Nat) :
    (emulator.exchanged data length).driven .high = emulator.cycled data length := by
  unfold Emulator.exchanged
  by_cases nothing : length = 0
  · rw [if_pos nothing, nothing]
    rfl
  · rw [if_neg nothing]
    rfl

theorem Emulator.Calm.exchanged {functions : List Nat} {looks : Nat}
    (calm : emulator.Calm functions looks) (data : Bytes) (length : Nat) :
    (emulator.exchanged data length).Calm functions looks := by
  unfold Emulator.exchanged
  split <;> exact ⟨calm.undisturbed, calm.successes⟩

theorem closing_ended (inStep : emulator.InStep) (empty : emulator.pending = [])
    (fits : data.length ≤ transferMax) (readFits : length ≤ transferMax) :
    Ended (emulator.Calm (selectedFunctions data length ++ [0x23]) 2)
      (emulator.chip.transfer data length).1
      ((emulator.spend (selectedFunctions data length ++ [0x23]) 2).cycled data length)
      (BrokenOff emulator.chip data)
      ((heard (exchangeSelected data length >>= closing)).run.answer Emulator.machine
        emulator) := by
  have exchanged := exchangeSelected_ended inStep empty fits readFits
  rw [answer_heard] at exchanged
  rw [answer_heard, Dialogue.answer_bind]
  rcases went : (exchangeSelected data length).answer Emulator.machine emulator with
    ⟨⟨bytes, outcome⟩, middle⟩
  rw [went] at exchanged
  cases outcome with
  | ok _ =>
    simp only [Except.map] at exchanged
    cases exchanged with
    | well =>
      have spent := inStep.spend (selectedFunctions data length) 2
      have released := release_ended (Underway.exchanged spent data length)
      rw [Emulator.exchanged_spend, Emulator.spend_spend, Emulator.driven_exchanged] at released
      simp only [closing, andThen, Dialogue.answer_bind]
      rcases ends : release.run.answer Emulator.machine
        ((emulator.spend (selectedFunctions data length) 2).exchanged data length) with
        ⟨outcome, last⟩
      rw [ends] at released
      cases released with
      | well => exact .well
      | broken disturbed error _ left =>
        refine .broken (fun calm => disturbed ?_) error last left
        have parts : emulator.Calm (selectedFunctions data length ++ [0x23]) (2 + 0) := calm
        exact parts.split.2.exchanged data length
  | error error =>
    simp only [Except.map] at exchanged
    cases exchanged with
    | broken disturbed _ _ left =>
      simp only [closing, Dialogue.answer_bind, answer_abandon]
      have parted (calm : emulator.Calm (selectedFunctions data length ++ [0x23]) (2 + 0)) :
          False := disturbed calm.split.1
      refine .broken parted error _ ?_
      have released := release_ended left
      rcases ends : release.run.answer Emulator.machine middle with ⟨outcome, last⟩
      rw [ends] at released
      cases released with
      | well => exact (left.spend [0x23] 0).brokenOff_driven
      | broken _ _ _ reached => exact reached

/-- A transaction on a bridge in step is one cycle of the chip, which reads what is handed over;
if the transaction fails it has been disturbed, and the cycle was that of a first part of what was
to be sent.  Either way the bridge stays in step. -/
theorem transact_ended (inStep : emulator.InStep) (fits : data.length ≤ transferMax)
    (readFits : length ≤ transferMax) :
    Ended (emulator.Calm (transactionFunctions data length) 2)
      (emulator.chip.transfer data length).1
      ((emulator.spend (transactionFunctions data length) 2).cycled data length)
      (BrokenOff emulator.chip data)
      ((heard (transact data length)).run.answer Emulator.machine emulator) := by
  have selecting := setSelect_ended inStep .low
  rw [transact_of_fits fits readFits, answer_heard, Dialogue.answer_bind, select]
  rcases went : (setSelect .low).run.answer Emulator.machine emulator with ⟨outcome, opened⟩
  rw [went] at selecting
  have spent := inStep.spend [0x23] 0
  have parted (calm : emulator.Calm ([0x23] ++ (selectedFunctions data length ++ [0x23]))
      (0 + 2)) := calm.split
  cases selecting with
  | well =>
    have rest := closing_ended (spent.driven .low) rfl fits readFits
    rw [answer_heard] at rest
    have after : (emulator.spend (transactionFunctions data length) (0 + 2)).cycled data length =
        ((((emulator.spend [0x23] 0).driven .low).spend
          (selectedFunctions data length ++ [0x23]) 2).cycled data length) := by
      rw [transactionFunctions, ← Emulator.spend_spend]
      rfl
    rw [after]
    refine rest.weaken (fun calm => ?_) fun _ left => left
    have later := (parted calm).2
    exact ⟨later.undisturbed, later.successes⟩
  | broken disturbed error _ left =>
    refine .broken (fun calm => disturbed (parted calm).1) error opened ?_
    rcases left with rfl | rfl
    · exact ⟨spent, 0, 0, rfl⟩
    · exact ⟨spent.driven .low, 0, 0, rfl⟩

end Transactions

end SpiProgrammer.Bridge
