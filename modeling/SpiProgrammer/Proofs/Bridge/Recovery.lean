import SpiProgrammer.Proofs.Bridge.ChipCycle
import SpiProgrammer.Proofs.Bridge.InStep

/-! # Recovery from faults

Faults strike single transfers.  Main statement: whatever operations took place before and whatever
faults struck them, an emulated bridge is in step, and a transaction in which nothing goes wrong is
one whole cycle of its chip. -/
set_option autoImplicit false

namespace SpiProgrammer.Bridge

section Transactions

variable {emulator : Emulator} {data : Bytes} {length : Nat}

theorem transact_keepsStep (data : Bytes) (length : Nat) : KeepsStep (transact data length) := by
  intro emulator inStep
  by_cases long : transferMax < data.length
  · rw [transact_of_long long]
    exact inStep
  by_cases readLong : transferMax < length
  · rw [transact_of_readLong long readLong]
    exact inStep
  have ended := transact_ended inStep (Nat.le_of_not_lt long) (Nat.le_of_not_lt readLong)
  rw [answer_heard] at ended
  exact ended.keeps ⟨inStep.noReply, inStep.expectsFrame⟩ fun _ left => left.inStep

theorem transact_calm (inStep : emulator.InStep) (fits : data.length ≤ transferMax)
    (readFits : length ≤ transferMax)
    (calm : emulator.Calm (transactionFunctions data length) 2) :
    (transact data length).answer Emulator.machine emulator =
      (⟨(emulator.chip.transfer data length).1, .ok ()⟩,
        (emulator.spend (transactionFunctions data length) 2).cycled data length) := by
  have ended := transact_ended inStep fits readFits
  rw [answer_heard] at ended
  rcases went : (transact data length).answer Emulator.machine emulator with
    ⟨⟨bytes, outcome⟩, next⟩
  rw [went] at ended
  cases outcome with
  | ok _ =>
    simp only [Except.map] at ended
    cases ended with
    | well => rfl
  | error error =>
    simp only [Except.map] at ended
    cases ended with
    | broken disturbed => exact (disturbed calm).elim

end Transactions

/-! ## Operations one after another -/

inductive Operation where
  | version
  | inputClock
  | configure (settings : Settings)
  | lastStatus
  | setSelect (level : SelectLevel)
  | close
  | transact (data : Bytes) (length : Nat)

/-- Carries the operation out, whatever comes of it. -/
def Operation.perform : Operation → Dialogue Link Unit
  | .version => do let _ ← Bridge.version.run
  | .inputClock => do let _ ← Bridge.inputClock.run
  | .configure settings => do let _ ← (Bridge.configure settings).run
  | .lastStatus => do let _ ← Bridge.lastStatus.run
  | .setSelect level => do let _ ← (Bridge.setSelect level).run
  | .close => do let _ ← Bridge.close.run
  | .transact data length => do let _ ← Bridge.transact data length

def performAll : List Operation → Dialogue Link Unit
  | [] => pure ()
  | operation :: later => do
    operation.perform
    performAll later

theorem perform_keepsStep (operation : Operation) : KeepsStep operation.perform := by
  have ignoring {α : Type} {d : Dialogue Link α} (keeps : KeepsStep d) :
      KeepsStep (do let _ ← d) :=
    keeps.bind fun _ => keepsStep_pure ()
  cases operation with
  | version => exact ignoring (@query_keepsStep _ .getVersion trivial Version.form)
  | inputClock => exact ignoring inputClock_keepsStep
  | configure settings =>
    exact ignoring (@query_keepsStep _ (.configure settings) trivial acknowledgement)
  | lastStatus =>
    have asks := @query_keepsStep _ .getStatus trivial TransferStatus.form
    exact ignoring (asks.andThen fun _ => keepsStep_pure _)
  | setSelect level =>
    have asks := @query_keepsStep _ (.setSelect level) trivial acknowledgement
    exact ignoring (fun emulator inStep => by
      rw [Bridge.setSelect, answer_complaining]
      exact asks emulator inStep)
  | close => exact ignoring (@query_keepsStep _ .close trivial acknowledgement)
  | transact data length => exact ignoring (transact_keepsStep data length)

theorem performAll_keepsStep (operations : List Operation) : KeepsStep (performAll operations) := by
  induction operations with
  | nil => exact keepsStep_pure ()
  | cons operation later ih => exact (perform_keepsStep operation).bind fun _ => ih

/-- Faults leave nothing behind but what they did to the operations that they struck. -/
theorem recovers_from_faults {emulator : Emulator} (inStep : emulator.InStep)
    (earlier : List Operation) :
    let past := (performAll earlier).run Peer.machine (.emulated emulator)
    ∃ left : Emulator, past.state = .emulated left ∧ left.replies = [] ∧ left.continues = false ∧
      ∀ data length, data.length ≤ transferMax → length ≤ transferMax →
        left.Calm (transactionFunctions data length) 2 →
          let ran := (transact data length).run Peer.machine past.state
          ran.value = ⟨(left.chip.transfer data length).1, .ok ()⟩ ∧
            ran.state.chip? = some (left.chip.transfer data length).2 := by
  intro past
  let left := ((performAll earlier).answer Emulator.machine emulator).2
  have reached : past.state = .emulated left := by
    simp only [past, Emulator.run_emulated]
    rfl
  have leftInStep : left.InStep := performAll_keepsStep earlier emulator inStep
  refine ⟨left, reached, leftInStep.noReply, leftInStep.expectsFrame, ?_⟩
  intro data length fits readFits calm ran
  have answers := transact_calm leftInStep fits readFits calm
  simp only [ran, reached, Emulator.run_emulated]
  exact ⟨congrArg Prod.fst answers, congrArg (some ∘ Emulator.chip ∘ Prod.snd) answers⟩

/-- An earlier transaction has left a byte pending, and the answer to a question was lost. -/
theorem recovers_from_lost_status :
    let emulator : Emulator :=
      { pending := [0x06], faults := [⟨0x02, 1, .replyIsDropped⟩, ⟨0x22, 2, .sendFails⟩] }
    let past := (performAll [.lastStatus]).run Peer.machine (.emulated emulator)
    emulator.InStep ∧ ∃ left : Emulator, past.state = .emulated left ∧ left.pending = [0x06] ∧
      left.Calm (transactionFunctions [0x05] 1) 2 ∧
      ((transact [0x05] 1).run Peer.machine past.state).value =
        ⟨(left.chip.transfer [0x05] 1).1, .ok ()⟩ := by
  intro emulator past
  have inStep : emulator.InStep := ⟨rfl, rfl⟩
  obtain ⟨left, reached, -, -, whole⟩ := recovers_from_faults inStep [.lastStatus]
  have known : past.state = .emulated { emulator with
      faults := [⟨0x02, 0, .replyIsDropped⟩, ⟨0x22, 2, .sendFails⟩] } := rfl
  obtain rfl := Peer.emulated.inj (reached.symm.trans known)
  have calm : Emulator.Calm { emulator with
      faults := [⟨0x02, 0, .replyIsDropped⟩, ⟨0x22, 2, .sendFails⟩] }
        (transactionFunctions [0x05] 1) 2 := ⟨⟨rfl, rfl, rfl, rfl, rfl, rfl, trivial⟩, nofun⟩
  exact ⟨inStep, _, reached, rfl, calm, (whole [0x05] 1 (by decide) (by decide) calm).1⟩

end SpiProgrammer.Bridge
