import SpiProgrammer.Proofs.Bridge.Recovery
import SpiProgrammer.Proofs.Flash.Driving
import SpiProgrammer.Proofs.Flash.Limits
import SpiProgrammer.Proofs.Session.Logging

/-! # Commands executed over a session

A command that does not fit a transaction is refused before anything is transferred.  Main
statement: any other is carried out on the emulated bridge as one cycle of its chip, of which a
failure leaves a first part. -/
set_option autoImplicit false

namespace SpiProgrammer.Session

open Bridge (Emulator Peer Ended BrokenOff transferMax transactionFunctions)

section Commands

variable {σ : Type} (machine : Machine σ Bridge.Link) (command : Spi.Command)

theorem course_execute (state : σ) :
    (execute command).course machine state =
      let moved := (Bridge.transact command.sent command.readLength).course machine state
      ⟨⟨moved.value.bytes, moved.value.outcome.mapError Bridge.Error.toSpi⟩, moved.state,
        moved.events⟩ := by
  unfold execute
  simp only [Dialogue.course_bind, Dialogue.course_log]
  rcases (Bridge.transact command.sent command.readLength).course machine state with
    ⟨⟨bytes, outcome⟩, next, events⟩
  cases outcome with
  | ok _ => simp
  | error error => simp

theorem answer_execute (state : σ) :
    (execute command).answer machine state =
      let moved := (Bridge.transact command.sent command.readLength).answer machine state
      (⟨moved.1.bytes, moved.1.outcome.mapError Bridge.Error.toSpi⟩, moved.2) :=
  Dialogue.answer_of_course (course_execute machine command state)

theorem execute_refuses {command : Spi.Command} (long : ¬ capabilities.Admits command) (state : σ) :
    (execute command).course machine state = ⟨⟨[], .error .bufferTooLarge⟩, state, []⟩ := by
  rw [course_execute]
  by_cases sentLong : transferMax < command.sent.length
  · rw [Bridge.transact_of_long sentLong]
    rfl
  · have readLong : transferMax < command.readLength := by
      refine Nat.lt_of_not_le fun reads => long ⟨Nat.le_of_not_lt sentLong, reads⟩
    rw [Bridge.transact_of_readLong sentLong readLong]
    rfl

end Commands

variable {emulator : Emulator}

/-- How a command that fits ends on the emulated bridge. -/
inductive Executed (emulator : Emulator) (command : Spi.Command) :
    Received Spi.Error × Emulator → Prop
  | well :
    Executed emulator command
      (⟨(emulator.chip.transfer command.sent command.readLength).1, .ok ()⟩,
        (emulator.spend (transactionFunctions command.sent command.readLength) 2).cycled
          command.sent command.readLength)
  | broken (disturbed : ¬ emulator.Calm (transactionFunctions command.sent command.readLength) 2)
    (bytes : Bytes) (error : Spi.Error) (left : Emulator)
    (brokenOff : BrokenOff emulator.chip command.sent left) :
    Executed emulator command (⟨bytes, .error error⟩, left)

theorem execute_ended (inStep : emulator.InStep) {command : Spi.Command}
    (fits : capabilities.Admits command) :
    Executed emulator command ((execute command).answer Emulator.machine emulator) := by
  have moved := Bridge.transact_ended inStep fits.sent fits.read
  rw [Bridge.answer_heard] at moved
  rw [answer_execute]
  rcases moving : (Bridge.transact command.sent command.readLength).answer Emulator.machine
    emulator with ⟨⟨bytes, outcome⟩, next⟩
  rw [moving] at moved
  cases outcome with
  | ok _ =>
    simp only [Except.map] at moved
    cases moved with
    | well => exact .well
  | error error =>
    simp only [Except.map] at moved
    cases moved with
    | broken disturbed _ _ left => exact .broken disturbed bytes error.toSpi next left

/-! ## The bridge of an open session -/

/-- Opening a session, or failing to, leaves the bridge in step. -/
theorem start_keepsStep (frequency : Nat) : Bridge.KeepsStep (start frequency).run := by
  unfold start
  have checked : Bridge.KeepsStep (liftM ((checkFrequency frequency).mapError OptionFault.toError) :
      Bridge.Exchange Unit).run := by
    intro emulator inStep
    cases (checkFrequency frequency).mapError OptionFault.toError <;> exact inStep
  refine checked.andThen fun _ => ?_
  refine Bridge.checkVersion_keepsStep.andThen fun version => ?_
  refine (Bridge.settleClock_keepsStep frequency).andThen fun clock => ?_
  have configures := @Bridge.query_keepsStep _ (.configure (.flash clock.prescaler)) trivial
    Bridge.acknowledgement
  refine configures.andThen fun _ => ?_
  exact (Bridge.keepsStep_note _ _).lift.andThen fun _ => Bridge.keepsStep_pure _

def served : Machine Emulator Spi.Master :=
  Emulator.machine.serving serve

theorem serve_inStep (inStep : emulator.InStep) (r : Spi.MasterRequest) :
    (served r emulator).2.InStep := by
  cases r with
  | delay time => exact inStep
  | execute command =>
    show ((execute command).answer Emulator.machine emulator).2.InStep
    rw [answer_execute]
    exact Bridge.transact_keepsStep command.sent command.readLength emulator inStep

theorem served_drives : Flash.Drives served Emulator.chip Emulator.InStep where
  delays _ _ inStep := ⟨inStep, rfl⟩
  executes command emulator inStep := by
    refine ⟨serve_inStep inStep (.execute command), ?_⟩
    show emulator.chip.Carried command.sent command.readLength
      ((execute command).answer Emulator.machine emulator).1
      ((execute command).answer Emulator.machine emulator).2.chip
    by_cases fits : capabilities.Admits command
    · have ended := execute_ended inStep fits
      rcases went : (execute command).answer Emulator.machine emulator with ⟨received, next⟩
      rw [went] at ended
      cases ended with
      | well => exact .well
      | broken _ bytes error _ left =>
        obtain ⟨count, length, reached⟩ := left.cycle
        simp only
        rw [reached]
        exact .failed bytes error count length
    · rw [Dialogue.answer_of_course (execute_refuses Emulator.machine fits emulator)]
      exact .failed [] .bufferTooLarge 0 0

/-- An operation over the link is the operation on the machine that the bridge is for it, and
looks the same to whoever does not see the log. -/
theorem onLink_run {α κ : Type} (view : Notice → Option κ)
    (blind : ∀ notice : Notice, notice.IsLog → view notice = none) (d : Dialogue Spi.Master α)
    (emulator : Emulator) :
    let ran := (onLink d).run Peer.machine (.emulated emulator)
    let inner := d.run served emulator
    ran.value = inner.value ∧ ran.state = .emulated inner.state ∧
      ran.notices.filterMap view = inner.notices.filterMap view := by
  intro ran inner
  have answer := d.answer_through Emulator.machine serve emulator
  have unseen (r : Spi.MasterRequest) : (serve r).Utters fun notice => view notice = none :=
    (utters_serve r).imp blind
  have seen := Dialogue.notices_through Emulator.machine serve view unseen d emulator
  simp only [ran, Emulator.run_emulated]
  exact ⟨congrArg Prod.fst answer, congrArg (Peer.emulated ∘ Prod.snd) answer, seen⟩

end SpiProgrammer.Session
