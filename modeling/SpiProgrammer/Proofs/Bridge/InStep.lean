import SpiProgrammer.Proofs.Bridge.Emulated

/-! # Staying in step

A request that is answered leaves a bridge in step as it found it: its reply is received, or has
never been queued, whatever fault strikes and whatever length is expected.  What is put together
from such requests does so too. -/
set_option autoImplicit false

namespace SpiProgrammer.Bridge

/-- Held with a bridge in step, the dialogue leaves it in step. -/
def KeepsStep {α : Type} (d : Dialogue Link α) : Prop :=
  ∀ emulator : Emulator, emulator.InStep → (d.answer Emulator.machine emulator).2.InStep

section KeepsStep

variable {α β : Type}

theorem keepsStep_pure (value : α) : KeepsStep (pure value : Dialogue Link α) :=
  fun _ inStep => inStep

theorem keepsStep_note (level : Log.Level) (text : String) : KeepsStep (note level text) :=
  fun _ inStep => inStep

theorem KeepsStep.bind {d : Dialogue Link α} {next : α → Dialogue Link β} (first : KeepsStep d)
    (second : ∀ value, KeepsStep (next value)) : KeepsStep (d >>= next) := by
  intro emulator inStep
  rw [Dialogue.answer_bind]
  exact second _ _ (first emulator inStep)

theorem KeepsStep.andThen {exchange : Exchange α} {next : α → Exchange β}
    (first : KeepsStep exchange.run) (second : ∀ value, KeepsStep (next value).run) :
    KeepsStep (exchange >>= next).run := by
  rw [ExceptT.run_bind]
  refine first.bind fun outcome => ?_
  cases outcome with
  | ok value => exact second value
  | error error => exact keepsStep_pure (Except.error error)

theorem KeepsStep.lift {d : Dialogue Link α} (keeps : KeepsStep d) :
    KeepsStep (liftM d : Exchange α).run := by
  intro emulator inStep
  rw [Dialogue.answer_lift]
  exact keeps emulator inStep

end KeepsStep

/-- Every command has a reply, but for the announcement of data. -/
def Command.Answered : Command → Prop
  | .write _ _ => False
  | _ => True

namespace Emulator

theorem process_answered (emulator : Emulator) {command : Command} (answered : command.Answered) :
    ∃ reply, (emulator.process command.function command.frame).1 = some reply ∧
      (emulator.process command.function command.frame).2.replies = emulator.replies ∧
      (emulator.process command.function command.frame).2.continues = false := by
  cases command with
  | write length leading => exact answered.elim
  | setSelect level =>
    have processed : emulator.process (Command.setSelect level).function
        (Command.setSelect level).frame =
          (some acknowledged, ({ emulator with continues := false }).driven level) :=
      emulator.process_setSelect level
    rw [processed]
    cases level <;> exact ⟨_, rfl, rfl, rfl⟩
  | getVersion | getClock | configure settings | read length | getStatus | close =>
    exact ⟨_, rfl, rfl, rfl⟩

end Emulator

theorem ask_keepsStep {command : Command} (answered : command.Answered) (length : Nat) :
    KeepsStep (ask command length) := by
  intro emulator inStep
  obtain ⟨reply, replies, unqueued, expects⟩ :=
    (emulator.pass command.function).process_answered answered
  let after := ((emulator.pass command.function).process command.function command.frame).2
  have stays : after.InStep := ⟨unqueued.trans inStep.noReply, expects⟩
  have processed : (emulator.pass command.function).process command.function command.frame =
      (some reply, after) := by
    rw [← replies]
  rcases answer_ask inStep processed stays length with ⟨-, error, asked⟩ | asked
  · rw [asked]
    exact inStep.pass command.function
  · rw [asked]
    exact stays

theorem query_keepsStep {α : Type} {command : Command} (answered : command.Answered)
    (form : AnswerForm α) : KeepsStep (query command form).run := by
  rw [query_eq_ask]
  refine KeepsStep.andThen (fun emulator inStep => ?_) fun _ => keepsStep_pure _
  rw [answer_heard]
  exact ask_keepsStep answered form.length emulator inStep

theorem checkVersion_keepsStep : KeepsStep checkVersion.run := by
  unfold checkVersion
  refine KeepsStep.andThen (@query_keepsStep _ .getVersion trivial Version.form) fun version => ?_
  refine KeepsStep.andThen (keepsStep_note _ _).lift fun _ => ?_
  by_cases old : version.bridge < oldestFirmware
  · rw [if_pos old]
    exact KeepsStep.andThen (keepsStep_note _ _).lift fun _ => keepsStep_pure _
  · rw [if_neg old]
    exact keepsStep_pure _

theorem inputClock_keepsStep : KeepsStep inputClock.run := by
  unfold inputClock
  refine KeepsStep.andThen (@query_keepsStep _ .getClock trivial inputClockForm) fun clock => ?_
  exact KeepsStep.andThen (keepsStep_note _ _).lift fun _ => keepsStep_pure _

theorem settleClock_keepsStep (wanted : Nat) : KeepsStep (settleClock wanted).run := by
  unfold settleClock
  by_cases none : wanted = 0
  · rw [if_pos none]
    exact keepsStep_pure _
  rw [if_neg none]
  refine KeepsStep.andThen inputClock_keepsStep fun input => ?_
  dsimp only
  cases clockWarning? (Clock.negotiate input wanted) wanted with
  | none => exact keepsStep_pure _
  | some warning => exact KeepsStep.andThen (keepsStep_note _ _).lift fun _ => keepsStep_pure _

end SpiProgrammer.Bridge
