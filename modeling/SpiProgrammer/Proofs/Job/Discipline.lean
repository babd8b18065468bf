import SpiProgrammer.Job.Change
import SpiProgrammer.Proofs.Flash.Discipline

/-! # Jobs that change the chip keep to the order of commands

Between its operations on the chip a job asks for files and prints; that is no command, and a job
ends with the first operation that fails.  Main statement: every run of programming, erasing and
erasing the whole chip, and of the jobs that write and erase, is disciplined, whatever the master
answers. -/
set_option autoImplicit false

namespace SpiProgrammer.Job

open Flash (Phase Settled Disciplined)

def watch : Watch Phase Workplace :=
  Phase.watch.left

def executed (events : List Workplace.Event) : List Flash.Executed :=
  Flash.executed (events.filterMap Interface.Event.left?)

theorem after?_watch (phase : Phase) (events : List Workplace.Event) :
    watch.after? phase events = phase.after? (executed events) := by
  rw [watch, Watch.after?_left, Phase.after?_watch]
  rfl

/-- From a phase with nothing going on, the job keeps to the phases and reports the error of a
command that failed. -/
def Keeps {α : Type} (job : Job α) : Prop :=
  job.run.Obeys watch (Settled Failure.chip) .idle

section Parts

variable {α β : Type}

theorem keeps_pure (value : α) : Keeps (pure value) := rfl

theorem keeps_throw (failure : Failure) : Keeps (throw failure : Job α) := .inl rfl

theorem Keeps.bind {job : Job α} {f : α → Job β} (first : Keeps job)
    (second : ∀ value, Keeps (f value)) : Keeps (job >>= f) := by
  refine Dialogue.Obeys.step first (fun _ _ failed => failed) ?_
  rintro value last rfl
  exact second value

theorem keeps_onChip {operation : Spi.Operation α}
    (obeys : operation.run.Obeys Phase.watch (Settled id) .idle) : Keeps (onChip operation) := by
  refine Dialogue.obeys_bind ((Dialogue.obeys_onLeft obeys).imp ?_)
  rintro (error | value) last settled
  · rcases settled with idle | ⟨_, ended, rfl⟩
    · exact .inl idle
    · exact .inr ⟨_, ended, rfl⟩
  · exact settled

theorem keeps_onFiles (asked : Dialogue Files (Except FileFault α)) : Keeps (onFiles asked) := by
  refine Dialogue.obeys_bind (Dialogue.obeys_onRight fun outcome => ?_)
  cases outcome with
  | error fault => exact .inl rfl
  | ok value => rfl

theorem keeps_when {flag : Bool} {first : Job Unit} {rest : Job β} (keeps : Keeps first)
    (remains : Keeps rest) : Keeps (if flag = true then (do first; rest) else rest) := by
  cases flag with
  | false => exact remains
  | true => exact keeps.bind fun _ => remains

theorem keeps_say (text : String) : Keeps (say text) := rfl

end Parts

theorem eraseFor_keeps (capabilities : Spi.Capabilities) (address : UInt32) (image : Bytes) :
    Keeps (eraseFor capabilities address image) := by
  have erases (span : Nat) : Keeps (onChip (Flash.erase capabilities address (.ofNat span))) :=
    keeps_onChip (Flash.erase_obeys capabilities address _)
  unfold eraseFor
  refine Keeps.bind ?_ fun span => ?_
  · cases eraseSpan address image.length with
    | error failure => exact keeps_throw failure
    | ok span => exact keeps_pure span
  · by_cases past : span ≠ image.length
    · rw [if_pos past]
      exact erases span
    · rw [if_neg past]
      exact erases span

theorem verify_keeps (capabilities : Spi.Capabilities) (address : UInt32) (image : Bytes) :
    Keeps (verify capabilities address image) := by
  unfold verify
  refine (keeps_onChip (Flash.read_obeys capabilities address image.length)).bind fun found => ?_
  split
  · exact keeps_throw _
  · exact keeps_say _

theorem write_keeps (capabilities : Spi.Capabilities) (path : String) (address : UInt32)
    (eraseFirst verifyAfter : Bool) :
    Keeps (write capabilities path address eraseFirst verifyAfter) := by
  unfold write
  refine (keeps_onFiles _).bind fun image => ?_
  by_cases empty : image.isEmpty
  · rw [if_pos empty]
    exact keeps_throw _
  rw [if_neg empty]
  refine keeps_when (eraseFor_keeps capabilities address image) ?_
  refine (keeps_onChip (Flash.program_obeys capabilities address image)).bind fun _ => ?_
  exact keeps_when (verify_keeps capabilities address image) (keeps_say _)

theorem erase_keeps (capabilities : Spi.Capabilities) (address : UInt32)
    (length : Option UInt32) : Keeps (erase capabilities address length) := by
  unfold erase
  cases length with
  | some length =>
    exact (keeps_onChip (Flash.erase_obeys capabilities address length)).bind fun _ => keeps_say _
  | none =>
    have erases : Keeps (do onChip Flash.eraseChip; say "Chip erase complete" : Job Unit) :=
      (keeps_onChip (Flash.eraseChip_obeys.imp fun _ _ leads => leads.settled)).bind fun _ =>
        keeps_say _
    by_cases given : address ≠ 0
    · simp only [if_pos given]
      exact keeps_throw _
    · simp only [if_neg given]
      exact erases

theorem Keeps.disciplined {σ : Type} (machine : Machine σ Workplace) (state : σ) {job : Job Unit}
    (keeps : Keeps job) :
    let ran := job.run.run machine state
    Disciplined Failure.chip ran.value (executed ran.events) := by
  intro ran
  obtain ⟨last, follows, settled⟩ := Dialogue.Obeys.run keeps machine state
  rw [after?_watch] at follows
  exact Flash.disciplined_of_phases follows settled

/-- Whatever a master answers, and whatever is in the files, every change of the chip is enabled
right before it and waited for right after it, and a run ends with the first command that fails or
with the last look at a chip that stays busy. -/
theorem changes_enabled_and_awaited {σ τ : Type} (machine : Machine σ Spi.Master) (state : σ)
    (workplace : Machine τ Workplace) (place : τ) (capabilities : Spi.Capabilities)
    (address : UInt32) :
    (∀ data : Bytes,
      let ran := (Flash.program capabilities address data).run.run machine state
      Disciplined id ran.value (Flash.executed ran.events)) ∧
    (∀ length : UInt32,
      let ran := (Flash.erase capabilities address length).run.run machine state
      Disciplined id ran.value (Flash.executed ran.events)) ∧
    (let ran := Flash.eraseChip.run.run machine state
     Disciplined id ran.value (Flash.executed ran.events)) ∧
    (∀ (path : String) (eraseFirst verifyAfter : Bool),
      let ran := (write capabilities path address eraseFirst verifyAfter).run.run workplace place
      Disciplined Failure.chip ran.value (executed ran.events)) ∧
    (∀ length : Option UInt32,
      let ran := (erase capabilities address length).run.run workplace place
      Disciplined Failure.chip ran.value (executed ran.events)) := by
  have eraseChip_obeys : Flash.eraseChip.run.Obeys Phase.watch (Settled id) .idle :=
    Flash.eraseChip_obeys.imp fun _ _ leads => leads.settled
  refine ⟨fun data => ?_, fun length => ?_, ?_, fun path eraseFirst verifyAfter => ?_,
    fun length => ?_⟩
  · exact Flash.disciplined_of_obeys machine state (Flash.program_obeys capabilities address data)
  · exact Flash.disciplined_of_obeys machine state (Flash.erase_obeys capabilities address length)
  · exact Flash.disciplined_of_obeys machine state eraseChip_obeys
  · exact (write_keeps capabilities path address eraseFirst verifyAfter).disciplined workplace place
  · exact (erase_keeps capabilities address length).disciplined workplace place

end SpiProgrammer.Job
