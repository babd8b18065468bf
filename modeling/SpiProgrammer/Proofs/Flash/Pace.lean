import SpiProgrammer.Proofs.Flash.Discipline
import SpiProgrammer.Proofs.Flash.Driving

/-! # The pace of a chip

How long a chip stays busy may differ from change to change.  A master that never fails a command
keeps a pace if the changes made so far are counted, and each takes the time that is given for its
number.

Main statement: a change is made once, and succeeds exactly if the chip is ready before its status
has been read as often as it may; waiting for it changes nothing. -/
set_option autoImplicit false

namespace SpiProgrammer.Flash

open Spi

/-! ## The status -/

theorem or_and (first second mask : UInt8) :
    (first ||| second) &&& mask = (first &&& mask) ||| (second &&& mask) := by
  apply UInt8.toNat_inj.mp
  simp only [UInt8.toNat_and, UInt8.toNat_or, Nat.and_or_distrib_right]

theorem Chip.status_ready {chip : Chip} :
    chip.status &&& Opcode.busyBit = 0 ↔
      chip.statusBits &&& Opcode.busyBit = 0 ∧ chip.busyLeft = 0 := by
  rw [status, or_and, or_and, UInt8.or_eq_zero_iff, UInt8.or_eq_zero_iff]
  by_cases busy : chip.busyLeft > 0
  · rw [if_pos busy]
    exact ⟨fun shown => absurd shown.1.1 (by decide), fun ready => by omega⟩
  · have latch : (if chip.writeEnabled then 2 else 0 : UInt8) &&& Opcode.busyBit = 0 := by
      cases chip.writeEnabled <;> rfl
    rw [if_neg busy]
    exact ⟨fun shown => ⟨shown.2, by omega⟩, fun ready => ⟨⟨by decide, latch⟩, ready.1⟩⟩

/-- The chip shows itself ready before the status has been read `limit` times, if `left` of these
show it busy. -/
def Chip.ReadyAfter (chip : Chip) (left limit : Nat) : Prop :=
  chip.statusBits &&& Opcode.busyBit = 0 ∧ left < limit

instance (chip : Chip) (left limit : Nat) : Decidable (chip.ReadyAfter left limit) :=
  inferInstanceAs (Decidable (_ ∧ _))

/-! ## Changes -/

def changes (events : List Master.Event) : List Command :=
  ((executed events).map Executed.command).filter fun command =>
    (pollsAfter? command.opcode).isSome

theorem changes_append (first later : List Master.Event) :
    changes (first ++ later) = changes first ++ changes later := by
  simp [changes, executed]

theorem changes_cons (command : Command) (reply : Received Error) (events : List Master.Event) :
    changes (⟨.execute command, reply⟩ :: events) =
      if (pollsAfter? command.opcode).isSome then command :: changes events
      else changes events := by
  simp [changes, executed, executed?, List.filter_cons]

/-- How many changes have been made, once a cycle has led from a chip to the next: a change resets
the latch that was set for it. -/
def Chip.counting (chip after : Chip) (made : Nat) : Nat :=
  if chip.writeEnabled && !after.writeEnabled then made + 1 else made

/-- In sound states the machine executes every command as a cycle of the chip that `chip` sees in
them.  The changes made so far are counted, and the next will keep the chip busy for as many looks
at its status as `busy` says. -/
structure Paces {σ : Type} (machine : Machine σ Master) (chip : σ → Chip) (busy : Nat → Nat)
    (Sound : Nat → σ → Prop) : Prop where
  pace : ∀ made state, Sound made state → (chip state).busyPolls = busy made
  delays : ∀ time made state, Sound made state →
    Sound made (machine (.delay time) state).2 ∧ chip (machine (.delay time) state).2 = chip state
  executes : ∀ command made state, Sound made state →
    let answer := machine (.execute command) state
    let cycle := (chip state).transfer command.sent command.readLength
    let count := (chip state).counting cycle.2 made
    answer.1 = ⟨cycle.1, .ok ()⟩ ∧ Sound count answer.2 ∧
      chip answer.2 = { cycle.2 with busyPolls := busy count }

/-- A chip wired straight to its master, which stays busy after each change for as many looks at its
status as `busy` says for the number of the change. -/
def scheduled (busy : Nat → Nat) : Machine (Chip × Nat) Master
  | .execute command, (chip, made) =>
    let cycle := chip.transfer command.sent command.readLength
    let count := chip.counting cycle.2 made
    (⟨cycle.1, .ok ()⟩, { cycle.2 with busyPolls := busy count }, count)
  | .delay _, state => ((), state)

theorem scheduled_paces (busy : Nat → Nat) :
    Paces (scheduled busy) Prod.fst busy fun made state =>
      state.2 = made ∧ state.1.busyPolls = busy made where
  pace _ _ sound := sound.2
  delays _ _ _ sound := ⟨sound, rfl⟩
  executes command made state sound := by
    obtain ⟨chip, count⟩ := state
    obtain ⟨rfl, -⟩ := sound
    exact ⟨rfl, ⟨rfl, rfl⟩, rfl⟩

/-- Sound states in which every change keeps the chip busy for the same number of looks. -/
def Steady {σ : Type} (chip : σ → Chip) (Sound : σ → Prop) (polls : Nat) : Nat → σ → Prop :=
  fun _ state => Sound state ∧ (chip state).busyPolls = polls

section Pace

variable {σ : Type} {machine : Machine σ Master} {chip : σ → Chip}

theorem Drives.paces {Sound : σ → Prop} (drives : Drives machine chip Sound)
    (unfailing : Unfailing machine Sound) (polls : Nat) :
    Paces machine chip (fun _ => polls) (Steady chip Sound polls) where
  pace _ _ sound := sound.2
  delays time _ state sound := by
    obtain ⟨stays, same⟩ := drives.delays time state sound.1
    exact ⟨⟨stays, same.symm ▸ sound.2⟩, same⟩
  executes command made state sound := by
    obtain ⟨reply, stays, reached⟩ := execute_unfailing drives unfailing sound.1 command
    have alike := (chip state).alike_transfer command.sent command.readLength
    have polls := alike.busyPolls.trans sound.2
    refine ⟨reply, ⟨stays, ?_⟩, ?_⟩
    · rw [reached, polls]
    · rw [reached, ← polls]

variable {busy : Nat → Nat} {Sound : Nat → σ → Prop} {made : Nat} {state : σ}

theorem Paces.executes_same (paces : Paces machine chip busy Sound) (sound : Sound made state)
    (command : Command) {bytes : Bytes} {after : Chip}
    (cycle : (chip state).transfer command.sent command.readLength = (bytes, after))
    (unchanged : (chip state).counting after made = made)
    (alike : after.busyPolls = (chip state).busyPolls) :
    ∃ next, machine (.execute command) state = (⟨bytes, .ok ()⟩, next) ∧ Sound made next ∧
      chip next = after := by
  obtain ⟨reply, stays, reached⟩ := paces.executes command made state sound
  simp only [cycle, unchanged] at reply stays reached
  refine ⟨_, Prod.ext reply rfl, stays, ?_⟩
  rw [reached, ← paces.pace made state sound, ← alike]

theorem readStatus_paced (paces : Paces machine chip busy Sound) (sound : Sound made state) :
    ∃ next, readStatus.run.course machine state =
        ⟨.ok (chip state).status, next,
          [⟨.execute statusCommand, ⟨[(chip state).status], .ok ()⟩⟩]⟩ ∧
      Sound made next ∧ chip next = { chip state with busyLeft := (chip state).busyLeft - 1 } := by
  have cycle : (chip state).transfer statusCommand.sent statusCommand.readLength =
      ([(chip state).status], { chip state with busyLeft := (chip state).busyLeft - 1 }) := rfl
  have latch : (chip state).counting { chip state with busyLeft := (chip state).busyLeft - 1 }
      made = made := by
    simp [Chip.counting]
  obtain ⟨next, answered, stays, reached⟩ := paces.executes_same sound statusCommand cycle latch rfl
  have asks : (readRegister Opcode.readStatus 1).run.course machine state =
      let answer := machine (.execute statusCommand) state
      ⟨answer.1.outcome.map fun _ => Bytes.overlay (List.replicate 1 0) answer.1.bytes, answer.2,
        [⟨.execute statusCommand, answer.1⟩]⟩ := rfl
  simp only [answered] at asks
  refine ⟨next, ?_, stays, reached⟩
  unfold readStatus
  rw [Dialogue.course_bind_ok machine _ _ asks]
  rfl

theorem Chip.readyAfter_look {chip next : Chip} (limit : Nat)
    (busy : ¬ chip.status &&& Opcode.busyBit = 0)
    (looked : next = { chip with busyLeft := chip.busyLeft - 1 }) :
    next.ReadyAfter next.busyLeft limit ↔ chip.ReadyAfter chip.busyLeft (limit + 1) := by
  subst looked
  simp only [ReadyAfter]
  constructor
  · intro ready
    exact ⟨ready.1, by omega⟩
  · intro ready
    have some : chip.busyLeft ≠ 0 := fun none => busy (Chip.status_ready.mpr ⟨ready.1, none⟩)
    exact ⟨ready.1, by omega⟩

theorem pollUntilReady_paced (paces : Paces machine chip busy Sound) (pause limit : Nat) :
    ∀ state, Sound made state →
      let ran := (pollUntilReady pause limit).run.course machine state
      ran.value = .ok (decide ((chip state).ReadyAfter (chip state).busyLeft limit)) ∧
        Sound made ran.state ∧ (chip state).Waited (chip ran.state) ∧ changes ran.events = [] := by
  induction limit with
  | zero =>
    intro state sound
    have never : decide ((chip state).ReadyAfter (chip state).busyLeft 0) = false :=
      decide_eq_false fun ready => Nat.not_lt_zero _ ready.2
    rw [never]
    exact ⟨rfl, sound, ⟨_, rfl⟩, rfl⟩
  | succ limit ih =>
    intro state sound
    obtain ⟨next, read, stays, reached⟩ := readStatus_paced paces sound
    have looked : (chip state).Waited (chip next) := ⟨_, reached⟩
    unfold pollUntilReady
    rw [Dialogue.course_bind_ok machine _ _ read]
    by_cases ready : (chip state).status &&& Opcode.busyBit = 0
    · obtain ⟨free, idle⟩ := Chip.status_ready.mp ready
      have now : decide ((chip state).ReadyAfter (chip state).busyLeft (limit + 1)) = true :=
        decide_eq_true ⟨free, by omega⟩
      rw [if_pos ready, now]
      exact ⟨rfl, stays, looked, rfl⟩
    rw [if_neg ready]
    have again (start : σ) (sound : Sound made start) (same : chip start = chip next) :
        let ran := (pollUntilReady pause limit).run.course machine start
        ran.value = .ok (decide ((chip state).ReadyAfter (chip state).busyLeft (limit + 1))) ∧
          Sound made ran.state ∧ (chip state).Waited (chip ran.state) ∧
          changes ran.events = [] := by
      obtain ⟨shown, stays, waited, quiet⟩ := ih start sound
      rw [decide_eq_decide.mpr (Chip.readyAfter_look limit ready (same.trans reached))] at shown
      rw [same] at waited
      exact ⟨shown, stays, looked.trans waited, quiet⟩
    by_cases pauses : pause > 0
    · obtain ⟨sound, same⟩ := paces.delays pause made next stays
      rw [if_pos pauses, Dialogue.course_bind_ok machine _ _ (Dialogue.course_lift machine _ next)]
      exact again _ sound same
    · rw [if_neg pauses]
      exact again next stays rfl

theorem waitReady_paced (paces : Paces machine chip busy Sound) (sound : Sound made state)
    (pause timeout : Nat) :
    let ran := (waitReady pause timeout).run.course machine state
    ran.value = (if (chip state).ReadyAfter (chip state).busyLeft (pollLimit pause timeout)
      then .ok () else .error .stillBusy) ∧
      Sound made ran.state ∧ (chip state).Waited (chip ran.state) ∧ changes ran.events = [] := by
  obtain ⟨shown, stays, waited, quiet⟩ :=
    pollUntilReady_paced paces pause (pollLimit pause timeout) state sound
  rcases polled : (pollUntilReady pause (pollLimit pause timeout)).run.course machine state with
    ⟨value, next, events⟩
  rw [polled] at shown stays waited quiet
  simp only at shown
  subst shown
  unfold waitReady
  rw [Dialogue.course_bind_ok machine _ _ polled]
  by_cases ready : (chip state).ReadyAfter (chip state).busyLeft (pollLimit pause timeout)
  · rw [decide_eq_true ready, if_pos ready]
    refine ⟨rfl, stays, waited, ?_⟩
    rw [changes_append, quiet]
    rfl
  · rw [decide_eq_false ready, if_neg ready]
    refine ⟨rfl, stays, waited, ?_⟩
    rw [changes_append, quiet]
    rfl

/-! ## Changes that are waited for -/

theorem perform_course (machine : Machine σ Master) (command : Command) (state : σ) :
    (perform command).run.course machine state =
      let answer := machine (.execute command) state
      ⟨answer.1.outcome, answer.2, [⟨.execute command, answer.1⟩]⟩ := rfl

theorem writeEnable_paced (paces : Paces machine chip busy Sound) (sound : Sound made state) :
    ∃ next, writeEnable.run.course machine state =
        ⟨.ok (), next, [⟨.execute (.simple Opcode.writeEnable), ⟨[], .ok ()⟩⟩]⟩ ∧
      Sound made next ∧ chip next = { chip state with writeEnabled := true } := by
  have cycle : (chip state).transfer (Command.simple Opcode.writeEnable).sent 0 =
      ([], { chip state with writeEnabled := true }) := rfl
  have latch : (chip state).counting { chip state with writeEnabled := true } made = made := by
    simp [Chip.counting]
  obtain ⟨next, answered, stays, reached⟩ := paces.executes_same sound
    (.simple Opcode.writeEnable) cycle latch rfl
  refine ⟨next, ?_, stays, reached⟩
  rw [writeEnable, perform_course, answered]

theorem change_paced (paces : Paces machine chip busy Sound) (sound : Sound made state)
    {command : Command} {after : Chip}
    (cycle : (({ chip state with writeEnabled := true }).transfer command.sent
      command.readLength).2 = after)
    (reset : after.writeEnabled = false) (change : (pollsAfter? command.opcode).isSome)
    (pause timeout : Nat) :
    let operation : Operation Unit := do writeEnable; perform command; waitReady pause timeout
    let ran := operation.run.course machine state
    ran.value = (if after.ReadyAfter after.busyLeft (pollLimit pause timeout) then .ok ()
      else .error .stillBusy) ∧
      Sound (made + 1) ran.state ∧
      ({ after with busyPolls := busy (made + 1) }).Waited (chip ran.state) ∧
      changes ran.events = [command] := by
  obtain ⟨enabled, enables, latched, same⟩ := writeEnable_paced paces sound
  have counted : ({ chip state with writeEnabled := true }).counting after made = made + 1 := by
    simp [Chip.counting, reset]
  obtain ⟨answered, stays, reached⟩ := paces.executes command made enabled latched
  rw [same, cycle, counted] at stays reached
  rcases replied : machine (.execute command) enabled with ⟨⟨bytes, outcome⟩, changed⟩
  rw [replied] at answered stays reached
  cases answered
  have performed := perform_course machine command enabled
  rw [replied] at performed
  have course := Dialogue.course_bind_ok machine _
    (fun _ => (do perform command; waitReady pause timeout : Operation Unit)) enables
  rw [Dialogue.course_bind_ok machine _ _ performed] at course
  obtain ⟨shown, sound, waited, quiet⟩ := waitReady_paced paces stays pause timeout
  rw [reached] at shown waited
  have enabling : changes [⟨.execute (.simple Opcode.writeEnable), ⟨[], .ok ()⟩⟩] = [] := rfl
  intro operation ran
  have same : ran = _ := course
  rw [same]
  refine ⟨shown, sound, waited, ?_⟩
  rw [changes_append, enabling, changes_append, changes_cons, if_pos change, quiet]
  rfl

end Pace

end SpiProgrammer.Flash
