import SpiProgrammer.Flash.Change
import SpiProgrammer.Flash.Wired
import SpiProgrammer.Proofs.Dialogue.Ensures
import SpiProgrammer.Proofs.Flash.Cycle

/-! # Masters that drive a chip

A master drives a chip if every command it executes is a cycle of the chip, and every command that
fails was a cycle with a first part of what was to be sent.  Main statements: what waiting, a page
program and a sector erase do to the memory of the chip, whether they succeed or fail. -/
set_option autoImplicit false

namespace SpiProgrammer.Flash

open Spi

/-- How a command ends on a chip, and the chip afterwards. -/
inductive Chip.Carried (chip : Chip) (sent : Bytes) (length : Nat) : Received Error → Chip → Prop
  | well : Carried chip sent length ⟨(chip.transfer sent length).1, .ok ()⟩
    (chip.transfer sent length).2
  | failed (bytes : Bytes) (error : Error) (count other : Nat) : Carried chip sent length
    ⟨bytes, .error error⟩ (chip.transfer (sent.take count) other).2

/-- In sound states the machine drives the chip that `chip` sees in them, and it stays sound. -/
structure Drives {σ : Type} (machine : Machine σ Master) (chip : σ → Chip) (Sound : σ → Prop) :
    Prop where
  delays : ∀ time state, Sound state →
    Sound (machine (.delay time) state).2 ∧ chip (machine (.delay time) state).2 = chip state
  executes : ∀ command state, Sound state →
    Sound (machine (.execute command) state).2 ∧
      (chip state).Carried command.sent command.readLength (machine (.execute command) state).1
        (chip (machine (.execute command) state).2)

theorem Wired.machine_execute {wired : Wired} (unfailing : wired.failures = [])
    (command : Command) :
    let cycle := wired.chip.transfer command.sent command.readLength
    Wired.machine (.execute command) wired =
      (⟨cycle.1, .ok ()⟩,
        { wired with executed := wired.executed + 1, chip := cycle.2 }) := by
  simp only [Wired.machine, unfailing, List.lookup_nil]

theorem Wired.drives : Drives Wired.machine Wired.chip fun wired => wired.failures = [] where
  delays _ _ unfailing := ⟨unfailing, rfl⟩
  executes command wired unfailing := by
    rw [Wired.machine_execute unfailing command]
    exact ⟨unfailing, .well⟩

def Unfailing {σ : Type} (machine : Machine σ Master) (Sound : σ → Prop) : Prop :=
  ∀ command state, Sound state → (machine (.execute command) state).1.outcome = .ok ()

theorem Wired.unfailing : Unfailing Wired.machine fun wired => wired.failures = [] := by
  intro command wired none
  rw [Wired.machine_execute none command]

/-- What the cycles of a chip leave alone: all but its memory and what shows in its status. -/
structure Chip.Alike (chip other : Chip) : Prop where
  identity : other.identity = chip.identity
  busyPolls : other.busyPolls = chip.busyPolls
  statusBits : other.statusBits = chip.statusBits
  stuck : other.stuck = chip.stuck

theorem Chip.Alike.trans {chip middle last : Chip} (first : chip.Alike middle)
    (second : middle.Alike last) : chip.Alike last :=
  ⟨second.identity.trans first.identity, second.busyPolls.trans first.busyPolls,
    second.statusBits.trans first.statusBits, second.stuck.trans first.stuck⟩

theorem Chip.alike_change (chip : Chip) (f : Memory → Memory) : chip.Alike (chip.change f) := by
  unfold change
  split <;> exact ⟨rfl, rfl, rfl, rfl⟩

theorem Chip.alike_transferAddressed (chip : Chip) (action : Addressed) (address : Nat)
    (data : Bytes) (length : Nat) :
    chip.Alike (chip.transferAddressed action address data length).2 := by
  cases action with
  | read => exact ⟨rfl, rfl, rfl, rfl⟩
  | program => exact chip.alike_change fun memory => programPage memory address data
  | erase => exact chip.alike_change fun memory => memory.eraseSector address

theorem Chip.alike_transfer (chip : Chip) (sent : Bytes) (length : Nat) :
    chip.Alike (chip.transfer sent length).2 := by
  have same : chip.Alike chip := ⟨rfl, rfl, rfl, rfl⟩
  cases sent with
  | nil => exact same
  | cons opcode rest =>
    simp only [transfer]
    split
    · exact same
    split
    · exact ⟨rfl, rfl, rfl, rfl⟩
    split
    · exact ⟨rfl, rfl, rfl, rfl⟩
    split
    · exact chip.alike_change fun _ => .erased
    split
    · split
      · exact chip.alike_transferAddressed ..
      · exact same
    · exact same

/-- The chips differ at most in how long they stay busy. -/
def Chip.Waited (chip other : Chip) : Prop :=
  ∃ left, other = { chip with busyLeft := left }

theorem Chip.Waited.trans {chip middle last : Chip} (first : chip.Waited middle)
    (second : middle.Waited last) : chip.Waited last := by
  obtain ⟨_, rfl⟩ := first
  obtain ⟨left, rfl⟩ := second
  exact ⟨left, rfl⟩

section Driving

variable {σ : Type} {machine : Machine σ Master} {chip : σ → Chip} {Sound : σ → Prop}

theorem Drives.keeps (drives : Drives machine chip Sound) (r : MasterRequest) (state : σ)
    (sound : Sound state) :
    Sound (machine r state).2 ∧ (chip state).Alike (chip (machine r state).2) := by
  cases r with
  | delay time =>
    obtain ⟨stays, same⟩ := drives.delays time state sound
    exact ⟨stays, by rw [same]; exact ⟨rfl, rfl, rfl, rfl⟩⟩
  | execute command =>
    obtain ⟨stays, carried⟩ := drives.executes command state sound
    refine ⟨stays, ?_⟩
    rcases went : machine (.execute command) state with ⟨received, next⟩
    rw [went] at carried
    generalize chip next = after at carried
    cases carried with
    | well => exact Chip.alike_transfer ..
    | failed => exact Chip.alike_transfer ..

variable {state : σ}

theorem execute_unfailing (drives : Drives machine chip Sound)
    (unfailing : Unfailing machine Sound) (sound : Sound state) (command : Command) :
    let executed := machine (.execute command) state
    let cycle := (chip state).transfer command.sent command.readLength
    executed.1 = ⟨cycle.1, .ok ()⟩ ∧ Sound executed.2 ∧ chip executed.2 = cycle.2 := by
  intro executed cycle
  obtain ⟨stays, carried⟩ := drives.executes command state sound
  have well := unfailing command state sound
  rcases went : machine (.execute command) state with ⟨received, next⟩
  rw [went] at stays carried well
  simp only [executed, cycle, went]
  simp only at stays carried well
  generalize reached : chip next = after at carried
  cases carried with
  | well => exact ⟨rfl, stays, rfl⟩
  | failed => cases well

theorem perform_driven (drives : Drives machine chip Sound) (sound : Sound state)
    (command : Command) :
    Dialogue.Ensures machine (perform command) state
      (fun _ next => Sound next ∧
        chip next = ((chip state).transfer command.sent command.readLength).2)
      (fun _ next => Sound next ∧ ∃ count length,
        chip next = ((chip state).transfer (command.sent.take count) length).2) := by
  obtain ⟨stays, carried⟩ := drives.executes command state sound
  have performs : (perform command).run.answer machine state =
      ((machine (.execute command) state).1.outcome, (machine (.execute command) state).2) := rfl
  unfold Dialogue.Ensures
  rw [performs]
  rcases went : machine (.execute command) state with ⟨received, next⟩
  rw [went] at stays carried
  simp only at stays carried ⊢
  generalize reached : chip next = after at carried
  cases carried with
  | well => exact ⟨stays, reached⟩
  | failed bytes error count length => exact ⟨stays, count, length, reached⟩

theorem readRegister_driven (drives : Drives machine chip Sound) (sound : Sound state)
    (opcode : UInt8) (length : Nat) :
    Dialogue.Ensures machine (readRegister opcode length) state
      (fun bytes next => Sound next ∧ bytes = ((chip state).transfer [opcode] length).1 ∧
        chip next = ((chip state).transfer [opcode] length).2)
      (fun _ next => Sound next ∧
        ∃ count other, chip next = ((chip state).transfer ([opcode].take count) other).2) := by
  obtain ⟨stays, carried⟩ := drives.executes (.readRegister opcode length) state sound
  have reads : (readRegister opcode length).run.answer machine state =
      let (reply, next) := machine (.execute (.readRegister opcode length)) state
      (reply.outcome.map fun _ => Bytes.overlay (List.replicate length 0) reply.bytes, next) := rfl
  unfold Dialogue.Ensures
  rw [reads]
  rcases went : machine (.execute (.readRegister opcode length)) state with ⟨received, next⟩
  rw [went] at stays carried
  rw [Command.sent_readRegister] at carried
  simp only at stays carried ⊢
  generalize reached : chip next = after at carried
  cases carried with
  | well =>
    refine ⟨stays, Bytes.overlay_whole ?_, reached⟩
    rw [List.length_replicate]
    exact (chip state).length_transfer [opcode] length
  | failed bytes error count length => exact ⟨stays, count, length, reached⟩

/-! ## Waiting -/

theorem readStatus_driven (drives : Drives machine chip Sound) (sound : Sound state) :
    Dialogue.Ensures machine readStatus state
      (fun status next => Sound next ∧ status = (chip state).status ∧
        chip next = { chip state with busyLeft := (chip state).busyLeft - 1 })
      (fun _ next => Sound next ∧ (chip state).Waited (chip next)) := by
  have register := readRegister_driven drives sound Opcode.readStatus 1
  refine register.step ?_ ?_
  · rintro error next ⟨stays, count, length, reached⟩
    refine ⟨stays, ?_⟩
    rw [reached]
    cases count with
    | zero => exact ⟨_, rfl⟩
    | succ count => exact ⟨_, rfl⟩
  · rintro bytes next ⟨stays, rfl, reached⟩
    exact ⟨stays, rfl, reached⟩

theorem pollUntilReady_driven (drives : Drives machine chip Sound) (pause limit : Nat) :
    ∀ state, Sound state → Dialogue.Ensures machine (pollUntilReady pause limit) state
      (fun _ next => Sound next ∧ (chip state).Waited (chip next))
      (fun _ next => Sound next ∧ (chip state).Waited (chip next)) := by
  induction limit with
  | zero => exact fun state sound => ⟨sound, _, rfl⟩
  | succ limit ih =>
    intro state sound
    refine (readStatus_driven drives sound).bind ?_
    rintro status next ⟨stays, rfl, reached⟩
    have waited : (chip state).Waited (chip next) := ⟨_, reached⟩
    have again (later : σ) (sound : Sound later) (same : chip later = chip next) :
        Dialogue.Ensures machine (pollUntilReady pause limit) later
          (fun _ last => Sound last ∧ (chip state).Waited (chip last))
          (fun _ last => Sound last ∧ (chip state).Waited (chip last)) := by
      rw [← same] at waited
      exact (ih later sound).imp (fun _ _ well => ⟨well.1, waited.trans well.2⟩)
        fun _ _ failed => ⟨failed.1, waited.trans failed.2⟩
    by_cases ready : (chip state).status &&& Opcode.busyBit = 0
    · rw [if_pos ready]
      exact Dialogue.ensures_pure ⟨stays, waited⟩
    · rw [if_neg ready]
      by_cases pauses : pause > 0
      · rw [if_pos pauses]
        obtain ⟨sound, same⟩ := drives.delays pause next stays
        exact Dialogue.ensures_lift (again _ sound same)
      · rw [if_neg pauses]
        exact again next stays rfl

theorem waitReady_driven (drives : Drives machine chip Sound) (sound : Sound state)
    (pause timeout : Nat) :
    Dialogue.Ensures machine (waitReady pause timeout) state
      (fun _ next => Sound next ∧ (chip state).Waited (chip next))
      (fun _ next => Sound next ∧ (chip state).Waited (chip next)) := by
  refine (pollUntilReady_driven drives pause _ state sound).bind fun ready next well => ?_
  cases ready with
  | true => exact well
  | false => exact well

/-! ## Programming and erasing -/

theorem writeEnable_driven (drives : Drives machine chip Sound) (sound : Sound state) :
    Dialogue.Ensures machine writeEnable state
      (fun _ next => Sound next ∧ chip next = { chip state with writeEnabled := true })
      (fun _ next => Sound next ∧ (chip next).memory = (chip state).memory) := by
  have performed := perform_driven drives sound (.simple Opcode.writeEnable)
  rw [Command.sent_simple] at performed
  refine performed.imp (fun _ _ well => well) ?_
  rintro error next ⟨stays, count, length, reached⟩
  refine ⟨stays, ?_⟩
  rw [reached]
  cases count <;> rfl

theorem Chip.Waited.memory {chip other : Chip} (waited : chip.Waited other) :
    other.memory = chip.memory := by
  obtain ⟨left, rfl⟩ := waited
  rfl

/-- Enabling, a command and the wait for it: a success leaves the memory that the whole cycle
leaves, a failure that of a cycle with a first part of the command. -/
theorem change_driven (drives : Drives machine chip Sound) (sound : Sound state)
    (command : Command) (pause timeout : Nat) :
    let enabled := { chip state with writeEnabled := true }
    Dialogue.Ensures machine (do writeEnable; perform command; waitReady pause timeout) state
      (fun _ next => Sound next ∧ (chip next).memory =
        (enabled.transfer command.sent command.readLength).2.memory)
      (fun _ next => Sound next ∧ ∃ count length, (chip next).memory =
        (enabled.transfer (command.sent.take count) length).2.memory) := by
  intro enabled
  refine (writeEnable_driven drives sound).step ?_ ?_
  · rintro error next ⟨stays, same⟩
    refine ⟨stays, 0, 0, ?_⟩
    rw [List.take_zero, Chip.transfer_nothing]
    exact same
  rintro _ latched ⟨stays, reached⟩
  have performed := perform_driven drives stays command
  rw [reached] at performed
  refine performed.step ?_ ?_
  · rintro error next ⟨stays, count, length, same⟩
    exact ⟨stays, count, length, congrArg Chip.memory same⟩
  rintro _ changed ⟨stays, same⟩
  have finished := congrArg Chip.memory same
  refine (waitReady_driven drives stays pause timeout).imp ?_ ?_
  · rintro _ next ⟨stays, waited⟩
    exact ⟨stays, waited.memory.trans finished⟩
  · rintro _ next ⟨stays, waited⟩
    refine ⟨stays, command.sent.length, command.readLength, ?_⟩
    rw [List.take_length]
    exact waited.memory.trans finished

section Places

variable {width : AddressWidth}

theorem programPage_driven (drives : Drives machine chip Sound) (sound : Sound state)
    (address : UInt32) (data : Bytes) (present : width ≠ .absent)
    (reached : address.toNat < width.size)
    (fits : address.toNat % Opcode.pageSize + data.length ≤ Opcode.pageSize) :
    Dialogue.Ensures machine (programPage address width data) state
      (fun _ next => Sound next ∧
        Burned address.toNat data (chip state).memory (chip next).memory)
      (fun _ next => Sound next ∧ ∃ reach, reach ≤ data.length ∧
        Burned address.toNat (data.take reach) (chip state).memory (chip next).memory) := by
  have changed := change_driven drives sound
    (.write (Opcode.programPage width) address width data) 10 10000
  rw [Command.sent_write] at changed
  refine changed.imp ?_ ?_
  · rintro _ next ⟨stays, whole⟩
    rw [Chip.transfer_program _ present reached rfl] at whole
    rw [whole]
    exact ⟨stays, Chip.get_programPage fits _⟩
  · rintro _ next ⟨stays, count, length, part⟩
    rw [part]
    exact ⟨stays, Chip.transfer_program_front _ present reached fits count length⟩

theorem eraseSector_driven (drives : Drives machine chip Sound) (sound : Sound state)
    (address : UInt32) (present : width ≠ .absent) (reached : address.toNat < width.size) :
    Dialogue.Ensures machine (eraseSector address width) state
      (fun _ next => Sound next ∧
        (chip next).memory = (chip state).memory.eraseSector address.toNat)
      (fun _ next => Sound next ∧ ((chip next).memory = (chip state).memory ∨
        (chip next).memory = (chip state).memory.eraseSector address.toNat)) := by
  have changed := change_driven drives sound
    (.erase (Opcode.eraseSector width) address width) 10000 1000000
  rw [Command.sent_erase] at changed
  refine changed.imp ?_ ?_
  · rintro _ next ⟨stays, whole⟩
    rw [Chip.transfer_erase _ present reached rfl] at whole
    exact ⟨stays, whole⟩
  · rintro _ next ⟨stays, count, length, part⟩
    rw [part]
    exact ⟨stays, Chip.transfer_erase_front _ present reached count length⟩

end Places

end Driving

end SpiProgrammer.Flash
