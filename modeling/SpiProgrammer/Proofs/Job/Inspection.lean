import SpiProgrammer.Job.Inspect
import SpiProgrammer.Proofs.Flash.Asking
import SpiProgrammer.Proofs.Session.Execution

/-! # Jobs that only look

A command that reads the identity, the status or the memory changes nothing that the chip keeps,
and neither does any first part of it, which is what a transaction that fails half way leaves to
the chip.  Main statement: showing the programmer, looking for the chip and reading it leave the
memory and the write-enable latch as they are, whatever faults strike the transfers. -/
set_option autoImplicit false

namespace SpiProgrammer

namespace Flash

open Spi

/-- The opcodes that read the identity, the status and the memory. -/
def Inspecting (opcode : UInt8) : Prop :=
  opcode = Opcode.readIdentity ∨ opcode = Opcode.readStatus ∨ ∃ width, opcode = Opcode.read width

/-- The memory and the write-enable latch are the same. -/
structure Chip.Untouched (chip other : Chip) : Prop where
  memory : other.memory = chip.memory
  latch : other.writeEnabled = chip.writeEnabled

namespace Chip

theorem Untouched.refl (chip : Chip) : chip.Untouched chip := ⟨rfl, rfl⟩

theorem Untouched.trans {chip middle last : Chip} (first : chip.Untouched middle)
    (second : middle.Untouched last) : chip.Untouched last :=
  ⟨second.memory.trans first.memory, second.latch.trans first.latch⟩

/-- Whatever is sent behind its opcode, and also if nothing is sent at all. -/
theorem transfer_inspecting (chip : Chip) {opcode : UInt8} (inspecting : Inspecting opcode)
    (rest : Bytes) (count length : Nat) :
    chip.Untouched (chip.transfer ((opcode :: rest).take count) length).2 := by
  cases count with
  | zero => exact .refl chip
  | succ count =>
    rw [List.take_succ_cons]
    rcases inspecting with rfl | rfl | ⟨width, rfl⟩
    · exact .refl chip
    · exact ⟨rfl, rfl⟩
    · rw [transfer_read_opcode]
      exact .refl chip

theorem Carried.untouched {chip after : Chip} {command : Command} {received : Received Error}
    (inspecting : Inspecting command.opcode)
    (carried : chip.Carried command.sent command.readLength received after) :
    chip.Untouched after := by
  cases carried with
  | well =>
    have whole := chip.transfer_inspecting inspecting
      (command.addressBytes ++ List.replicate command.dummyLength 0xFF ++ command.data)
      command.sent.length command.readLength
    show chip.Untouched (chip.transfer command.sent command.readLength).2
    rwa [← List.take_length (l := command.sent)]
  -- a transaction that fails leaves to the chip what has been sent by then
  | failed bytes error count other => exact chip.transfer_inspecting inspecting _ count other

end Chip

/-! ## Operations that only look -/

def Inspects : MasterRequest → Prop
  | .execute command => Inspecting command.opcode
  | .delay _ => True

theorem readIdentity_inspects : readIdentity.run.Asks Inspects := by
  refine Dialogue.asks_bind_except (readRegister_asks (.inl rfl)) fun bytes => ?_
  cases Identity.ofBytes? bytes <;> trivial

theorem readStatus_inspects : readStatus.run.Asks Inspects :=
  readStatus_asks (.inr (.inl rfl))

theorem readPieces_inspects (width : AddressWidth) (pieces : List Piece) (filled buffer : Bytes) :
    (readPieces width pieces filled buffer).Asks Inspects :=
  readPieces_asks (fun _ _ => .inr (.inr ⟨width, rfl⟩)) filled buffer

theorem read_inspects (capabilities : Capabilities) (address : UInt32) (length : Nat) :
    (read capabilities address length).run.Asks Inspects := by
  unfold read
  cases readPlan capabilities address.toNat length with
  | error error => trivial
  | ok plan =>
    have pieces := readPieces_inspects plan.1 plan.2 [] (List.replicate length 0)
    show ((liftM (readPieces plan.1 plan.2 [] (List.replicate length 0)) : Operation _) >>= _
      ).run.Asks Inspects
    refine Dialogue.asks_bind_except (Dialogue.asks_bind pieces fun _ => trivial) ?_
    rintro ⟨bytes, outcome⟩
    cases outcome <;> trivial

end Flash

namespace Job

/-! ## Jobs that only look -/

/-- Of the chip nothing is asked but to be looked at; of the files, anything. -/
def Inspects : Workplace.Request → Prop
  | .inl r => Flash.Inspects r
  | .inr _ => True

section Parts

variable {α : Type}

theorem attempt_inspects {operation : Spi.Operation α}
    (inspects : operation.run.Asks Flash.Inspects) : (attempt operation).Asks Inspects :=
  Dialogue.asks_onLeft inspects

theorem onChip_inspects {operation : Spi.Operation α}
    (inspects : operation.run.Asks Flash.Inspects) : (onChip operation).run.Asks Inspects :=
  Dialogue.asks_bind (attempt_inspects inspects) fun _ => trivial

theorem createFile_inspects (path : String) (contents : Bytes) :
    (createFile path contents).run.Asks Inspects :=
  ⟨trivial, fun _ => trivial⟩

end Parts

theorem identify_inspects : (liftM (attempt Flash.readIdentity) : Job _).run.Asks Inspects :=
  Dialogue.asks_bind (attempt_inspects Flash.readIdentity_inspects) fun _ => trivial

theorem printDescription_inspects (session : Session) :
    (printDescription session).run.Asks Inspects :=
  trivial

theorem info_inspects (session : Session) (capabilities : Spi.Capabilities) :
    (info session capabilities).run.Asks Inspects := by
  unfold info
  refine Dialogue.asks_bind_except (printDescription_inspects session) fun _ => ?_
  refine Dialogue.asks_bind_except trivial fun _ => ?_
  refine Dialogue.asks_bind_except identify_inspects fun outcome => ?_
  cases outcome <;> trivial

theorem probe_inspects : probe.run.Asks Inspects := by
  unfold probe
  refine Dialogue.asks_bind_except identify_inspects fun outcome => ?_
  cases outcome with
  | error error => trivial
  | ok identity =>
    refine Dialogue.asks_bind_except trivial fun _ => ?_
    refine Dialogue.asks_bind_except trivial fun _ => ?_
    exact Dialogue.asks_bind_except (onChip_inspects Flash.readStatus_inspects) fun _ => trivial

theorem read_inspects (capabilities : Spi.Capabilities) (path : String)
    (address length : UInt32) : (read capabilities path address length).run.Asks Inspects := by
  unfold read
  refine Dialogue.asks_bind_except
    (onChip_inspects (Flash.read_inspects capabilities address length.toNat)) fun contents => ?_
  exact Dialogue.asks_bind_except (createFile_inspects path contents) fun _ => trivial

/-! ## Over a session -/

open Bridge (Emulator Peer)

section Sessions

variable {τ : Type} (files : Machine τ Files)

/-- An emulated bridge in step whose chip has not been touched since. -/
def Untouched (emulator : Emulator) (place : Peer × τ) : Prop :=
  ∃ after, place.1 = .emulated after ∧ after.InStep ∧ emulator.chip.Untouched after.chip

/-- The machine that the bridge and the files are for a job over a session. -/
def workplace : Machine (Peer × τ) Workplace :=
  (Peer.machine.both files).serving (Dialogue.serveLeft Session.serve)

theorem workplace_chip (r : Spi.MasterRequest) (emulator : Emulator) (store : τ) :
    workplace files (.inl r) (.emulated emulator, store) =
      ((Session.served r emulator).1, (.emulated (Session.served r emulator).2, store)) := by
  show (Session.serve r).onLeft.answer (Peer.machine.both files) (.emulated emulator, store) = _
  simp only [Dialogue.answer, Dialogue.run_onLeft, Emulator.run_emulated]
  rfl

theorem workplace_untouched {emulator : Emulator} (r : Workplace.Request) (place : Peer × τ)
    (inspects : Inspects r) (untouched : Untouched emulator place) :
    Untouched emulator (workplace files r place).2 := by
  obtain ⟨peer, store⟩ := place
  obtain ⟨before, same, inStep, kept⟩ := untouched
  subst same
  cases r with
  | inr r => exact ⟨before, rfl, inStep, kept⟩
  | inl r =>
    rw [workplace_chip]
    refine ⟨_, rfl, ?_⟩
    cases r with
    | delay microseconds =>
      obtain ⟨stays, same⟩ := Session.served_drives.delays microseconds before inStep
      rw [same]
      exact ⟨stays, kept⟩
    | execute command =>
      obtain ⟨stays, carried⟩ := Session.served_drives.executes command before inStep
      exact ⟨stays, kept.trans (carried.untouched inspects)⟩

theorem run_untouched {emulator : Emulator} (inStep : emulator.InStep) (store : τ)
    {job : Job Unit} (inspects : job.run.Asks Inspects) :
    Untouched emulator ((job.run.throughLeft Session.serve).run (Peer.machine.both files)
      (.emulated emulator, store)).state := by
  have kept := Dialogue.answer_keeps_of_asks (workplace_untouched files) inspects
    (.emulated emulator, store) ⟨emulator, rfl, inStep, .refl _⟩
  rw [workplace, ← Dialogue.answer_through] at kept
  exact kept

end Sessions

/-- Over an emulated bridge in step, in which opening a session and whatever is done with it leave
it, showing the programmer, looking for the chip and reading it leave the memory of the chip and
its write-enable latch as they were, whatever faults and statuses the bridge has in store and
however the job ends. -/
theorem inspection_touches_nothing {τ : Type} (files : Machine τ Files) (store : τ)
    {emulator : Emulator} (inStep : emulator.InStep) (session : Session)
    (capabilities : Spi.Capabilities) (path : String) (address length : UInt32) :
    ∀ job ∈ [info session capabilities, probe, read capabilities path address length],
      let ran := (job.run.throughLeft Session.serve).run (Peer.machine.both files)
        (.emulated emulator, store)
      ∃ after, ran.state.1 = .emulated after ∧ after.InStep ∧
        after.chip.memory = emulator.chip.memory ∧
        after.chip.writeEnabled = emulator.chip.writeEnabled := by
  intro job member ran
  have inspects : job.run.Asks Inspects := by
    simp only [List.mem_cons, List.not_mem_nil, or_false] at member
    rcases member with rfl | rfl | rfl
    · exact info_inspects session capabilities
    · exact probe_inspects
    · exact read_inspects capabilities path address length
  obtain ⟨after, same, stays, untouched⟩ := run_untouched files inStep store inspects
  exact ⟨after, same, stays, untouched.memory, untouched.latch⟩

/-- The chip is looked for while its latch is set and a byte is left over from an earlier write, and
the first read fails, so that the identity command goes to the chip without one. -/
theorem failed_probe_touches_nothing :
    let emulator : Emulator :=
      { faults := [⟨0x22, 1, .sendFails⟩], pending := [0x06], chip := { writeEnabled := true } }
    let files : Machine Unit Files := fun r state =>
      match r with
      | .read _ => (.ok [], state)
      | .create _ _ => (.ok (), state)
    emulator.InStep ∧ ∃ after, ((probe.run.throughLeft Session.serve).run
        (Peer.machine.both files) (.emulated emulator, ())).state.1 = .emulated after ∧
      after.InStep ∧ after.chip.memory = emulator.chip.memory ∧
      after.chip.writeEnabled = emulator.chip.writeEnabled := by
  intro emulator files
  have inStep : emulator.InStep := ⟨rfl, rfl⟩
  let session : Session := ⟨⟨3, 3, 0, 0, 3, 0x0483, 0x374F⟩, Bridge.Clock.negotiate 48000 1000⟩
  exact ⟨inStep, inspection_touches_nothing files () inStep session Session.capabilities "" 0 0
    probe (List.mem_cons_of_mem _ List.mem_cons_self)⟩

end Job

end SpiProgrammer
