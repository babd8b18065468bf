import SpiProgrammer.Flash.Change
import SpiProgrammer.Flash.Read
import SpiProgrammer.Proofs.Session.Execution

/-! # A session is a master wired to the chip

Main statement: over an emulated bridge that nothing disturbs, whatever is asked of a session is
answered as by a master whose cycles reach the chip directly, with the limits of a session. -/
set_option autoImplicit false

namespace SpiProgrammer

namespace Bridge.Emulator

structure FaultFree (emulator : Emulator) : Prop where
  faults : emulator.faults = []
  statuses : ∀ status ∈ emulator.statuses, status = 0

variable {emulator : Emulator}

theorem spared_nil (functions : List Nat) : spared [] functions := by
  induction functions with
  | nil => trivial
  | cons function rest ih => exact ⟨rfl, ih⟩

theorem FaultFree.calm (faultFree : emulator.FaultFree) (functions : List Nat) (looks : Nat) :
    emulator.Calm functions looks := by
  refine ⟨?_, fun status told => faultFree.statuses status (List.mem_of_mem_take told)⟩
  rw [faultFree.faults]
  exact spared_nil functions

theorem FaultFree.spend (faultFree : emulator.FaultFree) (functions : List Nat) (looks : Nat) :
    (emulator.spend functions looks).FaultFree := by
  have passed : functions.foldl passTurn [] = [] := by
    induction functions with
    | nil => rfl
    | cons function rest ih => exact ih
  refine ⟨?_, fun status told => faultFree.statuses status (List.mem_of_mem_drop told)⟩
  simp only [Emulator.spend, faultFree.faults, passed]

end Bridge.Emulator

namespace Flash.Chip

def executes (chip : Chip) (command : Spi.Command) : Received Spi.Error × Chip :=
  let (bytes, chip) := chip.transfer command.sent command.readLength
  (⟨bytes, .ok ()⟩, chip)

/-- A chip whose cycles a master drives directly.  Commands that are too long for the master are
refused. -/
def master (limit : Nat) : Machine Chip Spi.Master
  | .execute command, chip =>
    if limit < command.sent.length ∨ limit < command.readLength then
      (⟨[], .error .bufferTooLarge⟩, chip)
    else chip.executes command
  | .delay _, chip => ((), chip)

def executesAll (limit : Nat) (chip : Chip) : List Spi.Command → List (Received Spi.Error) × Chip
  | [] => ([], chip)
  | command :: rest =>
    let first := master limit (.execute command) chip
    let later := executesAll limit first.2 rest
    (first.1 :: later.1, later.2)

end Flash.Chip

namespace Session

open Bridge (Emulator Peer transferMax)
open Flash (Chip)

/-- The undisturbed bridge in step, with this chip behind it. -/
structure Carries (emulator : Emulator) (chip : Chip) : Prop where
  inStep : emulator.InStep
  faultFree : emulator.FaultFree
  same : emulator.chip = chip

variable {emulator : Emulator} {chip : Chip}

theorem execute_carries (carries : Carries emulator chip) {command : Spi.Command}
    (fits : capabilities.Admits command) :
    let executed := (execute command).answer Emulator.machine emulator
    executed.1 = (chip.executes command).1 ∧ Carries executed.2 (chip.executes command).2 := by
  have ended := execute_ended carries.inStep fits
  rcases went : (execute command).answer Emulator.machine emulator with ⟨received, next⟩
  rw [went] at ended
  cases ended with
  | well =>
    obtain ⟨inStep, faultFree, rfl⟩ := carries
    have calm := faultFree.spend
      (Bridge.transactionFunctions command.sent command.readLength) 2
    exact ⟨rfl, ⟨inStep.noReply, inStep.expectsFrame⟩, ⟨calm.faults, calm.statuses⟩, rfl⟩
  | broken disturbed =>
    exact absurd (carries.faultFree.calm _ _) disturbed

theorem serve_carries (r : Spi.MasterRequest) (_ : True) (emulator : Emulator) (chip : Chip)
    (carries : Carries emulator chip) :
    (served r emulator).1 = (Chip.master transferMax r chip).1 ∧
      Carries (served r emulator).2 (Chip.master transferMax r chip).2 := by
  cases r with
  | delay time => exact ⟨rfl, carries⟩
  | execute command =>
    show ((execute command).answer Emulator.machine emulator).1 =
        (if transferMax < command.sent.length ∨ transferMax < command.readLength then
          (⟨[], .error .bufferTooLarge⟩, chip) else chip.executes command).1 ∧
      Carries ((execute command).answer Emulator.machine emulator).2
        (if transferMax < command.sent.length ∨ transferMax < command.readLength then
          (⟨[], .error .bufferTooLarge⟩, chip) else chip.executes command).2
    by_cases fits : capabilities.Admits command
    · have short : ¬ (transferMax < command.sent.length ∨ transferMax < command.readLength) := by
        exact fun long => long.elim (Nat.not_lt_of_le fits.sent) (Nat.not_lt_of_le fits.read)
      rw [if_neg short]
      exact execute_carries carries fits
    · have long : transferMax < command.sent.length ∨ transferMax < command.readLength := by
        refine Decidable.byContradiction fun short => fits ⟨?_, ?_⟩
        · exact Nat.le_of_not_lt fun sent => short (.inl sent)
        · exact Nat.le_of_not_lt fun read => short (.inr read)
      rw [if_pos long, Dialogue.answer_of_course (execute_refuses Emulator.machine fits emulator)]
      exact ⟨rfl, carries⟩

/-- What a notice tells apart from the log. -/
def told : Notice → Option Notice
  | .log _ => none
  | notice => some notice

theorem told_log {notice : Notice} (log : notice.IsLog) : told notice = none := by
  obtain ⟨record, rfl⟩ := log
  rfl

/-- The run of a session shows the same as a direct run that ends with this chip: its value, the
chip and what is told apart from the log. -/
structure Agrees {α τ : Type} (session : Transcript Bridge.Link Peer α)
    (direct : Transcript Spi.Master τ α) (chip : Chip) : Prop where
  value : session.value = direct.value
  state : ∃ after, session.state = .emulated after ∧ Carries after chip
  notices : session.notices.filterMap told = direct.notices.filterMap told

section Agreement

variable {α τ : Type} {direct : Machine τ Spi.Master} {P : Spi.MasterRequest → Prop}

theorem onLink_agrees (chipOf : τ → Chip) (Related : Emulator → τ → Prop)
    (carries : ∀ emulator state, Related emulator state → Carries emulator (chipOf state))
    (alike : ∀ r, P r → ∀ emulator state, Related emulator state →
      (served r emulator).1 = (direct r state).1 ∧ Related (served r emulator).2 (direct r state).2)
    {d : Dialogue Spi.Master α} (asks : d.Asks P) {emulator : Emulator} {state : τ}
    (related : Related emulator state) :
    let ran := d.run direct state
    Agrees ((onLink d).run Peer.machine (.emulated emulator)) ran (chipOf ran.state) := by
  intro ran
  obtain ⟨value, follows, -, notices⟩ :=
    Dialogue.run_related Related alike asks emulator state related
  obtain ⟨sameValue, sameState, sameNotices⟩ := onLink_run told (fun _ => told_log) d emulator
  refine ⟨sameValue.trans value, ⟨_, sameState, carries _ _ follows⟩, ?_⟩
  exact sameNotices.trans (congrArg _ notices)

end Agreement

/-- The operations on the chip, as a master with the capabilities of a session carries them out. -/
inductive Offered : {α : Type} → Dialogue Spi.Master α → Prop
  | readIdentity : Offered Flash.readIdentity.run
  | readStatus : Offered Flash.readStatus.run
  | writeEnable : Offered Flash.writeEnable.run
  | waitReady (pause timeout : Nat) : Offered (Flash.waitReady pause timeout).run
  | readInto (address : UInt32) (buffer : Bytes) :
    Offered (Flash.readInto capabilities address buffer)
  | read (address : UInt32) (length : Nat) : Offered (Flash.read capabilities address length).run
  | programPage (address : UInt32) (width : Spi.AddressWidth) (data : Bytes)
    (fits : 1 + width.bytes + data.length ≤ transferMax) :
    Offered (Flash.programPage address width data).run
  | program (address : UInt32) (data : Bytes) :
    Offered (Flash.program capabilities address data).run
  | eraseSector (address : UInt32) (width : Spi.AddressWidth) :
    Offered (Flash.eraseSector address width).run
  | erase (address length : UInt32) : Offered (Flash.erase capabilities address length).run
  | eraseChip : Offered Flash.eraseChip.run

theorem Offered.asks {α : Type} {d : Dialogue Spi.Master α} (offered : Offered d) :
    d.Asks capabilities.Allows := by
  have sends : 1 ≤ capabilities.maxWrite := by decide
  have reads : 1 ≤ capabilities.maxRead := by decide
  have header : 5 ≤ capabilities.maxWrite := by decide
  cases offered with
  | readIdentity => exact Flash.asks_readIdentity sends (by decide)
  | readStatus => exact Flash.asks_readStatus sends reads
  | writeEnable => exact Flash.asks_writeEnable sends
  | waitReady pause timeout => exact Flash.asks_waitReady sends reads pause timeout
  | readInto address buffer => exact Flash.asks_readInto header address buffer
  | read address length => exact Flash.asks_read header address length
  | programPage address width data fits => exact Flash.asks_programPage sends reads fits
  | program address data => exact Flash.asks_program sends reads address data
  | eraseSector address width =>
    exact Flash.asks_eraseSector sends reads address (Nat.le_trans width.header_le header)
  | erase address length => exact Flash.asks_erase sends reads header address length
  | eraseChip => exact Flash.asks_eraseChip sends reads

theorem serve_wired (r : Spi.MasterRequest) (allowed : capabilities.Allows r) (emulator : Emulator)
    (wired : Flash.Wired) (related : Carries emulator wired.chip ∧ wired.failures = []) :
    (served r emulator).1 = (Flash.Wired.machine r wired).1 ∧
      Carries (served r emulator).2 (Flash.Wired.machine r wired).2.chip ∧
      (Flash.Wired.machine r wired).2.failures = [] := by
  obtain ⟨carries, unfailing⟩ := related
  cases r with
  | delay time => exact ⟨rfl, carries, unfailing⟩
  | execute command =>
    obtain ⟨reply, follows⟩ := execute_carries carries allowed
    rw [Flash.Wired.machine_execute unfailing command]
    exact ⟨reply, follows, unfailing⟩

theorem executesAll_carries (commands : List Spi.Command) :
    ∀ (emulator : Emulator) (chip : Chip), Carries emulator chip →
      let ran := (commands.mapM execute).answer Emulator.machine emulator
      let direct := chip.executesAll transferMax commands
      ran.1 = direct.1 ∧ Carries ran.2 direct.2 := by
  induction commands with
  | nil =>
    intro emulator chip carries
    exact ⟨rfl, carries⟩
  | cons command rest ih =>
    intro emulator chip carries
    obtain ⟨reply, follows⟩ := serve_carries (.execute command) trivial emulator chip carries
    obtain ⟨replies, last⟩ := ih _ _ follows
    intro ran direct
    let first := served (.execute command) emulator
    let later := (rest.mapM execute).answer Emulator.machine first.2
    have split : ran = (first.1 :: later.1, later.2) := by
      simp only [ran, List.mapM_cons, Dialogue.answer_bind, Dialogue.answer_pure]
      rfl
    rw [split]
    refine ⟨?_, last⟩
    show first.1 :: later.1 = _
    rw [reply, replies]
    rfl

/-- Over an emulated bridge in step, in which `start` leaves it, and that nothing disturbs, a
session is a master wired to the chip.  A sequence of commands gets the replies of the direct
cycles and leaves their chip; a command that does not fit is refused without a transfer, on
whatever bridge; every dialogue agrees with the one held with a chip whose master has the limits
of a session; and the operations on the chip, which always fit, agree with those on a wired chip,
which has no limits. -/
theorem session_refines_chip {emulator : Emulator} (inStep : emulator.InStep)
    (faultFree : emulator.FaultFree) :
    (∀ commands : List Spi.Command,
      let ran := (commands.mapM execute).run Peer.machine (.emulated emulator)
      let direct := emulator.chip.executesAll transferMax commands
      ran.value = direct.1 ∧ ∃ after, ran.state = .emulated after ∧ Carries after direct.2) ∧
    (∀ (command : Spi.Command) (peer : Peer),
      transferMax < command.sent.length ∨ transferMax < command.readLength →
      let ran := (execute command).run Peer.machine peer
      ran.value = ⟨[], .error .bufferTooLarge⟩ ∧ ran.events = [] ∧ ran.state = peer) ∧
    (∀ {α : Type} (d : Dialogue Spi.Master α),
      let direct := d.run (Chip.master transferMax) emulator.chip
      Agrees ((onLink d).run Peer.machine (.emulated emulator)) direct direct.state) ∧
    (∀ {α : Type} {d : Dialogue Spi.Master α}, Offered d → ∀ wired : Flash.Wired,
      wired.chip = emulator.chip → wired.failures = [] →
      let direct := d.run Flash.Wired.machine wired
      Agrees ((onLink d).run Peer.machine (.emulated emulator)) direct direct.state.chip) := by
  have carries : Carries emulator emulator.chip := ⟨inStep, faultFree, rfl⟩
  refine ⟨fun commands => ?_, fun command peer long => ?_, fun d => ?_, ?_⟩
  · obtain ⟨replies, follows⟩ := executesAll_carries commands emulator emulator.chip carries
    rw [Emulator.run_emulated]
    exact ⟨replies, _, rfl, follows⟩
  · have refused : ¬ capabilities.Admits command := fun admits =>
      long.elim (Nat.not_lt_of_le admits.sent) (Nat.not_lt_of_le admits.read)
    have course := execute_refuses Peer.machine refused peer
    exact ⟨congrArg Course.value course, congrArg Course.events course,
      congrArg Course.state course⟩
  · exact onLink_agrees id (fun emulator chip => Carries emulator chip) (fun _ _ carries => carries)
      serve_carries (d.asks_any fun _ => trivial) carries
  · intro α d offered wired same unfailing
    exact onLink_agrees Flash.Wired.chip _ (fun _ _ related => related.1) serve_wired offered.asks
      ⟨same ▸ carries, unfailing⟩

/-- Five bytes are programmed over two that are stored already.  The bridge keeps bytes that never
became a cycle, the command goes on behind its frame, and the chip is busy for one look at it. -/
theorem session_refines_programmed_chip :
    let memory := (Flash.Memory.erased.set 0x1000 0xF0).set 0x1002 0x3C
    let emulator : Emulator := { pending := [0x05, 0x12], chip := { memory, busyPolls := 1 } }
    let commands : List Spi.Command :=
      [.simple Spi.Opcode.writeEnable,
        .write (Spi.Opcode.programPage .three) 0x1000 .three [0x12, 0x34, 0x56, 0x78, 0x9A],
        .readRegister Spi.Opcode.readStatus 1, .readRegister Spi.Opcode.readStatus 1,
        .read (Spi.Opcode.read .three) 0x0FFF .three 7]
    let ran := (commands.mapM execute).run Peer.machine (.emulated emulator)
    (emulator.InStep ∧ emulator.FaultFree) ∧
      ran.value.map Received.bytes =
        [[], [], [0x01], [0x00], [0xFF, 0x10, 0x34, 0x14, 0x78, 0x9A, 0xFF]] ∧
      (∀ received ∈ ran.value, received.outcome = .ok ()) ∧
      ∃ after, ran.state = .emulated after ∧ after.chip.memory.get 0x1000 = 0x10 := by
  intro memory emulator commands ran
  have inStep : emulator.InStep := ⟨rfl, rfl⟩
  have faultFree : emulator.FaultFree := ⟨rfl, nofun⟩
  obtain ⟨value, after, state, carries⟩ := (session_refines_chip inStep faultFree).1 commands
  refine ⟨⟨inStep, faultFree⟩, ?_, ?_, after, state, ?_⟩
  · rw [value]
    decide +kernel
  · rw [value]
    decide +kernel
  · rw [carries.same]
    decide +kernel

end Session

end SpiProgrammer
