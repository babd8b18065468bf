import SpiProgrammer.Proofs.Flash.Containment
import SpiProgrammer.Proofs.Flash.Limits
import SpiProgrammer.Proofs.Flash.Reading

/-! # Which operations fit the programmer

Each operation looks at one limit of the programmer at most: reading at how much can be read,
programming at how much can be sent, erasing at none.  That limit is always kept.  The other is not
looked at, so whether all commands fit depends on it.

Main statement: for every operation on a range that is accepted, the exact condition under which
every command fits the programmer, whoever answers; an operation that is refused asks nothing. -/
set_option autoImplicit false

namespace SpiProgrammer.Flash

open Spi

/-- Whoever answers, every command that is executed fits the programmer. -/
def FitsWithin {α : Type} (capabilities : Capabilities) (d : Dialogue Master α) : Prop :=
  ∀ (σ : Type) (machine : Machine σ Master) (state : σ),
    ∀ made ∈ executed (d.run machine state).events, capabilities.Admits made.command

theorem fitsWithin_of_asks {α : Type} {capabilities : Capabilities} {d : Dialogue Master α}
    (asks : d.Asks capabilities.Allows) : FitsWithin capabilities d :=
  fun _ machine state => executed_of_asks asks machine state

/-! ## A master that does as it is asked -/

/-- Every command succeeds, and every byte that is read counts as zero. -/
def willing : Machine Unit Master
  | .execute _, _ => (⟨[], .ok ()⟩, ())
  | .delay _, _ => ((), ())

def done (command : Command) : Master.Event :=
  ⟨.execute command, ⟨[], .ok ()⟩⟩

theorem waitReady_willing (pause timeout : Nat) :
    (waitReady pause timeout).run.course willing () = ⟨.ok (), (), [done statusCommand]⟩ := by
  have polls : 0 < pollLimit pause timeout := Nat.le_max_right ..
  obtain ⟨limit, more⟩ := Nat.exists_eq_succ_of_ne_zero (Nat.ne_of_gt polls)
  unfold waitReady
  rw [more]
  rfl

theorem change_willing (command : Command) (pause timeout : Nat) :
    (do writeEnable; perform command; waitReady pause timeout : Operation Unit).run.course
        willing () =
      ⟨.ok (), (), [done (.simple Opcode.writeEnable), done command, done statusCommand]⟩ := by
  have enables : writeEnable.run.course willing () =
    ⟨.ok (), (), [done (.simple Opcode.writeEnable)]⟩ := rfl
  have performs : (perform command).run.course willing () = ⟨.ok (), (), [done command]⟩ := rfl
  rw [Dialogue.course_bind_ok _ _ _ enables, Dialogue.course_bind_ok _ _ _ performs,
    waitReady_willing]
  rfl

/-- A change and the look at the status behind it are executed by whatever begins with them. -/
theorem mem_change_willing {command : Command} {pause timeout : Nat}
    {rest : Unit → Operation Unit} {operation : Operation Unit}
    (begins : operation =
      (do writeEnable; perform command; waitReady pause timeout : Operation Unit) >>= rest) :
    let made := executed (operation.run.run willing ()).events
    (∃ first ∈ made, first.command = command) ∧ ∃ look ∈ made, look.command = statusCommand := by
  intro made
  have course := Dialogue.course_bind_ok willing _ rest (change_willing command pause timeout)
  rw [← begins] at course
  have events : (operation.run.run willing ()).events =
      [done (.simple Opcode.writeEnable), done command, done statusCommand] ++
        ((rest ()).run.course willing ()).events := congrArg Course.events course
  have shown : made = ⟨.simple Opcode.writeEnable, ⟨[], .ok ()⟩⟩ :: ⟨command, ⟨[], .ok ()⟩⟩ ::
      ⟨statusCommand, ⟨[], .ok ()⟩⟩ :: executed ((rest ()).run.course willing ()).events := by
    simp only [made, events]
    rfl
  rw [shown]
  exact ⟨⟨_, List.mem_cons_of_mem _ (List.mem_cons_self ..), rfl⟩,
    _, List.mem_cons_of_mem _ (List.mem_cons_of_mem _ (List.mem_cons_self ..)), rfl⟩

section Operations

variable {capabilities : Capabilities} {address : UInt32} {width : AddressWidth}

theorem reads_of_fitsWithin {operation : Operation Unit} {command : Command}
    {pause timeout : Nat} {rest : Unit → Operation Unit}
    (begins : operation =
      (do writeEnable; perform command; waitReady pause timeout : Operation Unit) >>= rest)
    (fits : FitsWithin capabilities operation.run) :
    capabilities.Admits command ∧ 1 ≤ capabilities.maxRead := by
  obtain ⟨⟨first, member, rfl⟩, look, looked, same⟩ := mem_change_willing begins
  have status := fits Unit willing () look looked
  rw [same] at status
  exact ⟨fits Unit willing () first member, status.read⟩

/-! ## Reading -/

theorem readInto_fitsWithin_iff {buffer : Bytes} {pieces : List Piece}
    (accepted : readPlan capabilities address.toNat buffer.length = .ok (width, pieces)) :
    FitsWithin capabilities (readInto capabilities address buffer) ↔
      buffer = [] ∨ 1 + width.bytes ≤ capabilities.maxWrite := by
  have plan := readable_of_plan accepted
  rw [readInto_of_plan accepted]
  constructor
  · intro fits
    cases pieces with
    | nil => exact .inl (List.eq_nil_of_length_eq_zero plan.tiles)
    | cons piece rest =>
      refine .inr ?_
      have first : (⟨piece.reading width, ⟨[], .ok ()⟩⟩ : Executed) ∈
          executed ((readPieces width (piece :: rest) [] buffer).run willing ()).events := by
        have begins : readPieces width (piece :: rest) [] buffer =
            execute (piece.reading width) >>= _ := rfl
        rw [begins, Dialogue.run_bind]
        exact List.mem_cons_self ..
      have sent := (fits Unit willing () _ first).sent
      rw [Piece.reading, Command.sent_read, List.length_cons, width.encode_length] at sent
      omega
  · rintro (rfl | header)
    · have nothing : pieces = [] := plan.tiles.eq_nil
      subst nothing
      exact fitsWithin_of_asks trivial
    · exact fitsWithin_of_asks (asks_readPieces header plan.fits [] buffer)

def ReadsAtMost (limit : Nat) : MasterRequest → Prop
  | .execute command => command.readLength ≤ limit
  | .delay _ => True

theorem readInto_reads_within (buffer : Bytes) {σ : Type} (machine : Machine σ Master)
    (state : σ) :
    ∀ made ∈ executed ((readInto capabilities address buffer).run machine state).events,
      made.command.readLength ≤ capabilities.maxRead := by
  have asks : (readInto capabilities address buffer).Asks (ReadsAtMost capabilities.maxRead) := by
    unfold readInto
    cases accepted : readPlan capabilities address.toNat buffer.length with
    | error error => trivial
    | ok plan => exact readPieces_asks (readable_of_plan accepted).fits [] buffer
  exact executed_of_asks asks machine state

/-! ## Programming -/

theorem program_fitsWithin_iff {data : Bytes} {pieces : List Piece}
    (accepted : programPlan capabilities address.toNat data.length = .ok (width, pieces)) :
    FitsWithin capabilities (program capabilities address data).run ↔
      data = [] ∨ 1 ≤ capabilities.maxRead := by
  have plan := programmable_of_plan accepted
  have wide := wide_of_plan accepted
  rw [program_of_plan accepted]
  constructor
  · intro fits
    cases pieces with
    | nil => exact .inl (List.eq_nil_of_length_eq_zero plan.tiles)
    | cons piece rest => exact .inr (reads_of_fitsWithin rfl fits).2
  · rintro (rfl | reads)
    · have nothing : pieces = [] := plan.tiles.eq_nil
      subst nothing
      exact fitsWithin_of_asks trivial
    · exact fitsWithin_of_asks (asks_programPieces (by omega) reads plan.fits data)

def SendsAtMost (limit : Nat) : MasterRequest → Prop
  | .execute command => command.sent.length ≤ limit
  | .delay _ => True

theorem serves_of_sendsAtMost {limit : Nat} (small : 1 ≤ limit) : Serves (SendsAtMost limit) where
  looks := by simpa [SendsAtMost, statusCommand, Command.sent_readRegister] using small
  delays := fun _ => trivial
  enables := by simpa [SendsAtMost, Command.sent_simple] using small

theorem program_sends_within (data : Bytes) {σ : Type} (machine : Machine σ Master) (state : σ) :
    ∀ made ∈ executed ((program capabilities address data).run.run machine state).events,
      made.command.sent.length ≤ capabilities.maxWrite := by
  have asks : (program capabilities address data).run.Asks
      (SendsAtMost capabilities.maxWrite) := by
    cases accepted : programPlan capabilities address.toNat data.length with
    | error error =>
      unfold program
      rw [accepted]
      trivial
    | ok plan =>
      have wide := wide_of_plan accepted
      rw [program_of_plan accepted]
      refine programPieces_asks (serves_of_sendsAtMost (by omega))
        (fun piece member part short => ?_) data
      have fits := (programmable_of_plan accepted).fits piece member
      exact (admits_write _ _ (by omega)).sent
  exact executed_of_asks asks machine state

/-! ## Erasing -/

theorem erase_fitsWithin_iff {length : UInt32} {found : List Nat}
    (accepted : erasePlan capabilities address.toNat length.toNat = .ok (width, found)) :
    FitsWithin capabilities (erase capabilities address length).run ↔
      length = 0 ∨ (1 + width.bytes ≤ capabilities.maxWrite ∧ 1 ≤ capabilities.maxRead) := by
  have plan := erasable_of_plan accepted
  have counted := plan.length_found
  rw [erase_of_plan accepted]
  constructor
  · intro fits
    cases found with
    | nil =>
      refine .inl (UInt32.toNat_inj.mp ?_)
      simp only [List.length_nil] at counted
      exact (by omega : length.toNat = 0)
    | cons sector rest =>
      obtain ⟨admits, reads⟩ := reads_of_fitsWithin rfl fits
      have sent := admits.sent
      rw [Command.sent_erase, List.length_cons, width.encode_length] at sent
      exact .inr ⟨by omega, reads⟩
  · rintro (rfl | ⟨header, reads⟩)
    · have nothing : found = [] := plan.sectors
      subst nothing
      exact fitsWithin_of_asks trivial
    · exact fitsWithin_of_asks (asks_eraseSectors (by omega) reads header found)

end Operations

/-- Whoever answers, nothing is asked, and this is the value. -/
def Refuses {α : Type} (d : Dialogue Master α) (value : α) : Prop :=
  ∀ (σ : Type) (machine : Machine σ Master) (state : σ),
    d.run machine state = ⟨value, state, [], []⟩

/-- Reading keeps the limit on what is read and programming that on what is sent.  A range that is
not reached is refused, and so is one for which the limit that is looked at leaves no room.  All
commands of a reading fit exactly if a header can be sent, those of programming exactly if a status
byte can be read, and those of erasing exactly if both can. -/
theorem transactions_fit_iff (capabilities : Capabilities) (address : UInt32) (bytes : Bytes)
    (length : UInt32) :
    let reads := readInto capabilities address bytes
    let programs := (program capabilities address bytes).run
    let erases := (erase capabilities address length).run
    let stop := address.toNat + bytes.length
    (∀ (σ : Type) (machine : Machine σ Master) (state : σ),
      (∀ made ∈ executed (reads.run machine state).events,
        made.command.readLength ≤ capabilities.maxRead) ∧
      ∀ made ∈ executed (programs.run machine state).events,
        made.command.sent.length ≤ capabilities.maxWrite) ∧
    (∀ error, addressWidthFor capabilities.features stop = .error error →
      Refuses reads ⟨bytes, .error error⟩ ∧ Refuses programs (.error error)) ∧
    (∀ width, Reached capabilities.features stop width →
      (capabilities.maxRead = 0 → Refuses reads ⟨bytes, .error .bufferTooLarge⟩) ∧
      (0 < capabilities.maxRead →
        (FitsWithin capabilities reads ↔ bytes = [] ∨ 1 + width.bytes ≤ capabilities.maxWrite)) ∧
      (capabilities.maxWrite ≤ 1 + width.bytes → Refuses programs (.error .bufferTooLarge)) ∧
      (1 + width.bytes < capabilities.maxWrite →
        (FitsWithin capabilities programs ↔ bytes = [] ∨ 1 ≤ capabilities.maxRead))) ∧
    (∀ error, erasePlan capabilities address.toNat length.toNat = .error error →
      Refuses erases (.error error)) ∧
    ∀ width found, erasePlan capabilities address.toNat length.toNat = .ok (width, found) →
      (FitsWithin capabilities erases ↔
        length = 0 ∨ (1 + width.bytes ≤ capabilities.maxWrite ∧ 1 ≤ capabilities.maxRead)) := by
  intro reads programs erases stop
  refine ⟨fun σ machine state => ⟨readInto_reads_within bytes machine state,
    program_sends_within bytes machine state⟩, fun error unreached => ⟨?_, ?_⟩,
    fun width reached => ⟨fun none => ?_, fun readable => ?_, fun narrow => ?_, fun wide => ?_⟩,
    fun error refused => ?_, fun width found => erase_fitsWithin_iff⟩
  · exact fun _ _ _ => readInto_refused (readPlan_of_unreached unreached)
  · exact fun _ _ _ => program_refused (programPlan_of_unreached unreached)
  · exact fun _ _ _ => readInto_refused (readPlan_of_unreadable reached none)
  · exact readInto_fitsWithin_iff (readPlan_of_readable reached readable)
  · exact fun _ _ _ => program_refused (programPlan_of_narrow reached narrow)
  · exact program_fitsWithin_iff (programPlan_eq_cut reached wide)
  · exact fun _ _ _ => erase_refused refused

/-- The smallest limits with which everything fits, and the same without a byte to read. -/
theorem transactions_fit_smallest_limits :
    let smallest : Capabilities := ⟨{}, 1, 5⟩
    let blind : Capabilities := ⟨{}, 0, 5⟩
    Reached {} (0x1000 + 1) .three ∧
      FitsWithin smallest (readInto smallest 0x1000 [0xAA]) ∧
      FitsWithin smallest (program smallest 0x1000 [0xAA]).run ∧
      FitsWithin smallest (erase smallest 0x1000 0x1000).run ∧
      Refuses (readInto blind 0x1000 [0xAA]) ⟨[0xAA], .error .bufferTooLarge⟩ ∧
      ¬ FitsWithin blind (program blind 0x1000 [0xAA]).run := by
  intro smallest blind
  have reached : Reached {} (0x1000 + 1) .three := .three (by decide)
  obtain ⟨-, -, fit, -, erasing⟩ := transactions_fit_iff smallest 0x1000 [0xAA] 0x1000
  obtain ⟨-, -, unfit, -, -⟩ := transactions_fit_iff blind 0x1000 [0xAA] 0x1000
  obtain ⟨-, reads, -, programs⟩ := fit .three reached
  obtain ⟨refused, -, -, blindly⟩ := unfit .three reached
  have erases := erasing .three _ (erasePlan_of_sectors rfl rfl (by decide))
  refine ⟨reached, (reads (by decide)).mpr (.inr (by decide)),
    (programs (by decide)).mpr (.inr (by decide)), erases.mpr (.inr ⟨by decide, by decide⟩),
    refused rfl, fun fits => ?_⟩
  exact absurd ((blindly (by decide)).mp fits) (by decide)

/-- A master that sends two bytes at once is asked to send four, by reading and by erasing, and one
that reads nothing is asked to read the status. -/
theorem unlooked_limits_exceeded :
    let short : Capabilities := ⟨{}, 64, 2⟩
    let blind : Capabilities := ⟨{}, 0, 64⟩
    ¬ FitsWithin short (readInto short 0 [0xAA]) ∧
      ¬ FitsWithin short (erase short 0 0x1000).run ∧
      ¬ FitsWithin blind (program blind 0 [0x21]).run := by
  intro short blind
  have reached : Reached {} (0 + 1) .three := .three (by decide)
  refine ⟨fun fits => ?_, fun fits => ?_, fun fits => ?_⟩
  · have header := (readInto_fitsWithin_iff (readPlan_of_readable reached (by decide))).mp fits
    exact absurd header (by decide)
  · have limits := (erase_fitsWithin_iff (erasePlan_of_sectors rfl rfl (by decide))).mp fits
    exact absurd limits (by decide)
  · have status := (program_fitsWithin_iff (programPlan_eq_cut reached (by decide))).mp fits
    exact absurd status (by decide)

end SpiProgrammer.Flash
