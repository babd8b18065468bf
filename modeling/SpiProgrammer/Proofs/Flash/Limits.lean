import SpiProgrammer.Proofs.Flash.Asking
import SpiProgrammer.Proofs.Flash.Cycle
import SpiProgrammer.Proofs.Flash.Pieces

/-! # Operations and the limits of the programmer

Main statements: with a programmer that can read one byte and send a header with one byte of data,
every command that an operation executes fits the programmer in both directions, whoever answers
and whatever is answered. -/
set_option autoImplicit false

namespace SpiProgrammer

namespace Spi

/-- The command fits a transaction of the programmer in both directions. -/
structure Capabilities.Admits (capabilities : Capabilities) (command : Command) : Prop where
  sent : command.sent.length ≤ capabilities.maxWrite
  read : command.readLength ≤ capabilities.maxRead

instance (capabilities : Capabilities) (command : Command) :
    Decidable (capabilities.Admits command) :=
  decidable_of_iff (command.sent.length ≤ capabilities.maxWrite ∧
      command.readLength ≤ capabilities.maxRead)
    ⟨fun both => ⟨both.1, both.2⟩, fun admits => ⟨admits.sent, admits.read⟩⟩

/-- What is asked of the programmer is within its limits. -/
def Capabilities.Allows (capabilities : Capabilities) : MasterRequest → Prop
  | .execute command => capabilities.Admits command
  | .delay _ => True

theorem AddressWidth.header_le (width : AddressWidth) : 1 + width.bytes ≤ 5 := by
  cases width <;> decide

variable {capabilities : Capabilities}

theorem admits_write (opcode : UInt8) (address : UInt32) {width : AddressWidth} {data : Bytes}
    (fits : 1 + width.bytes + data.length ≤ capabilities.maxWrite) :
    capabilities.Admits (.write opcode address width data) := by
  refine ⟨?_, Nat.zero_le _⟩
  rw [Command.sent_write, List.length_cons, List.length_append, width.encode_length]
  omega

theorem admits_read (opcode : UInt8) (address : UInt32) {width : AddressWidth} {length : Nat}
    (sends : 1 + width.bytes ≤ capabilities.maxWrite) (reads : length ≤ capabilities.maxRead) :
    capabilities.Admits (.read opcode address width length) := by
  refine ⟨?_, reads⟩
  rw [Command.sent_read, List.length_cons, width.encode_length]
  omega

theorem admits_erase (opcode : UInt8) (address : UInt32) {width : AddressWidth}
    (sends : 1 + width.bytes ≤ capabilities.maxWrite) :
    capabilities.Admits (.erase opcode address width) :=
  @admits_write capabilities opcode address width [] sends

theorem admits_simple (opcode : UInt8) (sends : 1 ≤ capabilities.maxWrite) :
    capabilities.Admits (.simple opcode) :=
  ⟨by rwa [Command.sent_simple], Nat.zero_le _⟩

theorem admits_register (opcode : UInt8) {length : Nat} (sends : 1 ≤ capabilities.maxWrite)
    (reads : length ≤ capabilities.maxRead) :
    capabilities.Admits (.readRegister opcode length) :=
  ⟨by rwa [Command.sent_readRegister], reads⟩

end Spi

namespace Flash

open Spi

section Limits

variable {capabilities : Capabilities} (sends : 1 ≤ capabilities.maxWrite)
include sends

theorem asks_writeEnable : writeEnable.run.Asks capabilities.Allows :=
  perform_asks (admits_simple _ sends)

variable (reads : 1 ≤ capabilities.maxRead)
include reads

theorem allows_serves : Serves capabilities.Allows where
  looks := admits_register _ sends reads
  delays _ := trivial
  enables := admits_simple _ sends

theorem asks_readStatus : readStatus.run.Asks capabilities.Allows :=
  readStatus_asks (allows_serves sends reads).looks

theorem asks_waitReady (pause timeout : Nat) :
    (waitReady pause timeout).run.Asks capabilities.Allows :=
  waitReady_asks (allows_serves sends reads).toWaits pause timeout

theorem asks_programPage {address : UInt32} {width : AddressWidth} {data : Bytes}
    (fits : 1 + width.bytes + data.length ≤ capabilities.maxWrite) :
    (programPage address width data).run.Asks capabilities.Allows :=
  change_asks (allows_serves sends reads) (admits_write _ _ fits) 10 10000

theorem asks_programPieces {width : AddressWidth} {pieces : List Piece}
    (fits : ∀ piece ∈ pieces, 1 + width.bytes + piece.length ≤ capabilities.maxWrite)
    (data : Bytes) : (programPieces width pieces data).run.Asks capabilities.Allows := by
  refine programPieces_asks (allows_serves sends reads) ?_ data
  intro piece member part short
  have whole := fits piece member
  exact admits_write _ _ (by omega)

theorem asks_program (address : UInt32) (data : Bytes) :
    (program capabilities address data).run.Asks capabilities.Allows := by
  unfold program
  cases accepted : programPlan capabilities address.toNat data.length with
  | error error => trivial
  | ok plan => exact asks_programPieces sends reads (programmable_of_plan accepted).fits data

theorem asks_eraseSector {width : AddressWidth} (address : UInt32)
    (fits : 1 + width.bytes ≤ capabilities.maxWrite) :
    (eraseSector address width).run.Asks capabilities.Allows :=
  change_asks (allows_serves sends reads) (admits_erase _ _ fits) 10000 1000000

theorem asks_eraseSectors {width : AddressWidth} (fits : 1 + width.bytes ≤ capabilities.maxWrite)
    (found : List Nat) : (eraseSectors width found).run.Asks capabilities.Allows :=
  eraseSectors_asks (allows_serves sends reads) fun _ _ => admits_erase _ _ fits

theorem asks_erase (header : 5 ≤ capabilities.maxWrite) (address length : UInt32) :
    (erase capabilities address length).run.Asks capabilities.Allows := by
  unfold erase
  cases accepted : erasePlan capabilities address.toNat length.toNat with
  | error error => trivial
  | ok plan =>
    have fits := Nat.le_trans plan.1.header_le header
    exact asks_eraseSectors sends reads fits plan.2

theorem asks_eraseChip : eraseChip.run.Asks capabilities.Allows :=
  change_asks (allows_serves sends reads) (admits_simple _ sends) 1000000 200000000

end Limits

section Reading

variable {capabilities : Capabilities}

theorem asks_readIdentity (sends : 1 ≤ capabilities.maxWrite) (reads : 3 ≤ capabilities.maxRead) :
    readIdentity.run.Asks capabilities.Allows := by
  refine Dialogue.asks_bind_except (readRegister_asks (admits_register _ sends reads)) ?_
  intro bytes
  cases Identity.ofBytes? bytes <;> trivial

theorem asks_readPieces {width : AddressWidth} (header : 1 + width.bytes ≤ capabilities.maxWrite)
    {pieces : List Piece} (fits : ∀ piece ∈ pieces, piece.length ≤ capabilities.maxRead)
    (filled buffer : Bytes) : (readPieces width pieces filled buffer).Asks capabilities.Allows :=
  readPieces_asks (fun piece member => admits_read _ _ header (fits piece member)) filled buffer

theorem asks_readInto (header : 5 ≤ capabilities.maxWrite) (address : UInt32) (buffer : Bytes) :
    (readInto capabilities address buffer).Asks capabilities.Allows := by
  unfold readInto
  cases accepted : readPlan capabilities address.toNat buffer.length with
  | error error => trivial
  | ok plan =>
    have fits := Nat.le_trans plan.1.header_le header
    exact asks_readPieces fits (readable_of_plan accepted).fits [] buffer

theorem asks_read (header : 5 ≤ capabilities.maxWrite) (address : UInt32) (length : Nat) :
    (read capabilities address length).run.Asks capabilities.Allows := by
  unfold read
  cases accepted : readPlan capabilities address.toNat length with
  | error error => trivial
  | ok plan =>
    have fits := Nat.le_trans plan.1.header_le header
    have pieces := asks_readPieces fits (readable_of_plan accepted).fits []
      (List.replicate length 0)
    show ((liftM (readPieces plan.1 plan.2 [] (List.replicate length 0)) : Operation _) >>= _
      ).run.Asks capabilities.Allows
    refine Dialogue.asks_bind_except (Dialogue.asks_bind pieces fun _ => trivial) ?_
    rintro ⟨bytes, outcome⟩
    cases outcome <;> trivial

end Reading

end Flash

end SpiProgrammer
