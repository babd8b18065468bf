import SpiProgrammer.Spi.Master
import SpiProgrammer.Text.Numeral

/-! # Identity and status of the chip -/
set_option autoImplicit false

namespace SpiProgrammer.Flash

open Spi

structure Identity where
  manufacturer : UInt8
  device : UInt16
deriving DecidableEq, Repr

/-- Two and four hexadecimal digits. -/
def Identity.text (identity : Identity) : String :=
  Text.hex 2 identity.manufacturer.toNat ++ " " ++ Text.hex 4 identity.device.toNat

/-- Reads a register of `length` bytes; a byte that did not arrive counts as zero. -/
def readRegister (opcode : UInt8) (length : Nat) : Operation Bytes :=
  ExceptT.mk do
    let reply ← execute (.readRegister opcode length)
    return reply.outcome.map fun _ => Bytes.overlay (List.replicate length 0) reply.bytes

/-- Three identity bytes, the manufacturer first.  All zeros or all ones mean that nobody drove
the line, so there is no chip. -/
def Identity.ofBytes? (bytes : Bytes) : Option Identity :=
  if bytes.all (· == 0x00) || bytes.all (· == 0xFF) then none
  else some ⟨bytes.getD 0 0, (bytes.getD 1 0).toUInt16 <<< 8 ||| (bytes.getD 2 0).toUInt16⟩

def readIdentity : Operation Identity := do
  match Identity.ofBytes? (← readRegister Opcode.readIdentity 3) with
  | none => throw .chipNotFound
  | some identity =>
    note .debug ("JEDEC ID: " ++ identity.text)
    return identity

def readStatus : Operation UInt8 := do
  return (← readRegister Opcode.readStatus 1).headD 0

/-- Sets the latch without which the chip ignores programming and erasing. -/
def writeEnable : Operation Unit :=
  perform (.simple Opcode.writeEnable)

end SpiProgrammer.Flash
