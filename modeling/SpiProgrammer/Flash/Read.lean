import SpiProgrammer.Flash.Range

/-! # Reading memory

The range is read in pieces as large as the master takes.  Each piece fills its part of the
buffer and is then reported; the first piece that fails ends the reading, and the buffer keeps
what had arrived. -/
set_option autoImplicit false

namespace SpiProgrammer.Flash

open Spi

def readPlan (capabilities : Capabilities) (address length : Nat) :
    Except Error (AddressWidth × List Piece) := do
  let width ← addressWidthFor capabilities.features (address + length)
  if capabilities.maxRead = 0 then throw .bufferTooLarge
  return (width, cut (fun _ => capabilities.maxRead) address length)

/-- Reads piece after piece into the buffer.  `filled` holds the bytes of the pieces already
read, the latest first. -/
def readPieces (width : AddressWidth) :
    List Piece → (filled buffer : Bytes) → Dialogue Master (Received Error)
  | [], filled, buffer => return ⟨filled.reverse ++ buffer, .ok ()⟩
  | piece :: rest, filled, buffer => do
    let reply ← execute (.read (Opcode.read width) (.ofNat piece.address) width piece.length)
    let part := Bytes.overlay (buffer.take piece.length) reply.bytes
    let filled := part.reverse ++ filled
    let buffer := buffer.drop piece.length
    match reply.outcome with
    | .error error => return ⟨filled.reverse ++ buffer, .error error⟩
    | .ok () =>
      progress piece.length
      readPieces width rest filled buffer

def readInto (capabilities : Capabilities) (address : UInt32) (buffer : Bytes) :
    Dialogue Master (Received Error) :=
  match readPlan capabilities address.toNat buffer.length with
  | .error error => return ⟨buffer, .error error⟩
  | .ok (width, pieces) => readPieces width pieces [] buffer

def read (capabilities : Capabilities) (address : UInt32) (length : Nat) : Operation Bytes := do
  let (width, pieces) ← readPlan capabilities address.toNat length
  let reply ← readPieces width pieces [] (List.replicate length 0)
  reply.outcome
  return reply.bytes

end SpiProgrammer.Flash
