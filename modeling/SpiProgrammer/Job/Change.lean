import SpiProgrammer.Flash.Change
import SpiProgrammer.Flash.Read
import SpiProgrammer.Job.Basic

/-! # Erasing the chip and writing a file to it

An erase takes a range or the whole chip.  An image is programmed as it is, on request after the
sectors it covers have been erased, and is then read back unless that is not wanted. -/
set_option autoImplicit false

namespace SpiProgrammer.Job

/-- Erases a range if a length is given, and everything if none is and the address is zero. -/
def erase (capabilities : Spi.Capabilities) (address : UInt32) (length : Option UInt32) :
    Job Unit := do
  match length with
  | some length =>
    onChip (Flash.erase capabilities address length)
    say ("Erased " ++ toString length.toNat ++ " bytes starting at 0x" ++
      Text.hex 8 address.toNat)
  | none =>
    if address ≠ 0 then throw .lengthRequired
    onChip Flash.eraseChip
    say "Chip erase complete"

/-! ## Writing -/

/-- The length of the whole sectors that `length` bytes cover from an address on, which has to
begin a sector. -/
def eraseSpan (address : UInt32) (length : Nat) : Except Failure Nat :=
  let size := Spi.Opcode.sectorSize
  let span := (length + (size - 1)) / size * size
  if address.toNat % size ≠ 0 then .error (.unalignedErase address)
  else if 0x100000000 ≤ span then .error .imageTooLarge
  else .ok span

def eraseFor (capabilities : Spi.Capabilities) (address : UInt32) (image : Bytes) :
    Job Unit := do
  let span ← eraseSpan address image.length
  if span ≠ image.length then
    note .warn ("Erasing " ++ toString (span - image.length) ++
      " bytes past the end of the image to reach a sector boundary")
  onChip (Flash.erase capabilities address (.ofNat span))

/-- The first place where two byte strings differ, with both bytes. -/
def firstMismatch? (wrote read : Bytes) : Option (Nat × UInt8 × UInt8) :=
  ((wrote.zip read).zipIdx.find? fun entry => entry.1.1 != entry.1.2).map fun entry =>
    (entry.2, entry.1)

def verify (capabilities : Spi.Capabilities) (address : UInt32) (image : Bytes) : Job Unit := do
  let found ← onChip (Flash.read capabilities address image.length)
  match firstMismatch? image found with
  | some (index, wrote, read) => throw (.verification (address.toNat + index) wrote read)
  | none => say ("Verified " ++ toString image.length ++ " bytes")

def write (capabilities : Spi.Capabilities) (path : String) (address : UInt32)
    (eraseFirst verifyAfter : Bool) : Job Unit := do
  let image ← readFile path
  if image.isEmpty then throw (.emptyImage path)
  if eraseFirst then eraseFor capabilities address image
  onChip (Flash.program capabilities address image)
  if verifyAfter then verify capabilities address image
  say ("Wrote " ++ toString image.length ++ " bytes at 0x" ++ Text.hex 8 address.toNat)

end SpiProgrammer.Job
