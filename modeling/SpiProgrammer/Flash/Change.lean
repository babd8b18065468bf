import SpiProgrammer.Flash.Identity
import SpiProgrammer.Flash.Range

/-! # Programming and erasing memory

Programming clears bits, so the range should have been erased.  A piece never leaves its page and
never exceeds what the master sends in one transaction.  Erasing sets every bit of a sector, or of
the whole chip; a range is erased sector by sector and must begin and end at sector boundaries.
Each change is enabled, sent and waited for before the next.

Waiting reads the status until the busy bit is clear, with a pause after each busy answer.  How
often it is read is fixed beforehand from the pause and the time allowed, and is at least once. -/
set_option autoImplicit false

namespace SpiProgrammer.Flash

open Spi

/-! ## Waiting for the chip -/

/-- How often the status is read at most. -/
def pollLimit (pause timeout : Nat) : Nat :=
  max (timeout / max pause 1) 1

/-- Reads the status until it shows the chip ready, `limit` times at most; says whether it did. -/
def pollUntilReady (pause : Nat) : (limit : Nat) → Operation Bool
  | 0 => return false
  | limit + 1 => do
    if (← readStatus) &&& Opcode.busyBit = 0 then return true
    if pause > 0 then delay pause
    pollUntilReady pause limit

def waitReady (pause timeout : Nat) : Operation Unit := do
  unless ← pollUntilReady pause (pollLimit pause timeout) do
    note .warn ("Flash still busy after " ++ toString timeout ++ " us")
    throw .stillBusy

/-! ## Programming -/

/-- Programs within one page.  A page takes a few milliseconds at most, so the status is read
every ten microseconds for ten milliseconds. -/
def programPage (address : UInt32) (width : AddressWidth) (data : Bytes) : Operation Unit := do
  writeEnable
  perform (.write (Opcode.programPage width) address width data)
  waitReady 10 10000

def programPlan (capabilities : Capabilities) (address length : Nat) :
    Except Error (AddressWidth × List Piece) := do
  let width ← addressWidthFor capabilities.features (address + length)
  let room := capabilities.maxWrite - (1 + width.bytes)
  if room = 0 then throw .bufferTooLarge
  return (width, cut (fun address => min (pageRest address) room) address length)

/-- Programs piece after piece, each from the front of the data that are left. -/
def programPieces (width : AddressWidth) : List Piece → (data : Bytes) → Operation Unit
  | [], _ => return
  | piece :: rest, data => do
    programPage (.ofNat piece.address) width (data.take piece.length)
    progress piece.length
    programPieces width rest (data.drop piece.length)

def program (capabilities : Capabilities) (address : UInt32) (data : Bytes) : Operation Unit := do
  let (width, pieces) ← programPlan capabilities address.toNat data.length
  programPieces width pieces data

/-! ## Erasing -/

/-- Erases the sector that holds the address.  A sector takes up to half a second, so the status
is read every ten milliseconds for a second. -/
def eraseSector (address : UInt32) (width : AddressWidth) : Operation Unit := do
  writeEnable
  perform (.erase (Opcode.eraseSector width) address width)
  waitReady 10000 1000000

/-- The address width and the sectors in which a range is erased.  The first
address behind the range has to be a 32-bit number itself. -/
def erasePlan (capabilities : Capabilities) (address length : Nat) :
    Except Error (AddressWidth × List Nat) := do
  if address % Opcode.sectorSize ≠ 0 ∨ length % Opcode.sectorSize ≠ 0 then
    throw .invalidAlignment
  if 0x100000000 ≤ address + length then throw .addressOutOfBounds
  let width ← addressWidthFor capabilities.features (address + length)
  return (width, sectors address length)

def eraseSectors (width : AddressWidth) : List Nat → Operation Unit
  | [] => return
  | sector :: rest => do
    eraseSector (.ofNat sector) width
    progress Opcode.sectorSize
    eraseSectors width rest

def erase (capabilities : Capabilities) (address length : UInt32) : Operation Unit := do
  let (width, found) ← erasePlan capabilities address.toNat length.toNat
  eraseSectors width found

/-- Erases everything.  A large chip takes minutes, so the status is read every second for two
hundred seconds. -/
def eraseChip : Operation Unit := do
  writeEnable
  perform (.simple Opcode.eraseChip)
  waitReady 1000000 200000000

end SpiProgrammer.Flash
