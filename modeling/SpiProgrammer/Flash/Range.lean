import SpiProgrammer.Spi.Master

/-! # Ranges of flash memory and how they are cut

A range is given by its address and its length.  Which address width reaches its end decides the
opcodes; the transaction limits of the master and the pages and sectors of the chip decide into
which pieces it is cut. -/
set_option autoImplicit false

namespace SpiProgrammer.Flash

open Spi

structure Piece where
  address : Nat
  length : Nat
deriving DecidableEq, Repr

/-- The width that reaches everything below `limit`, and no wider than needed.  Beyond sixteen
mebibytes the master has to support four address bytes. -/
def addressWidthFor (features : Features) (limit : Nat) : Except Error AddressWidth :=
  if limit ≤ AddressWidth.size .three then .ok .three
  else if AddressWidth.size .four < limit then .error .addressOutOfBounds
  else if features.contains .fourByteAddress then .ok .four
  else .error .fourByteAddressUnsupported

/-- Cuts a range into pieces of `size address left` bytes, each at most what is left; an empty
piece ends the cutting. -/
def cut (size : Nat → Nat) (address length : Nat) : List Piece :=
  let step := min (size address) length
  if _h : step = 0 then []
  else ⟨address, step⟩ :: cut size (address + step) (length - step)
termination_by length
decreasing_by omega

/-- The bytes from an address to the end of its page. -/
def pageRest (address : Nat) : Nat :=
  Opcode.pageSize - address % Opcode.pageSize

/-- The sectors of a range that begins and ends at sector boundaries. -/
def sectors (address length : Nat) : List Nat :=
  (List.range (length / Opcode.sectorSize)).map fun index => address + index * Opcode.sectorSize

end SpiProgrammer.Flash
