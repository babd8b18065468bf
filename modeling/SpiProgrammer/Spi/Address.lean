import SpiProgrammer.Bytes

/-! # Flash addresses on the wire

An address is sent high byte first in as many bytes as the command's width has.  A width
reaches the addresses below its size; of a larger one the low bytes are sent. -/
set_option autoImplicit false

namespace SpiProgrammer.Spi

inductive AddressWidth where
  | absent
  | three
  | four
deriving DecidableEq, Repr

namespace AddressWidth

def bytes : AddressWidth → Nat
  | .absent => 0
  | .three => 3
  | .four => 4

/-- How many addresses the width can tell apart, counted as a command needs them: a command
without an address reaches none. -/
def size : AddressWidth → Nat
  | .absent => 0
  | .three => 0x1000000
  | .four => 0x100000000

def encode (width : AddressWidth) (address : UInt32) : Bytes :=
  (Bytes.ofUInt32BE address).drop (4 - width.bytes)

/-- The buffer with the address bytes stored at its start, if they fit. -/
def store? (width : AddressWidth) (address : UInt32) (buffer : Bytes) : Option Bytes :=
  if width.bytes ≤ buffer.length then some (Bytes.overlay buffer (width.encode address)) else none

theorem encode_length (width : AddressWidth) (address : UInt32) :
    (width.encode address).length = width.bytes := by
  cases width <;> simp [encode, bytes, Bytes.ofUInt32BE]

end AddressWidth

end SpiProgrammer.Spi
