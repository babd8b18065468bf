import SpiProgrammer.Spi.Opcode

/-! # Commands of one chip-select cycle

A command sends its header and its data and then reads.  The header is the opcode, the address
if there is one, and a byte of ones for every eight dummy cycles begun. -/
set_option autoImplicit false

namespace SpiProgrammer.Spi

structure Command where
  opcode : UInt8
  address : Option UInt32 := none
  width : AddressWidth := .absent
  dummyCycles : UInt8 := 0
  data : Bytes := []
  readLength : Nat := 0
deriving DecidableEq, Repr

namespace Command

def simple (opcode : UInt8) : Command :=
  { opcode }

def readRegister (opcode : UInt8) (length : Nat) : Command :=
  { opcode, readLength := length }

def read (opcode : UInt8) (address : UInt32) (width : AddressWidth) (length : Nat) : Command :=
  { opcode, address := some address, width, readLength := length }

def write (opcode : UInt8) (address : UInt32) (width : AddressWidth) (data : Bytes) : Command :=
  { opcode, address := some address, width, data }

def erase (opcode : UInt8) (address : UInt32) (width : AddressWidth) : Command :=
  { opcode, address := some address, width }

def withDummyCycles (command : Command) (cycles : UInt8) : Command :=
  { command with dummyCycles := cycles }

/-- How many bytes the address takes: none if the command has no address. -/
def addressLength (command : Command) : Nat :=
  match command.address with
  | some _ => command.width.bytes
  | none => 0

def dummyLength (command : Command) : Nat :=
  (command.dummyCycles.toNat + 7) / 8

def headerLength (command : Command) : Nat :=
  1 + command.addressLength + command.dummyLength

def addressBytes (command : Command) : Bytes :=
  match command.address with
  | some address => command.width.encode address
  | none => []

/-- Opcode, address and dummy bytes, as they are sent. -/
def header (command : Command) : Bytes :=
  command.opcode :: command.addressBytes ++ List.replicate command.dummyLength 0xFF

def sent (command : Command) : Bytes :=
  command.header ++ command.data

/-- The buffer with the address, if there is one, stored behind its first byte. -/
def storeAddress? (command : Command) (buffer : Bytes) : Option Bytes :=
  match command.address with
  | some address => (command.width.store? address (buffer.drop 1)).map (buffer.take 1 ++ ·)
  | none => some buffer

/-- Stores the header at the start of a buffer, part by part, where every part has to fit.  Gives
the number of bytes that it takes, and the buffer. -/
def encodeHeader? (command : Command) (buffer : Bytes) : Option (Nat × Bytes) := do
  let length := command.headerLength
  let buffer ← Bytes.fill? 0 1 command.opcode buffer
  let buffer ← command.storeAddress? buffer
  let buffer ← Bytes.fill? (1 + command.addressLength) length 0xFF buffer
  return (length, buffer)

def storeHeader? (command : Command) (buffer : Bytes) : Option Bytes :=
  (command.encodeHeader? buffer).map Prod.snd

theorem addressBytes_length (command : Command) :
    command.addressBytes.length = command.addressLength := by
  unfold addressBytes addressLength
  cases command.address with
  | none => rfl
  | some address => exact command.width.encode_length address

theorem header_length (command : Command) : command.header.length = command.headerLength := by
  simp only [header, headerLength, List.length_append, List.length_cons, List.length_replicate,
    addressBytes_length]
  omega

end Command

end SpiProgrammer.Spi
