import SpiProgrammer.Flash.Memory

/-! # A serial NOR flash chip

The chip sees one chip-select cycle at a time: the bytes sent to it and the number of bytes then
read from it.  Programming and erasing happen only while the write-enable latch is set; they
reset it and keep the chip busy for a number of status reads.  A page program wraps inside its
page.  A line that the chip does not drive reads as all ones. -/
set_option autoImplicit false

namespace SpiProgrammer.Flash

open Spi

structure Chip where
  identity : Bytes := [0xEF, 0x40, 0x18]
  /-- How many status reads show the chip busy after it has begun to program or erase. -/
  busyPolls : Nat := 0
  /-- How many of them are still to come. -/
  busyLeft : Nat := 0
  /-- Status bits that are always set. -/
  statusBits : UInt8 := 0
  writeEnabled : Bool := false
  memory : Memory := .erased
  /-- Cells that read as a fixed value whatever is stored in them. -/
  stuck : Std.TreeMap Nat UInt8 := ∅

namespace Chip

def read (chip : Chip) (address : Nat) : UInt8 :=
  (chip.stuck[address]?).getD (chip.memory.get address)

/-- Consecutive addresses, starting again at zero behind the last. -/
def readMany (chip : Chip) (address length : Nat) : Bytes :=
  (List.range length).map fun index => chip.read ((address + index) % Memory.addressSpace)

def status (chip : Chip) : UInt8 :=
  (if chip.busyLeft > 0 then 1 else 0) ||| (if chip.writeEnabled then 2 else 0) ||| chip.statusBits

/-- The memory changes if the latch is set. -/
def change (chip : Chip) (f : Memory → Memory) : Chip :=
  if chip.writeEnabled then
    { chip with memory := f chip.memory, writeEnabled := false, busyLeft := chip.busyPolls }
  else chip

/-- Programs bytes one after the other, inside the page of the first. -/
def programPage (memory : Memory) (address : Nat) (data : Bytes) : Memory :=
  let base := address - address % Opcode.pageSize
  data.zipIdx.foldl
    (fun memory entry => memory.program (base + (address + entry.2) % Opcode.pageSize) entry.1)
    memory

inductive Addressed where
  | read
  | program
  | erase
deriving DecidableEq, Repr

/-- The address bytes that an opcode takes and what it does with the address. -/
def addressed? (opcode : UInt8) : Option (AddressWidth × Addressed) :=
  [AddressWidth.three, .four].findSome? fun width =>
    if opcode = Opcode.read width then some (width, .read)
    else if opcode = Opcode.programPage width then some (width, .program)
    else if opcode = Opcode.eraseSector width then some (width, .erase)
    else none

/-- What the chip drives while `length` bytes are read, where an undriven line reads as ones. -/
def undriven (length : Nat) : Bytes :=
  List.replicate length 0xFF

/-- A cycle whose opcode takes an address and whose address is complete. -/
def transferAddressed (chip : Chip) (action : Addressed) (address : Nat) (data : Bytes)
    (length : Nat) : Bytes × Chip :=
  match action with
  | .read => (chip.readMany address length, chip)
  | .program => (undriven length, chip.change fun memory => programPage memory address data)
  | .erase => (undriven length, chip.change fun memory => memory.eraseSector address)

/-- One chip-select cycle: the bytes sent, the number of bytes read, the bytes that were read and
the chip afterwards. -/
def transfer (chip : Chip) (sent : Bytes) (length : Nat) : Bytes × Chip :=
  match sent with
  | [] => (undriven length, chip)
  | opcode :: rest =>
    if opcode = Opcode.readIdentity then
      ((List.range length).map fun index => chip.identity.getD index 0, chip)
    else if opcode = Opcode.readStatus then
      (List.replicate length chip.status, { chip with busyLeft := chip.busyLeft - 1 })
    else if opcode = Opcode.writeEnable then
      (undriven length, { chip with writeEnabled := true })
    else if opcode = Opcode.eraseChip then
      (undriven length, chip.change fun _ => .erased)
    else
      match addressed? opcode with
      | some (width, action) =>
        if width.bytes ≤ rest.length then
          chip.transferAddressed action (Bytes.toNatBE (rest.take width.bytes))
            (rest.drop width.bytes) length
        else (undriven length, chip)
      | none => (undriven length, chip)

end Chip

end SpiProgrammer.Flash
