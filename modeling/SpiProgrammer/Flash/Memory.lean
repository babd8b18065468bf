import SpiProgrammer.Bytes
import SpiProgrammer.Spi.Opcode
import Std.Data.TreeMap

/-! # Flash memory

Memory is kept sector by sector, and only where something has been stored: an address without an
entry reads as all ones, which is the erased state.  Erasing a sector therefore forgets it.
The view of a memory is `get`. -/
set_option autoImplicit false

namespace SpiProgrammer.Flash

open Spi

structure Memory where
  sectors : Std.TreeMap Nat (Std.TreeMap Nat UInt8) := ∅

namespace Memory

def addressSpace : Nat := 0x100000000

def erasedByte : UInt8 := 0xFF

def erased : Memory := {}

def sectorOf (address : Nat) : Nat := address / Opcode.sectorSize

/-- The entries of the sector that holds the address. -/
def cells (memory : Memory) (address : Nat) : Std.TreeMap Nat UInt8 :=
  memory.sectors.getD (sectorOf address) ∅

def get (memory : Memory) (address : Nat) : UInt8 :=
  (memory.cells address).getD address erasedByte

def set (memory : Memory) (address : Nat) (byte : UInt8) : Memory :=
  ⟨memory.sectors.insert (sectorOf address) ((memory.cells address).insert address byte)⟩

def eraseSector (memory : Memory) (address : Nat) : Memory :=
  ⟨memory.sectors.erase (sectorOf address)⟩

/-- Programming can only clear bits: the byte becomes the conjunction of old and new. -/
def program (memory : Memory) (address : Nat) (byte : UInt8) : Memory :=
  memory.set address (memory.get address &&& byte)

theorem get_set (memory : Memory) (address other : Nat) (byte : UInt8) :
    (memory.set address byte).get other = if address = other then byte else memory.get other := by
  simp only [get, set, cells, Std.TreeMap.getD_insert, Nat.compare_eq_eq]
  by_cases same : sectorOf address = sectorOf other
  · rw [if_pos same, Std.TreeMap.getD_insert, ← same]
    simp only [Nat.compare_eq_eq]
  · have apart : address ≠ other := fun equal => same (congrArg sectorOf equal)
    rw [if_neg same, if_neg apart]

theorem get_program (memory : Memory) (address other : Nat) (byte : UInt8) :
    (memory.program address byte).get other =
      if address = other then memory.get other &&& byte else memory.get other := by
  rw [program, get_set]
  by_cases same : address = other
  · rw [if_pos same, if_pos same, same]
  · rw [if_neg same, if_neg same]

theorem get_eraseSector (memory : Memory) (address other : Nat) :
    (memory.eraseSector address).get other =
      if sectorOf address = sectorOf other then erasedByte else memory.get other := by
  simp only [get, eraseSector, cells, Std.TreeMap.getD_erase, Nat.compare_eq_eq]
  by_cases same : sectorOf address = sectorOf other
  · rw [if_pos same, if_pos same]
    simp
  · rw [if_neg same, if_neg same]

/-- Stores bytes at consecutive addresses, starting again at zero behind the last. -/
def store (memory : Memory) : (address : Nat) → Bytes → Memory
  | _, [] => memory
  | address, byte :: rest =>
    store (memory.set address byte) ((address + 1) % addressSpace) rest

/-- The entries that are not in the erased state, by ascending address. -/
def entries (memory : Memory) : List (Nat × UInt8) :=
  (memory.sectors.toList.flatMap fun sector => sector.2.toList).filter fun entry =>
    entry.2 != erasedByte

/-- Joins entries of consecutive addresses.  The run being joined is kept with its next address
and its bytes, the latest first. -/
def joinRuns (start next : Nat) (bytes : Bytes) : List (Nat × UInt8) → List (Nat × Bytes)
  | [] => [(start, bytes.reverse)]
  | (address, byte) :: rest =>
    if address = next then joinRuns start (next + 1) (byte :: bytes) rest
    else (start, bytes.reverse) :: joinRuns address (address + 1) [byte] rest

/-- The longest runs of bytes that are not in the erased state, by ascending address. -/
def runs (memory : Memory) : List (Nat × Bytes) :=
  match memory.entries with
  | [] => []
  | (address, byte) :: rest => joinRuns address (address + 1) [byte] rest

end Memory

end SpiProgrammer.Flash
