import SpiProgrammer.Flash.Chip
import SpiProgrammer.Proofs.Words
import SpiProgrammer.Spi.Command

/-! # What one cycle does to the chip

Main statements: a cycle reads as many bytes as it is asked for; a command with an address that
breaks off acts, if at all, with its own address and with a first part of its data; and a page
program inside its page changes its own bytes to their conjunction with the data, and no other
byte. -/
set_option autoImplicit false

namespace SpiProgrammer

/-! ## What commands send -/

namespace Spi.Command

theorem sent_simple (opcode : UInt8) : (simple opcode).sent = [opcode] := by
  simp [sent, header, simple, addressBytes, dummyLength]

theorem sent_readRegister (opcode : UInt8) (length : Nat) :
    (readRegister opcode length).sent = [opcode] := by
  simp [sent, header, readRegister, addressBytes, dummyLength]

theorem sent_read (opcode : UInt8) (address : UInt32) (width : AddressWidth) (length : Nat) :
    (read opcode address width length).sent = opcode :: width.encode address := by
  simp [sent, header, read, addressBytes, dummyLength]

theorem sent_write (opcode : UInt8) (address : UInt32) (width : AddressWidth) (data : Bytes) :
    (write opcode address width data).sent = opcode :: (width.encode address ++ data) := by
  simp [sent, header, write, addressBytes, dummyLength]

theorem sent_erase (opcode : UInt8) (address : UInt32) (width : AddressWidth) :
    (erase opcode address width).sent = opcode :: width.encode address := by
  simp [sent, header, erase, addressBytes, dummyLength]

end Spi.Command

/-! ## Cycles -/

namespace Flash

open Spi

namespace Chip

theorem length_transferAddressed (chip : Chip) (action : Addressed) (address : Nat) (data : Bytes)
    (length : Nat) : (chip.transferAddressed action address data length).1.length = length := by
  cases action with
  | read => simp [transferAddressed, readMany]
  | program => simp [transferAddressed, undriven]
  | erase => simp [transferAddressed, undriven]

theorem length_transfer (chip : Chip) (sent : Bytes) (length : Nat) :
    (chip.transfer sent length).1.length = length := by
  cases sent with
  | nil => simp [transfer, undriven]
  | cons opcode rest =>
    simp only [transfer]
    split
    · simp
    split
    · simp
    split
    · simp [undriven]
    split
    · simp [undriven]
    split
    · split
      · exact length_transferAddressed ..
      · simp [undriven]
    · simp [undriven]

theorem transfer_nothing (chip : Chip) (length : Nat) : (chip.transfer [] length).2 = chip := rfl

@[simp]
theorem memory_change (chip : Chip) (f : Memory → Memory) :
    (chip.change f).memory = if chip.writeEnabled then f chip.memory else chip.memory := by
  unfold change
  split <;> rfl

/-- The opcode takes an address of this width and acts with it in this way. -/
structure Understood (opcode : UInt8) (width : AddressWidth) (action : Addressed) : Prop where
  notIdentity : opcode ≠ Opcode.readIdentity
  notStatus : opcode ≠ Opcode.readStatus
  notEnable : opcode ≠ Opcode.writeEnable
  notEraseChip : opcode ≠ Opcode.eraseChip
  addressed : addressed? opcode = some (width, action)

theorem understood_read {width : AddressWidth} (present : width ≠ .absent) :
    Understood (Opcode.read width) width .read := by
  cases width with
  | absent => exact absurd rfl present
  | three => constructor <;> decide
  | four => constructor <;> decide

theorem understood_program {width : AddressWidth} (present : width ≠ .absent) :
    Understood (Opcode.programPage width) width .program := by
  cases width with
  | absent => exact absurd rfl present
  | three => constructor <;> decide
  | four => constructor <;> decide

theorem understood_erase {width : AddressWidth} (present : width ≠ .absent) :
    Understood (Opcode.eraseSector width) width .erase := by
  cases width with
  | absent => exact absurd rfl present
  | three => constructor <;> decide
  | four => constructor <;> decide

theorem transfer_understood {opcode : UInt8} {width : AddressWidth} {action : Addressed}
    (understood : Understood opcode width action) (chip : Chip) (rest : Bytes) (length : Nat) :
    chip.transfer (opcode :: rest) length =
      if width.bytes ≤ rest.length then
        chip.transferAddressed action (Bytes.toNatBE (rest.take width.bytes))
          (rest.drop width.bytes) length
      else (undriven length, chip) := by
  simp only [transfer, if_neg understood.notIdentity, if_neg understood.notStatus,
    if_neg understood.notEnable, if_neg understood.notEraseChip, understood.addressed]

theorem transfer_addressed {opcode : UInt8} {width : AddressWidth} {action : Addressed}
    (understood : Understood opcode width action) {address : UInt32}
    (reached : address.toNat < width.size) (chip : Chip) (data : Bytes) (length : Nat) :
    chip.transfer (opcode :: (width.encode address ++ data)) length =
      chip.transferAddressed action address.toNat data length := by
  have encoded := width.encode_length address
  have enough : width.bytes ≤ (width.encode address ++ data).length := by
    rw [List.length_append]
    omega
  rw [transfer_understood understood, if_pos enough, ← encoded, List.take_left, List.drop_left,
    width.toNatBE_encode address reached]

/-- A command with an address of which only the first `count` bytes are sent: without its whole
address it does nothing, and else it acts at its address with what was sent of its data. -/
theorem transfer_take_addressed {opcode : UInt8} {width : AddressWidth} {action : Addressed}
    (understood : Understood opcode width action) {address : UInt32}
    (reached : address.toNat < width.size) (chip : Chip) (data : Bytes) (count length : Nat) :
    (chip.transfer ((opcode :: (width.encode address ++ data)).take count) length).2 =
      if count ≤ width.bytes then chip
      else (chip.transferAddressed action address.toNat (data.take (count - 1 - width.bytes))
        length).2 := by
  have encoded := width.encode_length address
  cases count with
  | zero => simp [transfer_nothing]
  | succ count =>
    rw [List.take_succ_cons, transfer_understood understood]
    by_cases cut : count < width.bytes
    · have few : ¬ width.bytes ≤ ((width.encode address ++ data).take count).length := by
        rw [List.length_take]
        omega
      rw [if_neg few, if_pos (by omega)]
    · have enough : width.bytes ≤ ((width.encode address ++ data).take count).length := by
        rw [List.length_take, List.length_append]
        omega
      have front : ((width.encode address ++ data).take count).take width.bytes =
          width.encode address := by
        rw [List.take_take, Nat.min_eq_left (by omega), ← encoded, List.take_left]
      have back : ((width.encode address ++ data).take count).drop width.bytes =
          data.take (count - width.bytes) := by
        rw [List.drop_take, ← encoded, List.drop_left]
      rw [if_pos enough, if_neg (by omega), front, back, width.toNatBE_encode address reached]
      rfl

/-! ## Page programs -/

/-- What a byte becomes where data are programmed from `start` on: the conjunction with its datum,
or what it was. -/
def burned (start : Nat) (data : Bytes) (address : Nat) (old : UInt8) : UInt8 :=
  if start ≤ address then old &&& (data[address - start]?).getD 0xFF else old

theorem burned_outside {start address : Nat} {data : Bytes}
    (outside : address < start ∨ start + data.length ≤ address) (old : UInt8) :
    burned start data address old = old := by
  unfold burned
  split
  · have beyond : data.length ≤ address - start := by omega
    rw [List.getElem?_eq_none beyond]
    exact UInt8.and_neg_one
  · rfl

theorem burned_inside {start index : Nat} {data : Bytes} (inside : index < data.length)
    (old : UInt8) : burned start data (start + index) old = old &&& data[index] := by
  simp [burned, inside]

theorem burned_take {start index reach : Nat} {data : Bytes} (inside : index < data.length)
    (old : UInt8) :
    burned start (data.take reach) (start + index) old =
      if index < reach then old &&& data[index] else old := by
  by_cases reached : index < reach
  · have within : index < (data.take reach).length := by
      rw [List.length_take]
      omega
    rw [if_pos reached, burned_inside within, List.getElem_take]
  · rw [if_neg reached]
    refine burned_outside (.inr ?_) old
    rw [List.length_take]
    omega

theorem burned_cons (start : Nat) (byte : UInt8) (rest : Bytes) (address : Nat) (old : UInt8) :
    burned start (byte :: rest) address old =
      burned (start + 1) rest address (if start = address then old &&& byte else old) := by
  unfold burned
  rcases Nat.lt_trichotomy start address with before | same | behind
  · have next : address - start = (address - (start + 1)) + 1 := by omega
    rw [if_pos (by omega), if_pos (by omega), if_neg (by omega), next, List.getElem?_cons_succ]
  · subst same
    rw [if_pos (Nat.le_refl _), if_neg (by omega), if_pos rfl, Nat.sub_self]
    rfl
  · rw [if_neg (by omega), if_neg (by omega), if_neg (by omega)]

theorem burned_nil (start address : Nat) (old : UInt8) : burned start [] address old = old := by
  refine burned_outside ?_ old
  rw [List.length_nil]
  omega

theorem burned_append (start : Nat) (first rest : Bytes) (address : Nat) (old : UInt8) :
    burned start (first ++ rest) address old =
      burned (start + first.length) rest address (burned start first address old) := by
  induction first generalizing start old with
  | nil => rw [List.nil_append, burned_nil, List.length_nil, Nat.add_zero]
  | cons byte first ih =>
    rw [List.cons_append, burned_cons, ih, burned_cons start byte first, List.length_cons]
    have same : start + 1 + first.length = start + (first.length + 1) := by omega
    rw [same]

theorem get_foldl_program (address other : Nat) : ∀ (data : Bytes) (offset : Nat) (memory : Memory),
    address % Opcode.pageSize + offset + data.length ≤ Opcode.pageSize →
    ((data.zipIdx offset).foldl (fun memory entry => memory.program
        (address - address % Opcode.pageSize + (address + entry.2) % Opcode.pageSize) entry.1)
      memory).get other = burned (address + offset) data other (memory.get other) := by
  intro data
  induction data with
  | nil =>
    intro offset memory fits
    rw [burned_nil]
    rfl
  | cons byte rest ih =>
    intro offset memory fits
    simp only [List.length_cons, Opcode.pageSize] at fits
    have place : address - address % Opcode.pageSize + (address + offset) % Opcode.pageSize =
        address + offset := by
      simp only [Opcode.pageSize]
      omega
    rw [List.zipIdx_cons, List.foldl_cons, ih _ _ (by simp only [Opcode.pageSize]; omega), place,
      Memory.get_program, burned_cons]
    rfl

theorem get_programPage {address : Nat} {data : Bytes}
    (fits : address % Opcode.pageSize + data.length ≤ Opcode.pageSize) (memory : Memory)
    (other : Nat) :
    (programPage memory address data).get other = burned address data other (memory.get other) :=
  get_foldl_program address other data 0 memory fits

end Chip

/-- Data have been programmed from `start` on, and nothing else has changed. -/
def Burned (start : Nat) (data : Bytes) (before after : Memory) : Prop :=
  ∀ address, after.get address = Chip.burned start data address (before.get address)

theorem burned_nothing (start : Nat) (memory : Memory) : Burned start [] memory memory :=
  fun address => (Chip.burned_nil start address _).symm

theorem Burned.append {start : Nat} {first rest : Bytes} {before between after : Memory}
    (one : Burned start first before between)
    (other : Burned (start + first.length) rest between after) :
    Burned start (first ++ rest) before after := by
  intro address
  rw [other address, one address, Chip.burned_append]

namespace Chip

variable {address : UInt32} {width : AddressWidth} {data : Bytes}

/-- Whatever part of a page program reaches the chip, a first part of the data is programmed. -/
theorem transfer_program_front (chip : Chip) (present : width ≠ .absent)
    (reached : address.toNat < width.size)
    (fits : address.toNat % Opcode.pageSize + data.length ≤ Opcode.pageSize) (count length : Nat) :
    ∃ reach, reach ≤ data.length ∧ Burned address.toNat (data.take reach) chip.memory
      (chip.transfer ((Opcode.programPage width :: (width.encode address ++ data)).take count)
        length).2.memory := by
  rw [transfer_take_addressed (understood_program present) reached]
  by_cases cut : count ≤ width.bytes
  · rw [if_pos cut]
    exact ⟨0, Nat.zero_le _, burned_nothing _ _⟩
  rw [if_neg cut]
  show ∃ reach, reach ≤ data.length ∧ Burned address.toNat (data.take reach) chip.memory
    (chip.change fun memory => programPage memory address.toNat
      (data.take (count - 1 - width.bytes))).memory
  rw [memory_change]
  by_cases enabled : chip.writeEnabled = true
  · rw [if_pos enabled]
    refine ⟨min (count - 1 - width.bytes) data.length, Nat.min_le_right .., fun other => ?_⟩
    have part : (data.take (count - 1 - width.bytes)).length ≤ data.length :=
      List.length_take_le' ..
    rw [get_programPage (by omega), ← List.take_eq_take_min]
  · rw [if_neg enabled]
    exact ⟨0, Nat.zero_le _, burned_nothing _ _⟩

theorem transfer_program (chip : Chip) (present : width ≠ .absent)
    (reached : address.toNat < width.size) (enabled : chip.writeEnabled = true) (length : Nat) :
    (chip.transfer (Opcode.programPage width :: (width.encode address ++ data)) length).2 =
      { chip with
        memory := programPage chip.memory address.toNat data
        writeEnabled := false
        busyLeft := chip.busyPolls } := by
  rw [transfer_addressed (understood_program present) reached]
  exact if_pos enabled

theorem transfer_erase_front (chip : Chip) (present : width ≠ .absent)
    (reached : address.toNat < width.size) (count length : Nat) :
    let memory := (chip.transfer ((Opcode.eraseSector width :: width.encode address).take count)
      length).2.memory
    memory = chip.memory ∨ memory = chip.memory.eraseSector address.toNat := by
  intro memory
  have front := transfer_take_addressed (understood_erase present) reached chip [] count length
  rw [List.append_nil] at front
  simp only [memory, front]
  by_cases cut : count ≤ width.bytes
  · rw [if_pos cut]
    exact .inl rfl
  rw [if_neg cut]
  show (chip.change fun memory => memory.eraseSector address.toNat).memory = chip.memory ∨
    (chip.change fun memory => memory.eraseSector address.toNat).memory =
      chip.memory.eraseSector address.toNat
  rw [memory_change]
  split
  · exact .inr rfl
  · exact .inl rfl

theorem transfer_erase (chip : Chip) (present : width ≠ .absent)
    (reached : address.toNat < width.size) (enabled : chip.writeEnabled = true) (length : Nat) :
    (chip.transfer (Opcode.eraseSector width :: width.encode address) length).2 =
      { chip with
        memory := chip.memory.eraseSector address.toNat
        writeEnabled := false
        busyLeft := chip.busyPolls } := by
  have whole := transfer_addressed (understood_erase present) reached chip [] length
  rw [List.append_nil] at whole
  rw [whole]
  exact if_pos enabled

/-- Whatever follows it, and also if that is no whole address. -/
theorem transfer_read_opcode (chip : Chip) (width : AddressWidth) (rest : Bytes) (length : Nat) :
    (chip.transfer (Opcode.read width :: rest) length).2 = chip := by
  obtain ⟨present, understood⟩ : ∃ present, Understood (Opcode.read width) present .read := by
    cases width with
    | absent => exact ⟨.three, @understood_read .three nofun⟩
    | three => exact ⟨.three, understood_read nofun⟩
    | four => exact ⟨.four, understood_read nofun⟩
  rw [transfer_understood understood]
  split <;> rfl

theorem transfer_read (chip : Chip) (address : UInt32) (present : width ≠ .absent)
    (reached : address.toNat < width.size) (length : Nat) :
    chip.transfer (Opcode.read width :: width.encode address) length =
      (chip.readMany address.toNat length, chip) := by
  have whole := transfer_addressed (understood_read present) reached chip [] length
  rw [List.append_nil] at whole
  rw [whole]
  rfl

end Chip

end Flash

end SpiProgrammer
