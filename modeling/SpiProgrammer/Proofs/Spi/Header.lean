import Mathlib.Algebra.Order.Floor.Div
import SpiProgrammer.Proofs.Words
import SpiProgrammer.Spi.Command

/-! # The header of a command

The length of a header is computed apart from the places where its parts are stored, and every part
is stored only where the buffer has room for it.  Main statement: the parts follow one another
without a gap and end at that length, so a header is stored exactly where the buffer is at least as
long; and opcode and address are read back from it, the address as far as its width reaches. -/
set_option autoImplicit false

namespace SpiProgrammer

theorem Bytes.eq_of_toNatBE_eq {first second : Bytes} (length : first.length = second.length)
    (same : toNatBE first = toNatBE second) : first = second := by
  have snoc (bytes : Bytes) (byte : UInt8) :
      toNatBE (bytes ++ [byte]) = toNatBE bytes * 256 + byte.toNat := List.foldl_append
  induction first using List.reverseRecOn generalizing second with
  | nil => exact (List.length_eq_zero_iff.mp length.symm).symm
  | append_singleton front byte ih =>
    obtain rfl | ⟨other, last, rfl⟩ := List.eq_nil_or_concat second
    · simp at length
    · rw [List.concat_eq_append] at length same ⊢
      rw [snoc, snoc] at same
      have bound := byte.toNat_lt
      have otherBound := last.toNat_lt
      have fronts : toNatBE front = toNatBE other := by omega
      have lasts : byte = last := UInt8.toNat_inj.mp (by omega)
      rw [ih (by simpa using length) fronts, lasts]

namespace Spi.Command

/-! ## Storing -/

theorem storeAddress?_cons (command : Command) (first : UInt8) (rest : Bytes) :
    command.storeAddress? (first :: rest) =
      if command.addressLength ≤ rest.length then
        some (first :: (command.addressBytes ++ rest.drop command.addressLength))
      else none := by
  unfold storeAddress? addressLength addressBytes AddressWidth.store?
  cases command.address with
  | none => simp
  | some address =>
    simp only [List.drop_succ_cons, List.drop_zero]
    by_cases room : command.width.bytes ≤ rest.length
    · have whole : (command.width.encode address).take rest.length = command.width.encode address :=
        List.take_of_length_le ((command.width.encode_length address).trans_le room)
      rw [if_pos room, if_pos room, Bytes.overlay, whole, AddressWidth.encode_length]
      rfl
    · rw [if_neg room, if_neg room]
      rfl

/-- The parts that are stored one after the other make up the header. -/
theorem encodeHeader?_eq (command : Command) (buffer : Bytes) :
    command.encodeHeader? buffer =
      if command.headerLength ≤ buffer.length then
        some (command.headerLength, command.header ++ buffer.drop command.headerLength)
      else none := by
  have parts : command.headerLength = command.addressLength + command.dummyLength + 1 := by
    rw [headerLength]
    omega
  unfold encodeHeader?
  cases buffer with
  | nil =>
    rw [if_neg (by simp [parts])]
    rfl
  | cons first rest =>
    have begun : Bytes.fill? 0 1 command.opcode (first :: rest) =
        some (command.opcode :: rest) := by
      simp [Bytes.fill?]
    simp only [begun, Option.bind_eq_bind, Option.bind_some, storeAddress?_cons]
    by_cases room : command.addressLength ≤ rest.length
    · have behind : (command.addressBytes ++ rest.drop command.addressLength).length =
          rest.length := by
        rw [List.length_append, addressBytes_length, List.length_drop]
        omega
      have front : (command.addressBytes ++ rest.drop command.addressLength).take
          command.addressLength = command.addressBytes := by
        rw [← addressBytes_length, List.take_left]
      have back : (command.addressBytes ++ rest.drop command.addressLength).drop
          (command.addressLength + command.dummyLength) =
            rest.drop (command.addressLength + command.dummyLength) := by
        rw [← List.drop_drop, ← addressBytes_length, List.drop_left, addressBytes_length,
          List.drop_drop]
      have filled : command.addressLength + 1 ≤
          command.addressLength + command.dummyLength + 1 := by omega
      have dummies : command.headerLength - (1 + command.addressLength) = command.dummyLength := by
        omega
      rw [if_pos room, Option.bind_some, Bytes.fill?, dummies, List.length_cons, behind]
      simp only [Nat.add_comm 1 command.addressLength, List.take_succ_cons, front, parts, filled,
        true_and, List.drop_succ_cons, back]
      by_cases fits : command.addressLength + command.dummyLength + 1 ≤ rest.length + 1
      · rw [if_pos fits, List.length_cons, if_pos fits]
        rfl
      · rw [if_neg fits, List.length_cons, if_neg fits]
        rfl
    · rw [if_neg room, if_neg (by simp only [parts, List.length_cons]; omega)]
      rfl

/-! ## Where the parts are -/

theorem getElem?_encode (width : AddressWidth) (address : UInt32) {index : Nat}
    (within : index < width.bytes) :
    (width.encode address)[index]? =
      some (.ofNat (address.toNat >>> (8 * (width.bytes - 1 - index)))) := by
  have byte (shift : UInt32) : (address >>> shift).toUInt8 =
      .ofNat (address.toNat >>> (shift.toNat % 32)) := by
    apply UInt8.toNat_inj.mp
    rw [UInt32.toNat_toUInt8, UInt32.toNat_shiftRight]
    rfl
  have low : address.toUInt8 = .ofNat address.toNat := rfl
  cases width with
  | absent => exact absurd within (Nat.not_lt_zero _)
  | three =>
    match index, within with
    | 0, _ => exact congrArg some (byte 16)
    | 1, _ => exact congrArg some (byte 8)
    | 2, _ => exact congrArg some low
  | four =>
    match index, within with
    | 0, _ => exact congrArg some (byte 24)
    | 1, _ => exact congrArg some (byte 16)
    | 2, _ => exact congrArg some (byte 8)
    | 3, _ => exact congrArg some low

/-- The buffer after the header of a command has been stored in it. -/
structure HeaderStored (command : Command) (buffer stored : Bytes) : Prop where
  length : stored.length = buffer.length
  opcode : stored[0]? = some command.opcode
  /-- the low bytes of the address, the highest of them first -/
  address : ∀ address index, command.address = some address → index < command.width.bytes →
    stored[1 + index]? =
      some (.ofNat (address.toNat >>> (8 * (command.width.bytes - 1 - index))))
  dummies : ∀ index, 1 + command.addressLength ≤ index → index < command.headerLength →
    stored[index]? = some 0xFF
  behind : ∀ index, command.headerLength ≤ index → stored[index]? = buffer[index]?

theorem headerStored (command : Command) {buffer : Bytes}
    (room : command.headerLength ≤ buffer.length) :
    command.HeaderStored buffer (command.header ++ buffer.drop command.headerLength) := by
  have whole := command.header_length
  have parts : command.headerLength = 1 + command.addressLength + command.dummyLength := rfl
  have addressed := command.addressBytes_length
  refine ⟨?_, rfl, fun address index given within => ?_, fun index begun before => ?_,
    fun index beyond => ?_⟩
  · rw [List.length_append, whole, List.length_drop]
    omega
  · have length : command.addressLength = command.width.bytes := by rw [addressLength, given]
    have bytes : command.addressBytes = command.width.encode address := by
      rw [addressBytes, given]
    rw [List.getElem?_append_left (by omega), header, List.cons_append, Nat.add_comm,
      List.getElem?_cons_succ, List.getElem?_append_left (by omega), bytes]
    exact getElem?_encode command.width address within
  · rw [List.getElem?_append_left (by omega), header]
    rw [List.getElem?_append_right (by simp only [List.length_cons]; omega),
      List.getElem?_replicate_of_lt (by simp only [List.length_cons]; omega)]
  · rw [List.getElem?_append_right (by omega), List.getElem?_drop]
    congr 1
    omega

/-! ## Reading back -/

/-- The opcode and the address that a header begins with, where it is known whether it has an
address and how wide that is. -/
def readBack? (addressed : Bool) (width : AddressWidth) : Bytes → Option (UInt8 × Option UInt32)
  | [] => none
  | opcode :: rest =>
    some (opcode,
      if addressed then some (.ofNat (Bytes.toNatBE (rest.take width.bytes))) else none)

theorem readBack?_header (command : Command) (behind : Bytes) :
    readBack? command.address.isSome command.width (command.header ++ behind) =
      some (command.opcode, command.address.map fun address =>
        .ofNat (Bytes.toNatBE (command.width.encode address))) := by
  unfold header addressBytes
  cases command.address with
  | none => rfl
  | some address =>
    simp only [List.cons_append, List.append_assoc, readBack?, Option.isSome_some, if_true,
      Option.map_some]
    rw [← command.width.encode_length address, List.take_left]

theorem ofNat_toNatBE_encode {width : AddressWidth} {address : UInt32}
    (reached : address.toNat < width.size) :
    UInt32.ofNat (Bytes.toNatBE (width.encode address)) = address := by
  rw [width.toNatBE_encode address reached, UInt32.ofNat_toNat]

theorem encode_eq_iff {width : AddressWidth} (wide : width ≠ .absent) {first second : UInt32} :
    width.encode first = width.encode second ↔
      first.toNat % width.size = second.toNat % width.size := by
  rw [← AddressWidth.toNatBE_encode_mod wide, ← AddressWidth.toNatBE_encode_mod wide]
  refine ⟨congrArg _, Bytes.eq_of_toNatBE_eq ?_⟩
  rw [width.encode_length, width.encode_length]

theorem header_eq_iff (command : Command) (wide : command.width ≠ .absent)
    (first second : UInt32) :
    { command with address := some first }.header =
        { command with address := some second }.header ↔
      first.toNat % command.width.size = second.toNat % command.width.size := by
  rw [← encode_eq_iff wide]
  refine ⟨fun same => ?_, fun same => ?_⟩
  · exact List.append_cancel_right (List.cons.inj same).2
  · simp only [header, addressBytes, same]
    rfl

/-- The number of bytes that a header takes is the sum of its parts, and it is stored exactly where
the buffer is at least as long.  The parts stand in order at the start of the buffer, and nothing
behind them is changed.  The opcode is read back, and with it an address that its width reaches; two
addresses give the same buffer exactly if they agree as far as the width reaches. -/
theorem header_stored_and_read_back (command : Command) (buffer : Bytes) :
    command.headerLength = 1 + (if command.address.isSome then command.width.bytes else 0) +
      command.dummyCycles.toNat ⌈/⌉ 8 ∧
    (command.encodeHeader? buffer = none ↔ buffer.length < command.headerLength) ∧
    (∀ count stored, command.encodeHeader? buffer = some (count, stored) →
      count = command.headerLength ∧ command.HeaderStored buffer stored ∧
      ∃ address, readBack? command.address.isSome command.width stored =
          some (command.opcode, address) ∧
        ((∀ given, command.address = some given → given.toNat < command.width.size) →
          address = command.address)) ∧
    (command.width ≠ .absent → ∀ first second : UInt32,
      { command with address := some first }.headerLength ≤ buffer.length →
        ({ command with address := some first }.encodeHeader? buffer =
            { command with address := some second }.encodeHeader? buffer ↔
          first.toNat % command.width.size = second.toNat % command.width.size)) := by
  refine ⟨?_, ?_, fun count stored encoded => ?_, fun wide first second room => ?_⟩
  · rw [headerLength, addressLength, dummyLength, Nat.ceilDiv_eq_add_pred_div]
    cases command.address <;> rfl
  · rw [encodeHeader?_eq, ite_eq_right_iff]
    simp
  · rw [encodeHeader?_eq, Option.ite_none_right_eq_some] at encoded
    obtain ⟨room, same⟩ := encoded
    cases same
    refine ⟨rfl, command.headerStored room, _, command.readBack?_header _, fun reached => ?_⟩
    cases given : command.address with
    | none => rfl
    | some address => exact congrArg some (ofNat_toNatBE_encode (reached address given))
  · have roomToo : { command with address := some second }.headerLength ≤ buffer.length := room
    rw [encodeHeader?_eq, encodeHeader?_eq, if_pos room, if_pos roomToo,
      ← command.header_eq_iff wide]
    constructor
    · intro same
      exact List.append_cancel_right (Prod.mk.inj (Option.some.inj same)).2
    · intro same
      rw [same]
      rfl

-- nine dummy cycles are begun with two bytes, and what is behind the header stays
example :
    let command : Command :=
      { opcode := 0x0B, address := some 0x1123456, width := .three, dummyCycles := 9 }
    command.encodeHeader? (List.replicate 8 0xAA) =
      some (6, [0x0B, 0x12, 0x34, 0x56, 0xFF, 0xFF, 0xAA, 0xAA]) := by decide

end Spi.Command

end SpiProgrammer
