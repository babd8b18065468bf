import SpiProgrammer.Bridge.Answer
import SpiProgrammer.Spi.Command

/-! # Words in byte strings

A word is the number that its bytes spell.  So it is read back from the bytes it was written to, a
status from the last four of its answer, and an address from the bytes it is sent in, as far as its
width reaches.  A buffer that is received whole is what was received. -/
set_option autoImplicit false

namespace SpiProgrammer

theorem Bytes.overlay_whole {buffer received : Bytes} (whole : received.length = buffer.length) :
    overlay buffer received = received := by
  rw [overlay, ← whole, List.take_length, whole, List.drop_length, List.append_nil]

theorem or_shiftLeft_eq {low high width : Nat} (below : low < 1 <<< width) :
    low ||| high <<< width = low + high <<< width := by
  rw [Nat.one_shiftLeft] at below
  rw [Nat.or_comm, ← Nat.shiftLeft_add_eq_or_of_lt below, Nat.add_comm]

theorem Bytes.toNat_toUInt16LE (low high : UInt8) :
    (toUInt16LE low high).toNat = low.toNat + 256 * high.toNat := by
  have lowBound : low.toNat < 256 := low.toNat_lt
  have highBound : high.toNat < 256 := high.toNat_lt
  have scaled : high.toNat <<< 8 = 256 * high.toNat := by
    rw [Nat.shiftLeft_eq]
    omega
  have room : high.toNat <<< 8 % 65536 = high.toNat <<< 8 := by omega
  simp only [toUInt16LE, UInt16.toNat_or, UInt8.toNat_toUInt16, UInt16.toNat_shiftLeft]
  show low.toNat ||| high.toNat <<< 8 % 65536 = low.toNat + 256 * high.toNat
  rw [room, or_shiftLeft_eq lowBound, scaled]

/-- The number that the bytes spell, low byte first. -/
def Bytes.toNatLE : Bytes → Nat
  | [] => 0
  | byte :: rest => byte.toNat + 256 * toNatLE rest

theorem Bytes.toNat_toUInt32LE (b₀ b₁ b₂ b₃ : UInt8) :
    (toUInt32LE b₀ b₁ b₂ b₃).toNat = toNatLE [b₀, b₁, b₂, b₃] := by
  have bound₀ : b₀.toNat < 256 := b₀.toNat_lt
  have bound₁ : b₁.toNat < 256 := b₁.toNat_lt
  have bound₂ : b₂.toNat < 256 := b₂.toNat_lt
  have bound₃ : b₃.toNat < 256 := b₃.toNat_lt
  have scaled₁ : b₁.toNat <<< 8 = 256 * b₁.toNat := by rw [Nat.shiftLeft_eq]; omega
  have scaled₂ : b₂.toNat <<< 16 = 65536 * b₂.toNat := by rw [Nat.shiftLeft_eq]; omega
  have scaled₃ : b₃.toNat <<< 24 = 16777216 * b₃.toNat := by rw [Nat.shiftLeft_eq]; omega
  have room₁ : b₁.toNat <<< 8 % 4294967296 = b₁.toNat <<< 8 := by omega
  have room₂ : b₂.toNat <<< 16 % 4294967296 = b₂.toNat <<< 16 := by omega
  have room₃ : b₃.toNat <<< 24 % 4294967296 = b₃.toNat <<< 24 := by omega
  have two : b₀.toNat ||| b₁.toNat <<< 8 = b₀.toNat + b₁.toNat <<< 8 := or_shiftLeft_eq bound₀
  have three : b₀.toNat + b₁.toNat <<< 8 ||| b₂.toNat <<< 16 =
      b₀.toNat + b₁.toNat <<< 8 + b₂.toNat <<< 16 := or_shiftLeft_eq (by rw [Nat.one_shiftLeft]; omega)
  have four : b₀.toNat + b₁.toNat <<< 8 + b₂.toNat <<< 16 ||| b₃.toNat <<< 24 =
      b₀.toNat + b₁.toNat <<< 8 + b₂.toNat <<< 16 + b₃.toNat <<< 24 :=
    or_shiftLeft_eq (by rw [Nat.one_shiftLeft]; omega)
  simp only [toUInt32LE, UInt32.toNat_or, UInt8.toNat_toUInt32, UInt32.toNat_shiftLeft]
  show b₀.toNat ||| b₁.toNat <<< 8 % 4294967296 ||| b₂.toNat <<< 16 % 4294967296 |||
    b₃.toNat <<< 24 % 4294967296 = b₀.toNat + 256 * (b₁.toNat + 256 * (b₂.toNat + 256 *
      (b₃.toNat + 256 * 0)))
  rw [room₁, room₂, room₃, two, three, four]
  omega

theorem Bytes.toUInt16LE_halves (word : UInt16) :
    Bytes.toUInt16LE word.toUInt8 (word >>> 8).toUInt8 = word := by
  have bound : word.toNat < 65536 := word.toNat_lt
  apply UInt16.toNat_inj.mp
  rw [toNat_toUInt16LE, UInt16.toNat_toUInt8, UInt16.toNat_toUInt8, UInt16.toNat_shiftRight]
  show word.toNat % 256 + 256 * (word.toNat >>> 8 % 256) = word.toNat
  rw [Nat.shiftRight_eq_div_pow]
  omega

theorem Bridge.TransferStatus.toNat_code (b₀ b₁ b₂ b₃ b₄ b₅ b₆ b₇ : UInt8) :
    (form.meaning [b₀, b₁, b₂, b₃, b₄, b₅, b₆, b₇]).code.toNat =
      b₄.toNat + 256 * b₅.toNat + 65536 * (b₆.toNat + 256 * b₇.toNat) := by
  have bound₄ : b₄.toNat < 256 := b₄.toNat_lt
  have bound₅ : b₅.toNat < 256 := b₅.toNat_lt
  have bound₆ : b₆.toNat < 256 := b₆.toNat_lt
  have bound₇ : b₇.toNat < 256 := b₇.toNat_lt
  have room : (b₆.toNat + 256 * b₇.toNat) <<< 16 % 0x100000000 =
      (b₆.toNat + 256 * b₇.toNat) <<< 16 := by
    rw [Nat.shiftLeft_eq]
    omega
  show ((Bytes.toUInt16LE b₄ b₅).toUInt32 ||| (Bytes.toUInt16LE b₆ b₇).toUInt32 <<< 16).toNat = _
  rw [UInt32.toNat_or, UInt32.toNat_shiftLeft, UInt16.toNat_toUInt32, UInt16.toNat_toUInt32,
    Bytes.toNat_toUInt16LE, Bytes.toNat_toUInt16LE]
  show b₄.toNat + 256 * b₅.toNat ||| (b₆.toNat + 256 * b₇.toNat) <<< 16 % 0x100000000 = _
  rw [room, or_shiftLeft_eq (by rw [Nat.one_shiftLeft]; omega), Nat.shiftLeft_eq]
  omega

/-- The address bytes spell the address, as far as the width tells addresses apart. -/
theorem Spi.AddressWidth.toNatBE_encode_mod {width : AddressWidth} (wide : width ≠ .absent)
    (address : UInt32) : Bytes.toNatBE (width.encode address) = address.toNat % width.size := by
  have whole : address.toNat < 0x100000000 := address.toNat_lt
  cases width with
  | absent => exact absurd rfl wide
  | three =>
    show ((0 * 256 + address.toNat >>> 16 % 256) * 256 + address.toNat >>> 8 % 256) * 256 +
      address.toNat % 256 = address.toNat % 0x1000000
    simp only [Nat.shiftRight_eq_div_pow]
    omega
  | four =>
    show (((0 * 256 + address.toNat >>> 24 % 256) * 256 + address.toNat >>> 16 % 256) * 256 +
      address.toNat >>> 8 % 256) * 256 + address.toNat % 256 = address.toNat % 0x100000000
    simp only [Nat.shiftRight_eq_div_pow]
    omega

theorem Spi.AddressWidth.toNatBE_encode (width : AddressWidth) (address : UInt32)
    (reached : address.toNat < width.size) :
    Bytes.toNatBE (width.encode address) = address.toNat := by
  have wide : width ≠ .absent := by
    rintro rfl
    exact absurd reached (Nat.not_lt_zero _)
  rw [toNatBE_encode_mod wide, Nat.mod_eq_of_lt reached]

end SpiProgrammer
