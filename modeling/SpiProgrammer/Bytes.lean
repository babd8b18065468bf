/-! # Byte strings and the words written in them

A transfer, a frame and an image are all lists of bytes.  Words travel low byte first on the
bridge and high byte first in a flash address.  A buffer that is only partly received keeps
its old bytes behind the new ones: that is `overlay`. -/
set_option autoImplicit false

namespace SpiProgrammer

abbrev Bytes := List UInt8

namespace Bytes

def ofUInt16LE (word : UInt16) : Bytes :=
  [word.toUInt8, (word >>> 8).toUInt8]

def ofUInt32LE (word : UInt32) : Bytes :=
  [word.toUInt8, (word >>> 8).toUInt8, (word >>> 16).toUInt8, (word >>> 24).toUInt8]

def ofUInt32BE (word : UInt32) : Bytes :=
  [(word >>> 24).toUInt8, (word >>> 16).toUInt8, (word >>> 8).toUInt8, word.toUInt8]

def toUInt16LE (low high : UInt8) : UInt16 :=
  low.toUInt16 ||| high.toUInt16 <<< 8

def toUInt32LE (b₀ b₁ b₂ b₃ : UInt8) : UInt32 :=
  b₀.toUInt32 ||| b₁.toUInt32 <<< 8 ||| b₂.toUInt32 <<< 16 ||| b₃.toUInt32 <<< 24

/-- The number that the bytes spell, high byte first. -/
def toNatBE (bytes : Bytes) : Nat :=
  bytes.foldl (fun value byte => value * 256 + byte.toNat) 0

/-- The buffer after `received` has been stored at its start: what does not fit is dropped,
what is not reached stays. -/
def overlay (buffer received : Bytes) : Bytes :=
  received.take buffer.length ++ buffer.drop received.length

/-- The buffer with a byte stored at every place from `start` on and before `stop`, if it has these
places. -/
def fill? (start stop : Nat) (byte : UInt8) (buffer : Bytes) : Option Bytes :=
  if start ≤ stop ∧ stop ≤ buffer.length then
    some (buffer.take start ++ List.replicate (stop - start) byte ++ buffer.drop stop)
  else none

theorem overlay_length (buffer received : Bytes) :
    (overlay buffer received).length = buffer.length := by
  simp only [overlay, List.length_append, List.length_take, List.length_drop]
  omega

theorem overlay_nil (buffer : Bytes) : overlay buffer [] = buffer := by
  simp [overlay]

end Bytes

/-- What an operation that reads has to show: the bytes that arrived, and whether it succeeded.
Bytes may have arrived even when it did not. -/
structure Received (ε : Type) where
  bytes : Bytes
  outcome : Except ε Unit

end SpiProgrammer
