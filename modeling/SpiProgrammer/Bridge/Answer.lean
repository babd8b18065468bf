import SpiProgrammer.Bytes

/-! # Answers of the bridge

Each command is answered by a fixed number of bytes.  A form says how many there are, how many
of them have to be present for the answer to be understood, and what they mean. -/
set_option autoImplicit false

namespace SpiProgrammer.Bridge

structure AnswerForm (α : Type) where
  length : Nat
  needed : Nat
  needed_le : needed ≤ length
  meaning : Bytes → α

/-- What the bytes mean, unless there are too few of them. -/
def AnswerForm.decode? {α : Type} (form : AnswerForm α) (bytes : Bytes) : Option α :=
  if form.needed ≤ bytes.length then some (form.meaning bytes) else none

/-- The 16-bit word at an offset; a word that is not complete is zero. -/
def wordAt (bytes : Bytes) (offset : Nat) : UInt16 :=
  match bytes.drop offset with
  | low :: high :: _ => Bytes.toUInt16LE low high
  | _ => 0

/-- An acknowledgement tells nothing else: failures show in the transfer status. -/
def acknowledgement : AnswerForm Unit where
  length := 2
  needed := 0
  needed_le := by decide
  meaning := fun _ => ()

structure Version where
  generation : UInt8
  swim : UInt8
  debugger : UInt8
  storage : UInt8
  bridge : UInt8
  vendor : UInt16
  product : UInt16
deriving DecidableEq, Repr

def Version.form : AnswerForm Version where
  length := 12
  needed := 12
  needed_le := by decide
  meaning := fun bytes =>
    { generation := bytes.getD 0 0
      swim := bytes.getD 1 0
      debugger := bytes.getD 2 0
      storage := bytes.getD 3 0
      bridge := bytes.getD 4 0
      vendor := wordAt bytes 8
      product := wordAt bytes 10 }

/-- The input clock in kilohertz. -/
def inputClockForm : AnswerForm UInt32 where
  length := 12
  needed := 8
  needed_le := by decide
  meaning := fun bytes =>
    Bytes.toUInt32LE (bytes.getD 4 0) (bytes.getD 5 0) (bytes.getD 6 0) (bytes.getD 7 0)

/-- Four words about the last transfer, of which the last two are its status. -/
structure TransferStatus where
  words : List UInt16
deriving DecidableEq, Repr

def TransferStatus.form : AnswerForm TransferStatus where
  length := 8
  needed := 0
  needed_le := by decide
  meaning := fun bytes => ⟨[0, 2, 4, 6].map (wordAt bytes)⟩

/-- Zero after a success. -/
def TransferStatus.code (status : TransferStatus) : UInt32 :=
  (status.words.getD 2 0).toUInt32 ||| (status.words.getD 3 0).toUInt32 <<< 16

end SpiProgrammer.Bridge
