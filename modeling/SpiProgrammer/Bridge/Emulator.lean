import SpiProgrammer.Bridge.Link
import SpiProgrammer.Flash.Chip

/-! # An emulated bridge with a chip behind it

The bridge takes frames and the data that continue a long write.  Written bytes are pending
until a read, or the chip-select line going high, turns them into one cycle of the chip; the
line going low forgets them.  A schedule of faults makes chosen transfers fail: a transfer hit
while sending is not processed, and the other faults spoil the reply that it queues. -/
set_option autoImplicit false

namespace SpiProgrammer.Bridge

open Flash (Chip)

inductive FaultKind where
  | sendFails
  | sendTimesOut
  | sendIsShort
  | replyIsShort
  | replyIsLong
  | replyIsDropped
  | replyTimesOut
  | replyFails
deriving DecidableEq, Repr

/-- Strikes the `turn`-th transfer of a function from now on. -/
structure Fault where
  function : Nat
  turn : Nat
  kind : FaultKind
deriving DecidableEq, Repr

/-- The fault that strikes a transfer of the function now: the first one whose turn has come. -/
def dueFault? (faults : List Fault) (function : Nat) : Option FaultKind :=
  (faults.find? fun fault => fault.function == function && fault.turn == 1).map Fault.kind

/-- The schedule after a transfer of the function.  A turn that has passed does not come again. -/
def passTurn (faults : List Fault) (function : Nat) : List Fault :=
  faults.map fun fault =>
    if fault.function = function then { fault with turn := fault.turn - 1 } else fault

structure Emulator where
  versionReply : Bytes := [0x03, 0x00, 0x07, 0x01, 0x03, 0x00, 0x00, 0x00, 0x83, 0x04, 0x4F, 0x37]
  clock : UInt32 := 48000
  /-- What the coming status questions are answered; zero when there is nothing left. -/
  statuses : List UInt32 := []
  faults : List Fault := []
  chip : Chip := {}
  pending : Bytes := []
  /-- The next transfer continues a write. -/
  continues : Bool := false
  replies : List QueuedReply := []

namespace Emulator

/-- The number under which data count that continue a write, and whatever is no frame. -/
def continuation : Nat := 255

def functionOf (emulator : Emulator) (data : Bytes) : Nat :=
  if emulator.continues || data.length ≠ frameSize then continuation
  else (data.getD 1 0).toNat

/-- Runs the pending bytes as one cycle of the chip that reads `length` bytes. -/
def cycle (emulator : Emulator) (length : Nat) : Bytes × Emulator :=
  let (bytes, chip) := emulator.chip.transfer emulator.pending length
  (bytes, { emulator with chip, pending := [] })

def acknowledged : Bytes := [0x80, 0x00]

def answerHead : Bytes := [0x80, 0x00, 0x00, 0x00]

def drive (emulator : Emulator) (level : UInt8) : Emulator :=
  if level = 0 then { emulator with pending := [] }
  else if emulator.pending.isEmpty then emulator
  else (emulator.cycle 0).2

/-- Carries a transfer out; gives the reply, if the function has one. -/
def process (emulator : Emulator) (function : Nat) (data : Bytes) : Option Bytes × Emulator :=
  let length := (wordAt data 2).toNat
  let emulator := { emulator with continues := function == 0x21 && decide (leadingMax < length) }
  match function with
  | 255 => (none, { emulator with pending := emulator.pending ++ data })
  | 0x21 =>
    let leading := (data.drop 4).take (min length leadingMax)
    (none, { emulator with pending := emulator.pending ++ leading })
  | 0x22 => let (bytes, emulator) := emulator.cycle length; (some bytes, emulator)
  | 0x23 => (some acknowledged, emulator.drive (data.getD 2 0))
  | 0x80 => (some emulator.versionReply, emulator)
  | 0x03 => (some (answerHead ++ Bytes.ofUInt32LE emulator.clock ++ [0, 0, 0, 0]), emulator)
  | 0x02 =>
    (some (answerHead ++ Bytes.ofUInt32LE (emulator.statuses.headD 0)),
      { emulator with statuses := emulator.statuses.tail })
  | _ => (some acknowledged, emulator)

/-- What is queued for a reply that meets a fault. -/
def spoil (reply : Bytes) : Option FaultKind → List QueuedReply
  | some .replyIsShort => [.ok reply.dropLast]
  | some .replyIsLong => [.ok (reply ++ [0])]
  | some .replyIsDropped => []
  | some .replyTimesOut => [.error .timeout]
  | some .replyFails => [.error (.failed "injected")]
  | _ => [.ok reply]

def queue (emulator : Emulator) (reply : Option Bytes) (fault : Option FaultKind) : Emulator :=
  match reply with
  | none => emulator
  | some reply => { emulator with replies := emulator.replies ++ spoil reply fault }

def send (emulator : Emulator) (data : Bytes) : Except PipeFault Nat × Emulator :=
  let function := emulator.functionOf data
  let fault := dueFault? emulator.faults function
  let emulator := { emulator with faults := passTurn emulator.faults function }
  match fault with
  | some .sendFails => (.error (.failed "injected"), { emulator with continues := false })
  | some .sendTimesOut => (.error .timeout, { emulator with continues := false })
  | some .sendIsShort => (.ok (data.length - 1), { emulator with continues := false })
  | _ =>
    let (reply, emulator) := emulator.process function data
    (.ok data.length, emulator.queue reply fault)

def receive (emulator : Emulator) : QueuedReply × Emulator :=
  let (reply, replies) := takeReply emulator.replies
  (reply, { emulator with replies })

end Emulator

end SpiProgrammer.Bridge
