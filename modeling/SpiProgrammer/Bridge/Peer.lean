import SpiProgrammer.Bridge.Emulator
import SpiProgrammer.Dialogue.Run

/-! # Who answers on a link

Either an emulated bridge, or a script of prepared answers. -/
set_option autoImplicit false

namespace SpiProgrammer.Bridge

/-- Prepared answers.  When nothing is prepared for sending, everything goes out. -/
structure Script where
  sends : List (Except PipeFault Nat) := []
  replies : List QueuedReply := []

inductive Peer where
  | emulated (emulator : Emulator)
  | scripted (script : Script)

namespace Peer

def send (peer : Peer) (data : Bytes) : Except PipeFault Nat × Peer :=
  match peer with
  | .emulated emulator =>
    let (answer, emulator) := emulator.send data
    (answer, .emulated emulator)
  | .scripted script =>
    (script.sends.headD (.ok data.length), .scripted { script with sends := script.sends.tail })

def receive (peer : Peer) : QueuedReply × Peer :=
  match peer with
  | .emulated emulator =>
    let (reply, emulator) := emulator.receive
    (reply, .emulated emulator)
  | .scripted script =>
    let (reply, replies) := takeReply script.replies
    (reply, .scripted { script with replies })

def chip? : Peer → Option Flash.Chip
  | .emulated emulator => some emulator.chip
  | .scripted _ => none

def machine : Machine Peer Link
  | .send bytes, peer =>
    let (answer, peer) := peer.send bytes
    (answer.mapError PipeFault.toError, peer)
  | .receive _, peer =>
    let (reply, peer) := peer.receive
    (reply.mapError PipeFault.toError, peer)

end Peer

end SpiProgrammer.Bridge
