import SpiProgrammer.Bridge.Error
import SpiProgrammer.Bytes
import SpiProgrammer.Dialogue

/-! # The USB bus

What a host can ask of the bus: which devices there are, to open one, to read its active
configuration, to claim an interface of it, to take an endpoint, and to transfer in either
direction within a time. -/
set_option autoImplicit false

namespace SpiProgrammer.Usb

/-- What the bus knows about a device before it is opened. -/
structure DeviceInfo where
  vendor : Nat
  product : Nat
  serial : Option String
  bus : String
  address : Nat
deriving DecidableEq, Repr

structure AlternateSetting where
  number : Nat
  endpoints : List Nat
deriving DecidableEq, Repr

/-- How a transfer fails: its time is over and it is cancelled, or for a reason in words. -/
inductive TransferFault where
  | cancelled
  | other (reason : String)
deriving DecidableEq, Repr

def TransferFault.toError : TransferFault → Bridge.Error
  | .cancelled => .timeout
  | .other reason => .transferFailed reason

inductive BusRequest where
  | list
  | openDevice (index : Nat)
  | configuration
  | claim (number : Nat)
  | endpoint (address : UInt8)
  | transferOut (bytes : Bytes) (milliseconds : Nat)
  | transferIn (requested milliseconds : Nat)
deriving DecidableEq, Repr

/-- A device is opened by its place in the list; an endpoint tells its packet size; a reply
holds at most the requested number of bytes. -/
@[reducible]
def BusReply : BusRequest → Type
  | .list => Except String (List DeviceInfo)
  | .openDevice _ => Except String Unit
  | .configuration => Except String (List AlternateSetting)
  | .claim _ => Except String Unit
  | .endpoint _ => Except String Nat
  | .transferOut _ _ => Except TransferFault Nat
  | .transferIn _ _ => Except TransferFault Bytes

@[reducible]
def Bus : Interface where
  Request := BusRequest
  Reply := BusReply

end SpiProgrammer.Usb
