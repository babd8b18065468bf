import SpiProgrammer.Bridge.Peer
import SpiProgrammer.Dialogue.Run
import SpiProgrammer.Usb.Bus

/-! # A simulated bus

Each device refuses what it is told to refuse, and has a peer behind its bridge that starts
afresh when the device is opened. -/
set_option autoImplicit false

namespace SpiProgrammer.Usb

open Bridge (Peer PipeFault)

namespace TransferFault

def reasons : List (String × String) :=
  [("Stall", "endpoint stalled"), ("Disconnected", "device disconnected"),
    ("InvalidArgument", "invalid or unsupported argument")]

/-- What is said of a fault without a name. -/
def generalReason : String := "hardware fault or protocol violation"

def ofLabel (label : String) : TransferFault :=
  if label = "Cancelled" then .cancelled else .other ((reasons.lookup label).getD generalReason)

def label : TransferFault → String
  | .cancelled => "Cancelled"
  | .other reason =>
    ((reasons.find? fun named => named.2 == reason).map Prod.fst).getD "Fault"

end TransferFault

structure Device where
  info : DeviceInfo
  openRefusal : Option String := none
  configurationRefusal : Option String := none
  claimRefusal : Option String := none
  outRefusal : Option String := none
  inRefusal : Option String := none
  packet : Nat := 512
  settings : List AlternateSetting := [⟨0, [0x01, 0x81]⟩, ⟨3, [0x06, 0x86]⟩]
  peer : Peer := .scripted {}

structure Simulated where
  listRefusal : Option String := none
  devices : List Device := []
  /-- The device that is open, its peer in its present state. -/
  opened : Option Device := none

namespace Simulated

def refuseOr {α : Type} (refusal : Option String) (value : α) : Except String α :=
  match refusal with
  | some reason => .error reason
  | none => .ok value

/-- How a fault behind the bridge shows on the bus. -/
def transferFault : PipeFault → TransferFault
  | .timeout => .cancelled
  | .failed reason => .ofLabel reason

/-- An endpoint with the high bit set gives data. -/
def endpointRefusal (device : Device) (address : UInt8) : Option String :=
  if address < 0x80 then device.outRefusal else device.inRefusal

/-- What an open device answers; nothing can be asked while none is open. -/
def ask {α : Type} (bus : Simulated) (answer : Device → Except String α) : Except String α :=
  match bus.opened with
  | some device => answer device
  | none => .error "no device is open"

/-- A transfer with the peer of the open device; without one the device is gone. -/
def transfer {α : Type} (bus : Simulated) (act : Peer → Except PipeFault α × Peer) :
    Except TransferFault α × Simulated :=
  match bus.opened with
  | none => (.error (.ofLabel "Disconnected"), bus)
  | some device =>
    let (answer, peer) := act device.peer
    (answer.mapError transferFault, { bus with opened := some { device with peer } })

def machine : Machine Simulated Bus
  | .list, bus => (refuseOr bus.listRefusal (bus.devices.map Device.info), bus)
  | .openDevice index, bus =>
    match bus.devices[index]? with
    | none => (.error "no such device", bus)
    | some device =>
      match device.openRefusal with
      | some reason => (.error reason, bus)
      | none => (.ok (), { bus with opened := some device })
  | .configuration, bus =>
    (bus.ask fun device => refuseOr device.configurationRefusal device.settings, bus)
  | .claim _, bus => (bus.ask fun device => refuseOr device.claimRefusal (), bus)
  | .endpoint address, bus =>
    (bus.ask fun device => refuseOr (endpointRefusal device address) device.packet, bus)
  | .transferOut bytes _, bus => bus.transfer fun peer => peer.send bytes
  | .transferIn requested _, bus =>
    bus.transfer fun peer =>
      let (reply, peer) := peer.receive
      (reply.map fun bytes => bytes.take requested, peer)

def chip? (bus : Simulated) : Option Flash.Chip :=
  bus.opened.bind fun device => device.peer.chip?

end Simulated

end SpiProgrammer.Usb
