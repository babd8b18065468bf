import SpiProgrammer.Bridge.Link
import SpiProgrammer.Usb.Bus

/-! # Finding the probe and talking to its bridge

The probe is a composite device: the bridge is the interface that owns a certain endpoint.  Once
its two endpoints are taken they serve as a link, where a request to receive is rounded up to
whole packets.  An endpoint whose packets have no size cannot be received from at all: there the
dialogue breaks off. -/
set_option autoImplicit false

namespace SpiProgrammer.Usb

open Bridge (Link)

def vendorId : Nat := 0x0483

def productId : Nat := 0x374F

/-- The endpoint that takes frames and data. -/
def endpointOut : UInt8 := 0x06

/-- The endpoint that gives answers and data. -/
def endpointIn : UInt8 := 0x86

/-- The time that a transfer may take, in milliseconds. -/
def transferTime : Nat := 5000

/-- What is done on the bus can fail as any exchange with the bridge. -/
abbrev BusAction (α : Type) : Type :=
  ExceptT Bridge.Error (Dialogue Bus) α

abbrev note (level : Log.Level) (text : String) : Dialogue Bus Unit :=
  Dialogue.log level text

def demand {α : Type} (refusal : String → Bridge.Error) (asked : Dialogue Bus (Except String α)) :
    BusAction α :=
  ExceptT.mk do return (← asked).mapError refusal

def probes (devices : List DeviceInfo) : List (DeviceInfo × Nat) :=
  devices.zipIdx.filter fun entry =>
    entry.1.vendor == vendorId && entry.1.product == productId

def choose (devices : List DeviceInfo) (serial : Option String) :
    Except Bridge.Error (DeviceInfo × Nat) :=
  match probes devices with
  | [] => .error .deviceNotFound
  | first :: rest =>
    match serial with
    | none => .ok first
    | some wanted =>
      match (first :: rest).find? fun entry => entry.1.serial == some wanted with
      | some entry => .ok entry
      | none => .error (.serialNotFound wanted)

/-- The interface of the first setting that has the endpoint. -/
def interfaceWith? (settings : List AlternateSetting) (endpoint : UInt8) : Option Nat :=
  (settings.find? fun setting => setting.endpoints.contains endpoint.toNat).map
    AlternateSetting.number

def DeviceInfo.place (device : DeviceInfo) : String :=
  "bus " ++ device.bus ++ " address " ++ toString device.address ++
    match device.serial with
    | some serial => " serial=" ++ serial
    | none => ""

/-- Opens the probe and takes the two endpoints of its bridge; gives the packet size of the one
that is read. -/
def openProbe (serial : Option String) : BusAction Nat := do
  let devices ← demand .openFailed (Dialogue.request (I := Bus) .list)
  let (device, index) ← choose devices serial
  note .info ("Opening STLINK-V3 at " ++ device.place)
  demand .openFailed (Dialogue.request (I := Bus) (.openDevice index))
  let settings ← demand (fun reason => .openFailed ("Failed to get config: " ++ reason))
    (Dialogue.request (I := Bus) .configuration)
  let some number := interfaceWith? settings endpointIn | throw (.endpointNotFound endpointIn)
  note .debug ("Using interface " ++ toString number)
  demand .claimFailed (Dialogue.request (I := Bus) (.claim number))
  let _ ← demand .claimFailed (Dialogue.request (I := Bus) (.endpoint endpointOut))
  demand .claimFailed (Dialogue.request (I := Bus) (.endpoint endpointIn))

/-- The smallest number of whole packets, at least one, that holds `length` bytes, in bytes. -/
def wholePackets (packet length : Nat) : Nat :=
  (max length 1 + (packet - 1)) / packet * packet

def sendOut (bytes : Bytes) : BusAction Nat := do
  let answer ← (Dialogue.request (I := Bus) (.transferOut bytes transferTime) : Dialogue Bus _)
  match answer with
  | .error fault => throw fault.toError
  | .ok count =>
    note .trace ("USB write " ++ toString count ++ "/" ++ toString bytes.length ++ " bytes")
    return count

def receiveIn (packet length : Nat) : BusAction Bytes := do
  let answer ← Dialogue.request (I := Bus) (.transferIn (wholePackets packet length) transferTime)
  match answer with
  | .error fault => throw fault.toError
  | .ok reply =>
    note .trace ("USB read " ++ toString reply.length ++ " bytes (expected " ++
      toString length ++ ")")
    return reply

/-- How the taken endpoints answer what is asked of a link. -/
def serve? (packet : Nat) : (r : Bridge.LinkRequest) → Dialogue Bus (Option (Bridge.LinkReply r))
  | .send bytes => do return some (← (sendOut bytes).run)
  | .receive length => do
    if packet = 0 then return none
    return some (← (receiveIn packet length).run)

end SpiProgrammer.Usb
