import SpiProgrammer.Bridge.Link

/-! # What the bridge can be asked to do -/
set_option autoImplicit false

namespace SpiProgrammer.Bridge

/-- The oldest bridge firmware that can drive the serial bus. -/
def oldestFirmware : UInt8 := 3

/-- Where newer firmware is found. -/
def updateAddress : String :=
  "https://www.st.com/en/development-tools/stsw-link007.html"

def version : Exchange Version :=
  query .getVersion Version.form

def checkVersion : Exchange Version := do
  let version ← version
  let found := version.bridge
  note .info ("Connected to STLINK-V3 with bridge FW version: " ++ toString found.toNat)
  if found < oldestFirmware then
    note .error ("The STLINK-V3 bridge firmware is too old (version " ++ toString found.toNat ++
      ", need " ++ toString oldestFirmware.toNat ++
      " or newer). Update it with STSW-LINK007: " ++ updateAddress)
    throw (.firmwareTooOld found oldestFirmware)
  return version

def inputClock : Exchange Nat := do
  let clock ← query .getClock inputClockForm
  note .debug ("Bridge SPI input clock: " ++ toString clock.toNat ++ " kHz")
  return clock.toNat

/-- Why the settled clock is not what was wanted, if it is faster. -/
def clockWarning? (clock : Clock) (wanted : Nat) : Option String :=
  if clock.isClamped wanted then
    some ("Requested " ++ toString wanted ++ " kHz is below the slowest SCK (" ++
      toString clock.input ++ " kHz / 256), using " ++ toString clock.frequency ++ " kHz")
  else if wanted < clock.frequency then
    some ("SCK " ++ toString clock.frequency ++ " kHz is above the requested " ++
      toString wanted ++ " kHz (" ++ toString clock.input ++ " kHz / " ++
      toString clock.prescaler.divisor ++ ")")
  else none

def settleClock (wanted : Nat) : Exchange Clock := do
  if wanted = 0 then throw (.configuration "SPI speed must be at least 1 kHz")
  let clock := Clock.negotiate (← inputClock) wanted
  if let some warning := clockWarning? clock wanted then note .warn warning
  return clock

def configure (settings : Settings) : Exchange Unit :=
  query (.configure settings) acknowledgement

def setSelect (level : SelectLevel) : Exchange Unit :=
  complaining (fun _ => "Failed to set the NSS pin to " ++ level.name)
    (query (.setSelect level) acknowledgement)

def lastStatus : Exchange UInt32 := do
  return (← query .getStatus TransferStatus.form).code

def checkStatus : Exchange Unit := do
  let status ← lastStatus
  unless status = 0 do
    note .error ("SPI read/write failure: " ++ toString status.toNat)
    throw (.status status)

/-- Writes to the serial bus.  What does not fit in the frame follows it. -/
def write (data : Bytes) : Exchange Unit := do
  if transferMax < data.length then throw (.transferTooLong data.length)
  sendFrame (.write (.ofNat data.length) (data.take leadingMax))
  if leadingMax < data.length then sendRaw "write SPI data" (data.drop leadingMax)

def read (length : Nat) : Dialogue Link (Received Error) := do
  if transferMax < length then return ⟨[], .error (.transferTooLong length)⟩
  let command := Command.read (.ofNat length)
  match ← (sendFrame command).run with
  | .error error => return ⟨[], .error error⟩
  | .ok () => receive command.name length

def close : Exchange Unit :=
  query .close acknowledgement

end SpiProgrammer.Bridge
