import SpiProgrammer.Flash.Identity
import SpiProgrammer.Flash.Read
import SpiProgrammer.Session.Basic
import SpiProgrammer.Job.Basic

/-! # Looking at the programmer and the chip

These jobs show what there is, or store it in a file, and change nothing on the chip. -/
set_option autoImplicit false

namespace SpiProgrammer.Job

open Text (hex)

def describe (session : Session) : List String :=
  let version := session.version
  let clock := session.clock
  ["Programmer: STLINK-V" ++ toString version.generation.toNat,
    "  USB ID:          " ++ hex 4 version.vendor.toNat ++ ":" ++ hex 4 version.product.toNat,
    "  JTAG/SWD FW:     " ++ toString version.debugger.toNat,
    "  Bridge FW:       " ++ toString version.bridge.toNat,
    "  Bridge clock:    " ++ toString clock.input ++ " kHz",
    "  SCK:             " ++ toString clock.frequency ++ " kHz (/" ++
      toString clock.prescaler.divisor ++ ")"]

def printDescription (session : Session) : Job Unit :=
  (describe session).forM fun line => say line

/-- Shows the programmer and the identity of the chip.  That there is no chip is no failure. -/
def info (session : Session) (capabilities : Spi.Capabilities) : Job Unit := do
  printDescription session
  say ("  Max transfer:    " ++ toString capabilities.maxRead ++ " bytes")
  match ← attempt Flash.readIdentity with
  | .ok identity => say ("Flash JEDEC ID:    " ++ identity.text)
  | .error error => say ("Flash JEDEC ID:    unavailable (" ++ error.message ++ ")")

def probe : Job Unit := do
  match ← attempt Flash.readIdentity with
  | .ok identity =>
    say "Found flash chip:"
    say ("  JEDEC ID: " ++ identity.text)
    let status ← onChip Flash.readStatus
    say ("  Status:   0x" ++ hex 2 status.toNat)
  | .error error =>
    (Dialogue.tell (.complaint ("Probe failed: " ++ error.message ++ "\n")) : Dialogue Workplace _)
    throw (.chip error)

/-- The file is created only when the whole range has been read. -/
def read (capabilities : Spi.Capabilities) (path : String) (address length : UInt32) :
    Job Unit := do
  let contents ← onChip (Flash.read capabilities address length.toNat)
  createFile path contents
  say ("Wrote " ++ toString contents.length ++ " bytes to " ++ Text.quoted path)

end SpiProgrammer.Job
