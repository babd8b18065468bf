import SpiProgrammer.Bridge.Transaction
import SpiProgrammer.Session.Options
import SpiProgrammer.Spi.Master

/-! # Sessions

Opening a session checks the firmware, settles the clock and sets up the serial bus; closing it
gives the bus up, and a failure of that is only logged.  An open session is a master of the
serial bus: a command becomes one transaction, whose limits are those of the frame.

A session is given up by being closed or by being dropped, and what is closed is dropped as well.
It remembers that it has been given up, so the second time nothing is done. -/
set_option autoImplicit false

namespace SpiProgrammer

open Bridge (Link Exchange)

/-- What is known about the probe while the session lasts. -/
structure Session where
  version : Bridge.Version
  clock : Bridge.Clock
deriving DecidableEq, Repr

namespace Session

def start (frequency : Nat) : Exchange Session := do
  (checkFrequency frequency).mapError OptionFault.toError
  let version ← Bridge.checkVersion
  let clock ← Bridge.settleClock frequency
  Bridge.configure (.flash clock.prescaler)
  Bridge.note .info ("SCK frequency set to " ++ toString clock.frequency ++ " kHz")
  return { version, clock }

def finish : Dialogue Link Unit := do
  Bridge.note .debug "Closing STLINK-V3 SPI bridge"
  if let .error error ← Bridge.close.run then
    Bridge.note .warn ("Failed to close the SPI bridge: " ++ error.message)

/-- Any address width works, and a frame announces up to 65535 bytes either way. -/
def capabilities : Spi.Capabilities where
  features := .fourByteAddress
  maxRead := Bridge.transferMax
  maxWrite := Bridge.transferMax

def execute (command : Spi.Command) : Dialogue Link (Received Spi.Error) := do
  Bridge.note .debug ("SPI execute: opcode=0x" ++ Text.hex 2 command.opcode.toNat ++
    ", write_len=" ++ toString command.sent.length ++
    ", read_len=" ++ toString command.readLength)
  let received ← Bridge.transact command.sent command.readLength
  if let .error error := received.outcome then
    Bridge.note .error ("SPI transfer failed: " ++ error.message)
  return ⟨received.bytes, received.outcome.mapError Bridge.Error.toSpi⟩

/-- How a session answers what is asked of a master.  Time passes without a transfer. -/
def serve : (r : Spi.MasterRequest) → Dialogue Link (Spi.MasterReply r)
  | .execute command => execute command
  | .delay _ => return ()

/-- An operation on the chip, carried out over the link. -/
def onLink {α : Type} (operation : Dialogue Spi.Master α) : Dialogue Link α :=
  operation.through serve

/-! ## The life of a session -/

/-- A session with its owner, and whether it has been given up. -/
structure Owned where
  session : Session
  closed : Bool := false

namespace Owned

def shutDown (owned : Owned) : Dialogue Link Owned := do
  if owned.closed then return owned
  finish
  return { owned with closed := true }

def drop (owned : Owned) : Dialogue Link Unit := do
  let _ ← owned.shutDown

/-- Closing takes the session from its owner, so that it is dropped in the end. -/
def close (owned : Owned) : Dialogue Link Unit := do
  (← owned.shutDown).drop

end Owned

end Session

end SpiProgrammer
