import SpiProgrammer.Bridge.Clock
import SpiProgrammer.Bytes

/-! # Command frames

Every request to the bridge is one frame of sixteen bytes: a class, a function, its parameters,
and zeros.  A write carries up to eight bytes of its data in the frame. -/
set_option autoImplicit false

namespace SpiProgrammer.Bridge

/-- How many data lines there are and which way they go. -/
inductive Direction where
  | fullDuplex
  | receiveOnly
  | oneLineReceive
  | oneLineTransmit
deriving DecidableEq, Repr

def Direction.code : Direction → UInt8
  | .fullDuplex => 0
  | .receiveOnly => 1
  | .oneLineReceive => 2
  | .oneLineTransmit => 3

inductive Role where
  | slave
  | master
deriving DecidableEq, Repr

def Role.code : Role → UInt8
  | .slave => 0
  | .master => 1

inductive Phase where
  | firstEdge
  | secondEdge
deriving DecidableEq, Repr

def Phase.code : Phase → UInt8
  | .firstEdge => 0
  | .secondEdge => 1

inductive Polarity where
  | restsLow
  | restsHigh
deriving DecidableEq, Repr

def Polarity.code : Polarity → UInt8
  | .restsLow => 0
  | .restsHigh => 1

inductive BitOrder where
  | leastFirst
  | mostFirst
deriving DecidableEq, Repr

def BitOrder.code : BitOrder → UInt8
  | .leastFirst => 0
  | .mostFirst => 1

inductive WordSize where
  | sixteen
  | eight
deriving DecidableEq, Repr

def WordSize.code : WordSize → UInt8
  | .sixteen => 0
  | .eight => 1

inductive SelectMode where
  | host
  | peripheral
deriving DecidableEq, Repr

def SelectMode.code : SelectMode → UInt8
  | .host => 0
  | .peripheral => 1

/-- The level of the chip-select line; the chip is selected while it is low. -/
inductive SelectLevel where
  | low
  | high
deriving DecidableEq, Repr

def SelectLevel.code : SelectLevel → UInt8
  | .low => 0
  | .high => 1

def SelectLevel.name : SelectLevel → String
  | .low => "Low"
  | .high => "High"

/-- How the bridge is to drive the serial bus. -/
structure Settings where
  direction : Direction
  role : Role
  phase : Phase
  polarity : Polarity
  bitOrder : BitOrder
  wordSize : WordSize
  selectMode : SelectMode
  prescaler : Prescaler
deriving DecidableEq, Repr

namespace Settings

/-- What a flash chip needs: full duplex as master, mode 0, bytes with the most significant bit
first, and a chip-select line that the host drives. -/
def flash (prescaler : Prescaler) : Settings where
  direction := .fullDuplex
  role := .master
  phase := .firstEdge
  polarity := .restsLow
  bitOrder := .mostFirst
  wordSize := .eight
  selectMode := .host
  prescaler := prescaler

/-- Role, phase, polarity and bit order share a byte. -/
def modeByte (settings : Settings) : UInt8 :=
  settings.role.code ||| settings.phase.code <<< 1 ||| settings.polarity.code <<< 2 |||
    settings.bitOrder.code <<< 3

end Settings

inductive Command where
  | getVersion
  | getClock
  | configure (settings : Settings)
  /-- announces `length` bytes, the first of them given in the frame -/
  | write (length : UInt16) (leading : Bytes)
  | read (length : UInt16)
  | setSelect (level : SelectLevel)
  | getStatus
  | close
deriving DecidableEq, Repr

def frameSize : Nat := 16

def leadingMax : Nat := 8

/-- The largest length that the frame of a write or read can announce. -/
def transferMax : Nat := 65535

def probeClass : UInt8 := 0xFB

def bridgeClass : UInt8 := 0xFC

/-- The bridge function that drives the serial bus. -/
def serialBus : UInt8 := 0x02

namespace Command

def name : Command → String
  | .getVersion => "get version"
  | .getClock => "get clock"
  | .configure _ => "init SPI"
  | .write _ _ => "write SPI"
  | .read _ => "read SPI"
  | .setSelect _ => "set NSS"
  | .getStatus => "get R/W status"
  | .close => "close SPI"

/-- The bytes of the frame before the zeros. -/
def content : Command → Bytes
  | .getVersion => [probeClass, 0x80]
  | .getClock => [bridgeClass, 0x03, serialBus]
  | .configure settings =>
    [bridgeClass, 0x20, settings.direction.code, settings.modeByte, settings.wordSize.code,
      settings.selectMode.code, .ofNat settings.prescaler.code.val]
  | .write length leading =>
    [bridgeClass, 0x21] ++ Bytes.ofUInt16LE length ++ leading.take leadingMax
  | .read length => [bridgeClass, 0x22] ++ Bytes.ofUInt16LE length
  | .setSelect level => [bridgeClass, 0x23, level.code]
  | .getStatus => [bridgeClass, 0x02]
  | .close => [bridgeClass, 0x01, serialBus]

def frame (command : Command) : Bytes :=
  command.content ++ List.replicate (frameSize - command.content.length) 0

theorem content_length_le (command : Command) : command.content.length ≤ frameSize := by
  cases command <;> simp [content, frameSize, leadingMax, Bytes.ofUInt16LE]
  omega

theorem frame_length (command : Command) : command.frame.length = frameSize := by
  have fits := command.content_length_le
  rw [frame, List.length_append, List.length_replicate]
  omega

end Command

end SpiProgrammer.Bridge
