import SpiProgrammer.Dialogue
import SpiProgrammer.Spi.Command
import SpiProgrammer.Spi.Error

/-! # Programmers as masters of the serial bus

A master executes one command per chip-select cycle and can let time pass.  What it is capable
of is known beforehand: whether it sends four address bytes, and how much it reads and writes
in one transaction. -/
set_option autoImplicit false

namespace SpiProgrammer.Spi

/-- Optional abilities, one bit each. -/
structure Features where
  bits : UInt32 := 0
deriving DecidableEq, Repr

namespace Features

def fourByteAddress : Features := ⟨1⟩

def all : Features := fourByteAddress

def contains (features wanted : Features) : Bool :=
  features.bits &&& wanted.bits == wanted.bits

end Features

structure Capabilities where
  features : Features
  /-- The most bytes that one transaction reads. -/
  maxRead : Nat
  /-- The most bytes that one transaction sends, the header included. -/
  maxWrite : Nat
deriving DecidableEq, Repr

inductive MasterRequest where
  | execute (command : Command)
  | delay (microseconds : Nat)
deriving DecidableEq, Repr

/-- Executing gives the bytes that reached the read buffer, and the outcome. -/
@[reducible]
def MasterReply : MasterRequest → Type
  | .execute _ => Received Error
  | .delay _ => Unit

@[reducible]
def Master : Interface where
  Request := MasterRequest
  Reply := MasterReply

/-- An operation on the chip behind a master. -/
abbrev Operation (α : Type) : Type :=
  ExceptT Error (Dialogue Master) α

def execute (command : Command) : Dialogue Master (Received Error) :=
  Dialogue.request (I := Master) (.execute command)

def delay (microseconds : Nat) : Dialogue Master Unit :=
  Dialogue.request (I := Master) (.delay microseconds)

abbrev note (level : Log.Level) (text : String) : Dialogue Master Unit :=
  Dialogue.log level text

/-- Reports the size of a piece of work just finished. -/
abbrev progress (count : Nat) : Dialogue Master Unit :=
  Dialogue.tell (.progress count)

/-- Executes a command of which nothing is read. -/
def perform (command : Command) : Operation Unit :=
  ExceptT.mk do return (← execute command).outcome

end SpiProgrammer.Spi
