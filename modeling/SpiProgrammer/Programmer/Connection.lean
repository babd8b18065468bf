import SpiProgrammer.Failure
import SpiProgrammer.Session.Basic
import SpiProgrammer.Usb.Probe

/-! # From a description to an open session

The description is understood completely before the bus is asked for anything. -/
set_option autoImplicit false

namespace SpiProgrammer.Programmer

def configuration (text : String) : Except Failure Session.Options := do
  let description ← (Description.ofString text).mapError Failure.description
  match find? description.name with
  | none => throw (.unknownProgrammer description.name)
  | some _ =>
    (Session.Options.ofList description.parameters).mapError fun fault => .bridge fault.toError

/-- An open session, with the packet size of its link. -/
structure Connection where
  session : Session
  packet : Nat
deriving DecidableEq, Repr

/-- What is done on the bus, may fail with a reason, and may break off without one. -/
abbrev Attempt (ε α : Type) : Type :=
  ExceptT ε (OptionT (Dialogue Usb.Bus)) α

def connect (options : Session.Options) : Attempt Bridge.Error Connection := do
  (Session.checkFrequency options.frequency).mapError Session.OptionFault.toError
  let packet ← ExceptT.mk (OptionT.lift (Usb.openProbe options.serial).run)
  let session ← ExceptT.mk (OptionT.mk
    ((Session.start options.frequency).run.through? (Usb.serve? packet)))
  return { session, packet }

def openDescribed (text : String) : Attempt Failure Connection := do
  let options ← configuration text
  ExceptT.mk do return (← (connect options).run).mapError Failure.bridge

end SpiProgrammer.Programmer
