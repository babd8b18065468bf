import SpiProgrammer.Bridge.Error
import SpiProgrammer.Files.Basic
import SpiProgrammer.Programmer.Description

/-! # Why a run fails

A failure of the chip, the bridge or a file is passed on as it is; the others are those of the
program itself.  The last line of a failed run reports the former by their label and details, and
the latter as a quoted sentence. -/
set_option autoImplicit false

namespace SpiProgrammer

inductive Failure where
  | chip (error : Spi.Error)
  | bridge (error : Bridge.Error)
  | file (fault : FileFault)
  | description (fault : Programmer.DescriptionFault)
  | unknownProgrammer (name : String)
  | lengthRequired
  | emptyImage (path : String)
  | unalignedErase (address : UInt32)
  | imageTooLarge
  | verification (address : Nat) (wrote read : UInt8)
deriving DecidableEq, Repr

namespace Failure

open Text (hex quoted)

def message : Failure → String
  | .chip error => error.message
  | .bridge error => error.message
  | .file fault => fault.message
  | .description fault => fault.message
  | .unknownProgrammer name => "Unknown programmer: " ++ name ++ "\n" ++ Programmer.help
  | .lengthRequired => "--length is required when --address is given"
  | .emptyImage path => quoted path ++ " is empty"
  | .unalignedErase address =>
    "--erase needs a 4096 byte aligned address, got 0x" ++ hex 8 address.toNat
  | .imageTooLarge => "image too large"
  | .verification address wrote read =>
    "Verification failed at 0x" ++ hex 8 address ++ ": wrote 0x" ++ hex 2 wrote.toNat ++
      ", read 0x" ++ hex 2 read.toNat

def report : Failure → String
  | .chip error => error.label
  | .bridge error => error.label ++ error.details
  | .file fault => fault.report
  | failure => quoted failure.message

end Failure

end SpiProgrammer
