import SpiProgrammer.Failure
import SpiProgrammer.Spi.Master

/-! # Jobs

A job works with a master of the serial bus and with files, and prints what it has to say. -/
set_option autoImplicit false

namespace SpiProgrammer

@[reducible]
def Workplace : Interface := Spi.Master.both Files

abbrev Job (α : Type) : Type :=
  ExceptT Failure (Dialogue Workplace) α

namespace Job

/-- An operation on the chip, whose failure the job may survive. -/
def attempt {α : Type} (operation : Spi.Operation α) :
    Dialogue Workplace (Except Spi.Error α) :=
  operation.run.onLeft

/-- An operation on the chip as a step of a job. -/
def onChip {α : Type} (operation : Spi.Operation α) : Job α :=
  ExceptT.mk do return (← attempt operation).mapError Failure.chip

def onFiles {α : Type} (asked : Dialogue Files (Except FileFault α)) : Job α :=
  ExceptT.mk do return (← asked.onRight).mapError Failure.file

def readFile (path : String) : Job Bytes :=
  onFiles (Dialogue.request (I := Files) (.read path))

def createFile (path : String) (contents : Bytes) : Job Unit :=
  onFiles (Dialogue.request (I := Files) (.create path contents))

abbrev say (text : String) : Dialogue Workplace Unit :=
  Dialogue.printLine text

abbrev note (level : Log.Level) (text : String) : Dialogue Workplace Unit :=
  Dialogue.log level text

end Job

end SpiProgrammer
