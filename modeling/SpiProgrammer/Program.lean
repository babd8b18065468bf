import SpiProgrammer.CommandLine.Invocation
import SpiProgrammer.Programmer.Connection
import SpiProgrammer.Job.Change
import SpiProgrammer.Job.Inspect
import SpiProgrammer.Session.Basic

/-! # The program

A command opens the programmer it names, runs one job with it and closes it again, whatever
became of the job; what is reported is the outcome of the job.  Only a bus that breaks off ends
all this early. -/
set_option autoImplicit false

namespace SpiProgrammer

open CommandLine (Command Invocation UsageFault)

/-- What the program needs: the bus and the files. -/
@[reducible]
def Host : Interface := Usb.Bus.both Files

namespace Program

/-- The job that a command stands for, with the programmer it names. -/
def jobOf (command : Command) : Option (String × (Session → Job Unit)) :=
  let capabilities := Session.capabilities
  match command with
  | .listProgrammers => none
  | .info programmer => some (programmer, fun session => Job.info session capabilities)
  | .probe programmer => some (programmer, fun _ => Job.probe)
  | .read programmer path address length =>
    some (programmer, fun _ => Job.read capabilities path address length)
  | .write programmer path address eraseFirst verifyAfter =>
    some (programmer, fun _ => Job.write capabilities path address eraseFirst verifyAfter)
  | .erase programmer address length =>
    some (programmer, fun _ => Job.erase capabilities address length)

/-- What the program does: it may fail with a reason, and may break off without one. -/
abbrev Task (α : Type) : Type :=
  ExceptT Failure (OptionT (Dialogue Host)) α

def onBus {α : Type} (packet : Nat) (job : Job α) : Task α :=
  ExceptT.mk (OptionT.mk
    ((job.run.throughLeft Session.serve).throughLeft? (Usb.serve? packet)))

def connect (description : String) : Task Programmer.Connection :=
  ExceptT.mk (OptionT.mk (Programmer.openDescribed description).run.run.onLeft)

def close (connection : Programmer.Connection) : OptionT (Dialogue Host) Unit :=
  let owned : Session.Owned := { session := connection.session }
  OptionT.mk (owned.close.through? (Usb.serve? connection.packet)).onLeft

/-- Runs a job with the programmer that a description asks for. -/
def withProgrammer (description : String) (job : Session → Job Unit) : Task Unit := do
  let connection ← connect description
  ExceptT.mk do
    let outcome ← (onBus connection.packet (job connection.session)).run
    close connection
    return outcome

def listProgrammers {I : Interface} : Dialogue I Unit :=
  Dialogue.tell (.output Programmer.help)

def run (command : Command) : Task Unit :=
  match jobOf command with
  | some (description, job) => withProgrammer description job
  | none => ExceptT.mk (OptionT.lift do
    listProgrammers
    return .ok ())

/-- The exit code of a run that breaks off. -/
def brokenOff : Nat := 101

/-- Carries a command out and reports a failure; gives the exit code. -/
def runReporting (command : Command) : Dialogue Host Nat := do
  match ← (run command).run.run with
  | some (.ok ()) => return 0
  | some (.error failure) =>
    Dialogue.tell (.complaint ("Error: " ++ failure.report ++ "\n"))
    return 1
  | none => return brokenOff

def versionText : String := "bridgeflash 0.1.0\n"

def usageText : String :=
  "SPI flash programmer for USB bridges\n\n" ++
    "Usage: bridgeflash [-v] <command> [options]\n\n" ++
    "Commands: info, probe, read, write, erase, list-programmers, help\n" ++
    "Programmers: " ++ Programmer.names ++ "\n"

/-- What is done where no command is carried out: help and version are printed where they were
asked for, anything else is complained of. -/
def explain {I : Interface} : UsageFault → Dialogue I Nat
  | .helpWanted => do
    Dialogue.tell (.output usageText)
    return 0
  | .versionWanted => do
    Dialogue.tell (.output versionText)
    return 0
  | _ => do
    Dialogue.tell (.complaint usageText)
    return 2

/-- What the arguments ask to be logged, and to be done; what is done ends in an exit code. -/
def ofArguments (arguments : List String) : Log.Level × Dialogue Host Nat :=
  match Invocation.ofArguments arguments with
  | .ok invocation => (invocation.logLimit, runReporting invocation.command)
  | .error fault => (.info, explain fault)

end Program

end SpiProgrammer
