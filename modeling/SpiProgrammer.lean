import SpiProgrammer.Bridge.Answer
import SpiProgrammer.Bridge.Clock
import SpiProgrammer.Bridge.Command
import SpiProgrammer.Bridge.Emulator
import SpiProgrammer.Bridge.Error
import SpiProgrammer.Bridge.Link
import SpiProgrammer.Bridge.Peer
import SpiProgrammer.Bridge.Requests
import SpiProgrammer.Bridge.Transaction
import SpiProgrammer.Bytes
import SpiProgrammer.CommandLine.Arguments
import SpiProgrammer.CommandLine.Invocation
import SpiProgrammer.CommandLine.Vocabulary
import SpiProgrammer.Dialogue
import SpiProgrammer.Dialogue.Run
import SpiProgrammer.Failure
import SpiProgrammer.Files.Basic
import SpiProgrammer.Files.Directory
import SpiProgrammer.Flash.Change
import SpiProgrammer.Flash.Chip
import SpiProgrammer.Flash.Identity
import SpiProgrammer.Flash.Memory
import SpiProgrammer.Flash.Range
import SpiProgrammer.Flash.Read
import SpiProgrammer.Flash.Wired
import SpiProgrammer.Job.Basic
import SpiProgrammer.Job.Change
import SpiProgrammer.Job.Inspect
import SpiProgrammer.Main
import SpiProgrammer.Notice
import SpiProgrammer.Program
import SpiProgrammer.Programmer.Connection
import SpiProgrammer.Programmer.Description
import SpiProgrammer.Session.Basic
import SpiProgrammer.Session.Options
import SpiProgrammer.Spi.Address
import SpiProgrammer.Spi.Command
import SpiProgrammer.Spi.Error
import SpiProgrammer.Spi.Master
import SpiProgrammer.Spi.Opcode
import SpiProgrammer.Text.Character
import SpiProgrammer.Text.ControlSequence
import SpiProgrammer.Text.Numeral
import SpiProgrammer.Text.Quoted
import SpiProgrammer.Usb.Bus
import SpiProgrammer.Usb.Probe
import SpiProgrammer.Usb.Simulated
import SpiProgrammer.Proofs.Dialogue.Course
import SpiProgrammer.Proofs.Dialogue.Layers
import SpiProgrammer.Proofs.Flash.Asking
import SpiProgrammer.Proofs.Bridge.Steps
import SpiProgrammer.Proofs.Bridge.ChipSelect
import SpiProgrammer.Proofs.Flash.Cycle
import SpiProgrammer.Proofs.Bridge.Emulated
import SpiProgrammer.Proofs.Bridge.ChipCycle
import SpiProgrammer.Proofs.Session.Execution
import SpiProgrammer.Proofs.Session.Refinement
import SpiProgrammer.Proofs.Flash.Limits
import SpiProgrammer.Proofs.Dialogue.Ensures
import SpiProgrammer.Proofs.Flash.Driving
import SpiProgrammer.Proofs.Flash.Containment
import SpiProgrammer.Proofs.Session.Containment
import SpiProgrammer.Proofs.Flash.Pace
import SpiProgrammer.Proofs.Flash.Success
import SpiProgrammer.Proofs.Bridge.InStep
import SpiProgrammer.Proofs.Flash.Ranges
import SpiProgrammer.Proofs.Flash.Programming
import SpiProgrammer.Proofs.Flash.Planning
import SpiProgrammer.Proofs.Flash.Fitting
import SpiProgrammer.Proofs.Flash.Reading
import SpiProgrammer.Proofs.Flash.Erasing
import SpiProgrammer.Proofs.Job.Write
import SpiProgrammer.Proofs.Bridge.Exits
import SpiProgrammer.Proofs.Bridge.Verdict
import SpiProgrammer.Proofs.Bridge.SelectLine
import SpiProgrammer.Proofs.Bridge.Recovery
import SpiProgrammer.Proofs.Dialogue.Watching
import SpiProgrammer.Proofs.Flash.Discipline
import SpiProgrammer.Proofs.Job.Discipline
import SpiProgrammer.Proofs.Bridge.Frames
import SpiProgrammer.Proofs.Session.Lifetime
import SpiProgrammer.Proofs.Program.Closing
import SpiProgrammer.Proofs.Session.Reading
import SpiProgrammer.Proofs.Job.Reading
import SpiProgrammer.Proofs.Job.Inspection
import SpiProgrammer.Proofs.Job.Refusal
import SpiProgrammer.Proofs.Job.Ranges
import SpiProgrammer.Proofs.Bridge.Negotiation
import SpiProgrammer.Proofs.Session.Opening
import SpiProgrammer.Proofs.Flash.Polling
import SpiProgrammer.Proofs.Bridge.Decoding
import SpiProgrammer.Proofs.Usb.Receiving
import SpiProgrammer.Proofs.Text.Numerals
import SpiProgrammer.Proofs.Programmer.Grammar
import SpiProgrammer.Proofs.Programmer.Configuration
import SpiProgrammer.Proofs.Spi.Header
import SpiProgrammer.Proofs.Programmer.Printing
import SpiProgrammer.Proofs.Usb.Opening
import SpiProgrammer.Proofs.Usb.Selection
import SpiProgrammer.Proofs.CommandLine.Numbers
import SpiProgrammer.Proofs.CommandLine.Options
import SpiProgrammer.Proofs.Session.Commands
import SpiProgrammer.Proofs.Program.Erasing
