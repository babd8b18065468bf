import SpiProgrammer.Program
import SpiProgrammer.Usb.Simulated

/-! # The program on a real machine

Files are those of the machine.  No USB stack is linked in, so the bus has no devices. -/
set_option autoImplicit false

namespace SpiProgrammer

/-- Holds a dialogue with something that answers by acting. -/
def Dialogue.perform {I : Interface} {α : Type} (answer : (r : I.Request) → IO (I.Reply r))
    (notify : Notice → IO Unit) : Dialogue I α → IO α
  | .done value => pure value
  | .say notice rest => do
    notify notice
    rest.perform answer notify
  | .ask request next => do
    (next (← answer request)).perform answer notify

def FileFault.ofError : IO.Error → FileFault
  | .noFileOrDirectory .. => .notFound
  | .permissionDenied .. => .permissionDenied
  | .inappropriateType .. => .notADirectory
  | error => .other 5 (toString error)

def attempt {α : Type} (action : IO α) : IO (Except FileFault α) := do
  match ← action.toBaseIO with
  | .ok value => pure (.ok value)
  | .error error => pure (.error (FileFault.ofError error))

def answerFiles : (r : FilesRequest) → IO (FilesReply r)
  | .read path => attempt do return (← IO.FS.readBinFile path).toList
  | .create path contents => attempt (IO.FS.writeBinFile path ⟨contents.toArray⟩)

/-- An empty bus. -/
def answerHost : (r : Host.Request) → IO (Host.Reply r)
  | .inl r => pure (Usb.Simulated.machine r {}).1
  | .inr r => answerFiles r

/-- Writes a notice to the stream it belongs to. -/
def notify (limit : Log.Level) (notice : Notice) : IO Unit := do
  if let some text := notice.output? then IO.print text
  if let some text := notice.complaint? limit then IO.eprint text

end SpiProgrammer

open SpiProgrammer in
def main (arguments : List String) : IO UInt32 := do
  let (limit, dialogue) := Program.ofArguments arguments
  return (← dialogue.perform answerHost (notify limit)).toUInt32
