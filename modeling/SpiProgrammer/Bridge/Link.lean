import SpiProgrammer.Bridge.Answer
import SpiProgrammer.Bridge.Command
import SpiProgrammer.Bridge.Error
import SpiProgrammer.Dialogue

/-! # The link to the bridge

A link is a pair of pipes.  Sending gives the number of bytes that went out, receiving the whole
reply, of which a buffer of the given length takes the front.  A transfer that moves any other
number of bytes than it has to is an error, in either direction.

What stands at the far end takes transfers and queues replies.  There a transfer in either
direction can time out or fail. -/
set_option autoImplicit false

namespace SpiProgrammer.Bridge

inductive LinkRequest where
  | send (bytes : Bytes)
  | receive (length : Nat)
deriving DecidableEq, Repr

@[reducible]
def LinkReply : LinkRequest → Type
  | .send _ => Except Error Nat
  | .receive _ => Except Error Bytes

@[reducible]
def Link : Interface where
  Request := LinkRequest
  Reply := LinkReply

abbrev Exchange (α : Type) : Type :=
  ExceptT Error (Dialogue Link) α

abbrev note (level : Log.Level) (text : String) : Dialogue Link Unit :=
  Dialogue.log level text

/-- An exchange whose failure is complained of before it is passed on. -/
def complaining {α : Type} (complaint : Error → String) (exchange : Exchange α) : Exchange α :=
  tryCatch exchange fun error => do
    note .error (complaint error)
    throw error

def send (bytes : Bytes) : Exchange Nat :=
  ExceptT.mk (Dialogue.request (I := Link) (.send bytes))

/-- Sends bytes, all of which have to go out. -/
def sendAll (what : String) (complaint : Error → String) (bytes : Bytes) : Exchange Unit := do
  let count ← complaining complaint (send bytes)
  if count ≠ bytes.length then throw (.shortTransfer what bytes.length count)

def sendFrame (command : Command) : Exchange Unit := do
  note .debug ("Sending " ++ command.name ++ " frame: " ++ Text.hexList command.frame)
  sendAll command.name
    (fun error => "Failed to issue the " ++ command.name ++ " command: " ++ error.message)
    command.frame

def sendRaw (what : String) (data : Bytes) : Exchange Unit :=
  sendAll what (fun error => "Failed to send " ++ what ++ ": " ++ error.message) data

/-- Receives into a buffer, which the reply has to fill exactly. -/
def receive (what : String) (length : Nat) : Dialogue Link (Received Error) := do
  match ← Dialogue.request (I := Link) (.receive length) with
  | .error error =>
    note .error ("Failed to receive the " ++ what ++ " answer: " ++ error.message)
    return ⟨[], .error error⟩
  | .ok reply =>
    if reply.length = length then return ⟨reply, .ok ()⟩
    else return ⟨reply.take length, .error (.shortTransfer what length reply.length)⟩

def query {α : Type} (command : Command) (form : AnswerForm α) : Exchange α := do
  sendFrame command
  let reply ← receive command.name form.length
  reply.outcome
  return form.meaning reply.bytes

/-! ## The far end -/

inductive PipeFault where
  | timeout
  | failed (reason : String)
deriving DecidableEq, Repr

def PipeFault.toError : PipeFault → Error
  | .timeout => .timeout
  | .failed reason => .transferFailed reason

/-- What the next receiving transfer meets: a reply or a fault. -/
abbrev QueuedReply : Type := Except PipeFault Bytes

/-- Takes the next reply off a queue.  Where nothing is queued the transfer times out. -/
def takeReply : List QueuedReply → QueuedReply × List QueuedReply
  | [] => (.error .timeout, [])
  | reply :: rest => (reply, rest)

end SpiProgrammer.Bridge
