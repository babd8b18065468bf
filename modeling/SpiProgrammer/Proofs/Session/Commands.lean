import SpiProgrammer.Proofs.Bridge.Frames
import SpiProgrammer.Session.Basic

/-! # Which chip commands a session sends

A chip command goes out as the data of a write, and its opcode stands in the frame of the write.
A session sends the commands that it is asked to execute and no others: nothing that is sent to
open it, to close it or around a command is a write.

Main statements: `execute_sends` for one command, `start_sends` and `finish_sends` for a session
that is opened and closed. -/
set_option autoImplicit false

namespace SpiProgrammer

open Dialogue (asks_bind asks_bind_except)

namespace Bridge

/-! ## Writes -/

/-- The bytes are the frame of a write, and the data in it begin with the opcode. -/
def Writes (opcode : UInt8) (bytes : Bytes) : Prop :=
  ∃ length rest, bytes = (Command.write length (opcode :: rest)).frame

theorem not_writes_of_other {command : Command} (other : command.function ≠ 0x21)
    (opcode : UInt8) : ¬ Writes opcode command.frame := by
  rintro ⟨length, rest, same⟩
  exact @Command.frame_ne command (.write length (opcode :: rest)) other same

theorem writes_write {length : UInt16} {opcode first : UInt8} {rest : Bytes} :
    Writes opcode (Command.write length (first :: rest)).frame ↔ opcode = first := by
  constructor
  · rintro ⟨other, later, same⟩
    have byte : (Command.write length (first :: rest)).frame.getD 4 0 =
      (Command.write other (opcode :: later)).frame.getD 4 0 := congrArg (·.getD 4 0) same
    exact byte.symm
  · rintro rfl
    exact ⟨length, rest, rfl⟩

/-- Where a chip command goes out, its opcode is allowed. -/
def Link.Sends (allowed : UInt8 → Prop) : LinkRequest → Prop
  | .send bytes => ∀ opcode, Writes opcode bytes → allowed opcode
  | .receive _ => True

/-! ## What is sent around a command -/

section Sends

variable {α : Type} {allowed : UInt8 → Prop}

theorem sendFrame_sends {command : Command}
    (sends : ∀ opcode, Writes opcode command.frame → allowed opcode) :
    (sendFrame command).run.Asks (Link.Sends allowed) := by
  refine ⟨sends, ?_⟩
  rintro (error | count)
  · trivial
  · show (if count ≠ command.frame.length
      then throw (.shortTransfer command.name command.frame.length count)
      else pure () : Exchange Unit).run.Asks _
    split <;> trivial

theorem receive_sends (what : String) (length : Nat) :
    (receive what length).Asks (Link.Sends allowed) := by
  refine ⟨trivial, ?_⟩
  rintro (error | reply)
  · trivial
  · show (if reply.length = length then pure ⟨reply, .ok ()⟩
      else pure ⟨reply.take length, .error (.shortTransfer what length reply.length)⟩ :
        Dialogue Link (Received Error)).Asks _
    split <;> trivial

theorem query_sends {command : Command} (other : command.function ≠ 0x21) (form : AnswerForm α) :
    (query command form).run.Asks (Link.Sends allowed) := by
  refine asks_bind_except (sendFrame_sends fun opcode writes => ?_) fun _ => ?_
  · exact absurd writes (not_writes_of_other other opcode)
  · refine asks_bind_except (asks_bind (receive_sends _ _) fun _ => trivial) fun reply => ?_
    cases reply.outcome <;> trivial

theorem setSelect_sends (level : SelectLevel) :
    (setSelect level).run.Asks (Link.Sends allowed) := by
  refine asks_bind (query_sends (plain_setSelect level).2 acknowledgement) ?_
  rintro (error | _) <;> trivial

theorem checkStatus_sends : checkStatus.run.Asks (Link.Sends allowed) := by
  refine asks_bind_except ?_ fun status => ?_
  · exact asks_bind_except (query_sends plain_getStatus.2 _) fun _ => trivial
  · split <;> trivial

theorem read_sends (length : Nat) : (read length).Asks (Link.Sends allowed) := by
  unfold read
  split
  · trivial
  refine asks_bind (sendFrame_sends fun opcode writes => ?_) ?_
  · exact absurd writes (not_writes_of_other (plain_read _).2 opcode)
  · rintro (error | _)
    · trivial
    · exact receive_sends _ length

theorem andThen_sends (received : Received Error) {next : Exchange Unit}
    (sends : next.run.Asks (Link.Sends allowed)) :
    (andThen received next).Asks (Link.Sends allowed) := by
  unfold andThen
  split
  · trivial
  · exact asks_bind sends fun _ => trivial

/-! ## One command -/

variable {opcode : UInt8} {rest : Bytes} (allows : allowed opcode)
include allows

theorem write_sends (fits : (opcode :: rest).length ≤ leadingMax) :
    (write (opcode :: rest)).run.Asks (Link.Sends allowed) := by
  unfold write
  by_cases long : transferMax < (opcode :: rest).length
  · rw [if_pos long]
    trivial
  rw [if_neg long, if_neg (Nat.not_lt_of_le fits), List.take_of_length_le fits]
  refine asks_bind_except (sendFrame_sends fun other writes => ?_) fun _ => trivial
  exact writes_write.mp writes ▸ allows

theorem transact_sends (fits : (opcode :: rest).length ≤ leadingMax) (length : Nat) :
    (transact (opcode :: rest) length).Asks (Link.Sends allowed) := by
  have exchanges : (exchangeSelected (opcode :: rest) length).Asks (Link.Sends allowed) := by
    refine asks_bind (asks_bind_except (write_sends allows fits) fun _ => checkStatus_sends) ?_
    rintro (error | _)
    · trivial
    · refine asks_bind ?_ fun received => andThen_sends received checkStatus_sends
      unfold readSome
      split
      · trivial
      · exact read_sends length
  unfold transact
  split
  · trivial
  split
  · trivial
  refine asks_bind (setSelect_sends .low) ?_
  rintro (error | _)
  · trivial
  · refine asks_bind exchanges fun received => ?_
    split
    · exact andThen_sends received (setSelect_sends .high)
    · refine asks_bind (asks_bind (setSelect_sends .high) ?_) fun _ => trivial
      rintro (error | _) <;> trivial

end Sends

end Bridge

namespace Session

open Bridge

variable {allowed : UInt8 → Prop}

/-- A command without more data than fit in the frame, with an opcode that is allowed. -/
def Issues (allowed : UInt8 → Prop) : Spi.MasterRequest → Prop
  | .execute command => allowed command.opcode ∧ command.sent.length ≤ leadingMax
  | .delay _ => True

theorem execute_sends {command : Spi.Command} (allows : allowed command.opcode)
    (fits : command.sent.length ≤ leadingMax) :
    (execute command).Asks (Link.Sends allowed) := by
  show (transact command.sent command.readLength >>= _).Asks _
  refine asks_bind (transact_sends allows fits command.readLength) fun received => ?_
  cases received.outcome <;> trivial

theorem serve_sends (r : Spi.MasterRequest) (issues : Issues allowed r) :
    (serve r).Asks (Link.Sends allowed) := by
  cases r with
  | execute command => exact execute_sends issues.1 issues.2
  | delay time => trivial

theorem start_sends (frequency : Nat) : (start frequency).run.Asks (Link.Sends allowed) := by
  refine asks_bind_except ?_ fun _ => ?_
  · cases checkFrequency frequency <;> trivial
  refine asks_bind_except ?_ fun version => asks_bind_except ?_ fun clock => ?_
  · refine asks_bind_except (query_sends plain_getVersion.2 _) fun version => ?_
    show (if version.bridge < oldestFirmware then _ else _ : Exchange Version).run.Asks _
    split <;> trivial
  · unfold settleClock
    split
    · trivial
    refine asks_bind_except ?_ fun input => ?_
    · exact asks_bind_except (query_sends plain_getClock.2 _) fun _ => trivial
    · dsimp only
      split <;> trivial
  · exact asks_bind_except (query_sends (plain_configure _).2 _) fun _ => trivial

theorem finish_sends : finish.Asks (Link.Sends allowed) := by
  have other : Command.close.function ≠ 0x21 := by decide
  show (close.run >>= _).Asks _
  refine asks_bind (query_sends other acknowledgement) ?_
  rintro (error | _) <;> trivial

end Session

end SpiProgrammer
