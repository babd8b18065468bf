import SpiProgrammer.Proofs.Dialogue.Layers
import SpiProgrammer.Proofs.Flash.Discipline

/-! # What operations ask of the master

An operation that changes the chip asks for the command that enables the change, for the change
itself, and then for the status and for time; reading asks for reads alone.  Main statements: what
holds of these requests holds of all that an operation asks, whoever answers. -/
set_option autoImplicit false

namespace SpiProgrammer.Flash

open Spi

section Asking

variable {α σ : Type} {P : MasterRequest → Prop}

theorem executed_of_asks {d : Dialogue Master α} (asks : d.Asks P) (machine : Machine σ Master)
    (state : σ) : ∀ made ∈ executed (d.run machine state).events, P (.execute made.command) := by
  intro made member
  obtain ⟨event, happened, shown⟩ := List.mem_filterMap.mp member
  have asked := Dialogue.events_of_asks machine asks state event happened
  obtain ⟨request, reply⟩ := event
  cases request with
  | delay time => cases shown
  | execute command =>
    cases shown
    exact asked

theorem perform_asks {command : Command} (asks : P (.execute command)) :
    (perform command).run.Asks P :=
  ⟨asks, fun _ => trivial⟩

theorem readRegister_asks {opcode : UInt8} {length : Nat}
    (asks : P (.execute (.readRegister opcode length))) : (readRegister opcode length).run.Asks P :=
  ⟨asks, fun _ => trivial⟩

/-- What is asked while the chip is waited for. -/
structure Waits (P : MasterRequest → Prop) : Prop where
  looks : P (.execute statusCommand)
  delays : ∀ time, P (.delay time)

theorem readStatus_asks (looks : P (.execute statusCommand)) : readStatus.run.Asks P :=
  Dialogue.asks_bind_except (readRegister_asks looks) fun _ => trivial

theorem pollUntilReady_asks (waits : Waits P) (pause limit : Nat) :
    (pollUntilReady pause limit).run.Asks P := by
  induction limit with
  | zero => trivial
  | succ limit ih =>
    refine Dialogue.asks_bind_except (readStatus_asks waits.looks) fun status => ?_
    by_cases ready : status &&& Opcode.busyBit = 0
    · rw [if_pos ready]
      trivial
    · rw [if_neg ready]
      by_cases pauses : pause > 0
      · rw [if_pos pauses]
        exact ⟨waits.delays pause, fun _ => ih⟩
      · rw [if_neg pauses]
        exact ih

theorem waitReady_asks (waits : Waits P) (pause timeout : Nat) :
    (waitReady pause timeout).run.Asks P := by
  refine Dialogue.asks_bind_except (pollUntilReady_asks waits pause _) fun ready => ?_
  cases ready <;> trivial

/-- What is asked around a change. -/
structure Serves (P : MasterRequest → Prop) : Prop extends Waits P where
  enables : P (.execute (.simple Opcode.writeEnable))

theorem writeEnable_asks (serves : Serves P) : writeEnable.run.Asks P :=
  perform_asks serves.enables

theorem change_asks (serves : Serves P) {command : Command} (asks : P (.execute command))
    (pause timeout : Nat) :
    (do writeEnable; perform command; waitReady pause timeout : Operation Unit).run.Asks P :=
  Dialogue.asks_bind_except (writeEnable_asks serves) fun _ =>
    Dialogue.asks_bind_except (perform_asks asks) fun _ =>
      waitReady_asks serves.toWaits pause timeout

theorem programPieces_asks (serves : Serves P) {width : AddressWidth} {pieces : List Piece}
    (asks : ∀ piece ∈ pieces, ∀ part : Bytes, part.length ≤ piece.length →
      P (.execute (.write (Opcode.programPage width) (.ofNat piece.address) width part))) :
    ∀ data : Bytes, (programPieces width pieces data).run.Asks P := by
  induction pieces with
  | nil => exact fun _ => trivial
  | cons piece rest ih =>
    intro data
    have front := asks piece (List.mem_cons_self ..) (data.take piece.length)
      (List.length_take_le ..)
    refine Dialogue.asks_bind_except (change_asks serves front 10 10000) fun _ => ?_
    exact ih (fun other later => asks other (List.mem_cons_of_mem _ later)) _

theorem eraseSectors_asks (serves : Serves P) {width : AddressWidth} {found : List Nat}
    (asks : ∀ sector ∈ found,
      P (.execute (.erase (Opcode.eraseSector width) (.ofNat sector) width))) :
    (eraseSectors width found).run.Asks P := by
  induction found with
  | nil => trivial
  | cons sector rest ih =>
    have front := asks sector (List.mem_cons_self ..)
    refine Dialogue.asks_bind_except (change_asks serves front 10000 1000000) fun _ => ?_
    exact ih fun other later => asks other (List.mem_cons_of_mem _ later)

theorem readPieces_asks {width : AddressWidth} {pieces : List Piece}
    (asks : ∀ piece ∈ pieces,
      P (.execute (.read (Opcode.read width) (.ofNat piece.address) width piece.length))) :
    ∀ filled buffer : Bytes, (readPieces width pieces filled buffer).Asks P := by
  induction pieces with
  | nil => exact fun _ _ => trivial
  | cons piece rest ih =>
    intro filled buffer
    refine ⟨asks piece (List.mem_cons_self ..), ?_⟩
    rintro ⟨bytes, outcome⟩
    cases outcome with
    | error error => trivial
    | ok _ => exact ih (fun other later => asks other (List.mem_cons_of_mem _ later)) _ _

end Asking

end SpiProgrammer.Flash
