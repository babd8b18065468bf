import SpiProgrammer.Proofs.Flash.Containment
import SpiProgrammer.Proofs.Flash.Pace

/-! # Programming that nothing disturbs

Main statement, for every master that drives a chip and never fails a command, on a chip that is
ready before the status has been read too often: programming a range that is accepted succeeds and
changes the range as it should, and nothing else. -/
set_option autoImplicit false

namespace SpiProgrammer.Flash

open Spi

/-- The chip shows itself ready before the status has been read `limit` times, whatever it is
doing. -/
structure Chip.ReadyWithin (chip : Chip) (limit : Nat) : Prop where
  free : chip.statusBits &&& Opcode.busyBit = 0
  polls : chip.busyPolls < limit

theorem Chip.Alike.readyWithin {chip other : Chip} {limit : Nat} (alike : chip.Alike other)
    (ready : chip.ReadyWithin limit) : other.ReadyWithin limit :=
  ⟨by rw [alike.statusBits]; exact ready.free, by rw [alike.busyPolls]; exact ready.polls⟩

section Success

variable {σ : Type} {machine : Machine σ Master} {chip : σ → Chip} {Sound : σ → Prop}
  {state : σ} {width : AddressWidth}

theorem programPage_succeeds (drives : Drives machine chip Sound)
    (unfailing : Unfailing machine Sound) (sound : Sound state)
    (ready : (chip state).ReadyWithin 1000) (present : width ≠ .absent) {address : UInt32}
    (reached : address.toNat < width.size) (data : Bytes) :
    Dialogue.Succeeds machine (programPage address width data) state := by
  have cycle := @Chip.transfer_program address width data { chip state with writeEnabled := true }
    present reached rfl 0
  rw [← Command.sent_write] at cycle
  have change : (pollsAfter? (Opcode.programPage width)).isSome := by
    rw [pollsAfter?_programPage]
    rfl
  have steady : Steady chip Sound (chip state).busyPolls 0 state := ⟨sound, rfl⟩
  obtain ⟨shown, -⟩ := change_paced (drives.paces unfailing _) steady cycle rfl change 10 10000
  rw [if_pos ⟨ready.free, ready.polls⟩] at shown
  exact Dialogue.succeeds_of_value shown

theorem Drives.operation_keeps {α : Type} (drives : Drives machine chip Sound)
    (sound : Sound state) (operation : Operation α) :
    Dialogue.Ensures machine operation state
      (fun _ next => Sound next ∧ (chip state).Alike (chip next))
      (fun _ next => Sound next ∧ (chip state).Alike (chip next)) := by
  have step (r : MasterRequest) (next : σ) (kept : Sound next ∧ (chip state).Alike (chip next)) :
      Sound (machine r next).2 ∧ (chip state).Alike (chip (machine r next).2) := by
    obtain ⟨stays, alike⟩ := drives.keeps r next kept.1
    exact ⟨stays, kept.2.trans alike⟩
  have same : (chip state).Alike (chip state) := ⟨rfl, rfl, rfl, rfl⟩
  have kept : ∀ start, Sound start ∧ (chip state).Alike (chip start) →
      Sound (operation.run.answer machine start).2 ∧
        (chip state).Alike (chip (operation.run.answer machine start).2) :=
    Dialogue.answer_keeps step operation.run
  unfold Dialogue.Ensures
  have last := kept state ⟨sound, same⟩
  rcases went : operation.run.answer machine state with ⟨outcome, next⟩
  rw [went] at last
  cases outcome <;> exact last

theorem programPieces_succeeds (drives : Drives machine chip Sound)
    (unfailing : Unfailing machine Sound) (present : width ≠ .absent) {pieces : List Piece}
    (reached : ∀ piece ∈ pieces, piece.address < width.size) :
    ∀ (data : Bytes) (state : σ), Sound state → (chip state).ReadyWithin 1000 →
      Dialogue.Succeeds machine (programPieces width pieces data) state := by
  induction pieces with
  | nil => exact fun _ _ _ _ => trivial
  | cons piece rest ih =>
    intro data state sound ready
    have below := reached piece (List.mem_cons_self ..)
    have place := toNat_place below
    have page := (drives.operation_keeps sound
      (programPage (.ofNat piece.address) width (data.take piece.length))).succeeding
        (programPage_succeeds drives unfailing sound ready present (by rwa [place]) _)
    refine page.bind ?_
    rintro _ next ⟨stays, alike⟩
    have rest := ih (fun other later => reached other (List.mem_cons_of_mem _ later))
      (data.drop piece.length) next stays (alike.readyWithin ready)
    exact Dialogue.ensures_lift rest

variable {capabilities : Capabilities}

theorem program_changes (drives : Drives machine chip Sound) (unfailing : Unfailing machine Sound)
    (sound : Sound state) (ready : (chip state).ReadyWithin 1000) {address : UInt32} {data : Bytes}
    {pieces : List Piece}
    (accepted : programPlan capabilities address.toNat data.length = .ok (width, pieces)) :
    Dialogue.Ensures machine (program capabilities address data) state
      (fun _ next => Sound next ∧ (chip state).Alike (chip next) ∧
        Burned address.toNat data (chip state).memory (chip next).memory)
      (fun _ _ => False) := by
  have plan := programmable_of_plan accepted
  have keeps := (drives.operation_keeps sound (programPieces width pieces data)).succeeding
    (programPieces_succeeds drives unfailing plan.present (fun _ => plan.below) data state sound
      ready)
  obtain ⟨stays, count, reach, upTo⟩ :=
    programPieces_driven drives plan.present sound plan.tiles plan.reached plan.inPage
  rw [program_of_plan accepted]
  unfold Dialogue.Ensures at keeps ⊢
  rcases went : (programPieces width pieces data).run.answer machine state with ⟨outcome, next⟩
  rw [went] at keeps upTo
  cases outcome with
  | error error => exact keeps
  | ok _ =>
    have all := plan.tiles.covered_all
    have most := plan.tiles.covered_le (count + 1)
    have atLeast := upTo.atLeast
    have atMost := upTo.atMost
    rw [upTo.finished rfl] at atLeast
    have burned := upTo.burned
    rw [List.take_of_length_le (by omega)] at burned
    exact ⟨keeps.1, keeps.2, burned⟩

end Success

end SpiProgrammer.Flash
