import SpiProgrammer.Proofs.Flash.Ranges
import SpiProgrammer.Proofs.Flash.Success

/-! # Programming is a conjunction

Main statement: a range that the master reaches and can send is programmed whole.  Each of its
bytes becomes the conjunction of what it was with its datum, no other byte changes, and the counts
reported add up to the length.  A range that it cannot reach, or can send only headers for, is
refused before anything is asked of it. -/
set_option autoImplicit false

namespace SpiProgrammer.Flash

open Spi

section Programming

variable {σ : Type} {machine : Machine σ Master} {chip : σ → Chip} {Sound : σ → Prop} {state : σ}
  {capabilities : Capabilities} {width : AddressWidth} {address : UInt32} {data : Bytes}

theorem program_succeeds (drives : Drives machine chip Sound) (unfailing : Unfailing machine Sound)
    (sound : Sound state) (ready : data ≠ [] → (chip state).ReadyWithin 1000) {pieces : List Piece}
    (accepted : programPlan capabilities address.toNat data.length = .ok (width, pieces)) :
    Dialogue.Succeeds machine (program capabilities address data) state := by
  have plan := programmable_of_plan accepted
  rw [program_of_plan accepted]
  by_cases empty : data = []
  · subst empty
    have nothing : pieces = [] := plan.tiles.eq_nil
    subst nothing
    trivial
  · exact programPieces_succeeds drives unfailing plan.present (fun _ => plan.below) data state
      sound (ready empty)

/-- Whatever is refused, is so by its range before its length is looked at, and nothing has been
asked of the master.  All else is programmed. -/
theorem program_is_pointwise_conjunction (drives : Drives machine chip Sound)
    (unfailing : Unfailing machine Sound) (sound : Sound state) (capabilities : Capabilities)
    (address : UInt32) (data : Bytes) :
    let stop := address.toNat + data.length
    let ran := (program capabilities address data).run.run machine state
    let before := (chip state).memory
    let after := (chip ran.state).memory
    let reports := ran.notices.filterMap Notice.progress?
    (0x100000000 < stop → ran = ⟨.error .addressOutOfBounds, state, [], []⟩) ∧
    (0x1000000 < stop → stop ≤ 0x100000000 →
      capabilities.features.contains .fourByteAddress = false →
        ran = ⟨.error .fourByteAddressUnsupported, state, [], []⟩) ∧
    ∀ width, Reached capabilities.features stop width →
      (capabilities.maxWrite ≤ 1 + width.bytes →
        ran = ⟨.error .bufferTooLarge, state, [], []⟩) ∧
      (1 + width.bytes < capabilities.maxWrite →
        (data ≠ [] → (chip state).ReadyWithin 1000) →
        ran.value = .ok () ∧
        (∀ index (within : index < data.length), after.get (address.toNat + index) =
          before.get (address.toNat + index) &&& data[index]) ∧
        (∀ place, place < address.toNat ∨ stop ≤ place → after.get place = before.get place) ∧
        (∀ count ∈ reports, 0 < count) ∧ reports.sum = data.length) := by
  intro stop ran before after reports
  refine ⟨fun beyond => ?_, fun above below missing => ?_, fun width reached => ⟨fun narrow => ?_,
    fun wide ready => ?_⟩⟩
  · exact program_refused (programPlan_of_unreached (addressWidthFor_of_beyond beyond))
  · exact program_refused
      (programPlan_of_unreached (addressWidthFor_of_unsupported above below missing))
  · exact program_refused (programPlan_of_narrow reached narrow)
  obtain ⟨pieces, accepted⟩ := programPlan_of_wide reached wide
  have plan := programmable_of_plan accepted
  have well : ran.value = .ok () :=
    (program_succeeds drives unfailing sound ready accepted).value_eq
  obtain ⟨-, count, contained⟩ := program_contained drives sound accepted
  have complete : reports.sum = data.length := contained.complete well
  refine ⟨well, fun index within => ?_, contained.outside, fun report member => ?_, complete⟩
  · exact contained.done index within (complete.symm ▸ within)
  · have reported : reports = (pieces.take count).map Piece.length := contained.reported
    rw [reported] at member
    obtain ⟨piece, taken, rfl⟩ := List.mem_map.mp member
    exact (plan.tiles.inside (List.mem_of_mem_take taken)).1

end Programming

/-- Three bytes over the end of a page, two of which fit a transaction, on a chip as slow as is
waited for. -/
theorem program_conjunction_over_page_end :
    let wired : Wired := { chip := { busyPolls := 999, memory := Memory.erased.set 0x100 0x0F } }
    let ran := (program ⟨{}, 1, 6⟩ 0xFE [0x0F, 0xF0, 0x33]).run.run Wired.machine wired
    let before := wired.chip.memory
    let after := ran.state.chip.memory
    (wired.failures = [] ∧ Reached {} (0xFE + 3) .three ∧ wired.chip.ReadyWithin 1000) ∧
      ran.value = .ok () ∧ after.get 0x100 = before.get 0x100 &&& 0x33 ∧
      after.get 0x101 = before.get 0x101 ∧
      (ran.notices.filterMap Notice.progress?).sum = 3 := by
  -- the run is not introduced: checking a name for it against it would evaluate it
  intro wired
  have unfailing : wired.failures = [] := rfl
  have reached : Reached {} (0xFE + 3) .three := .three (by decide)
  have ready : wired.chip.ReadyWithin 1000 := ⟨by decide, by decide⟩
  obtain ⟨-, -, accepted⟩ := program_is_pointwise_conjunction Wired.drives Wired.unfailing unfailing
    ⟨{}, 1, 6⟩ 0xFE [0x0F, 0xF0, 0x33]
  obtain ⟨well, inside, outside, -, complete⟩ := (accepted .three reached).2 (by decide)
    fun _ => ready
  exact ⟨⟨unfailing, reached, ready⟩, well, inside 2 (by decide), outside 0x101 (.inr (by decide)),
    complete⟩

end SpiProgrammer.Flash
