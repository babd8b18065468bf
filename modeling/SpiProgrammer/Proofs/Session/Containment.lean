import SpiProgrammer.Proofs.Flash.Containment
import SpiProgrammer.Proofs.Session.Execution

/-! # Faults between the session and the chip

Main statement: whatever faults strike the transfers of an open session, programming and erasing
change nothing outside their range, and nothing behind the piece that is in flight when they
fail; what they have reported is done. -/
set_option autoImplicit false

namespace SpiProgrammer

namespace Session

open Bridge (Emulator Peer)

theorem progress_blind (notice : Notice) (log : notice.IsLog) : notice.progress? = none := by
  obtain ⟨record, rfl⟩ := log
  rfl

/-- Over an emulated bridge in step, in which `start` leaves it, whatever its faults and statuses, a
programming or erasing that is accepted is contained, however it ends, and the bridge stays in
step. -/
theorem faults_contained {emulator : Emulator} (inStep : emulator.InStep) :
    (∀ (address : UInt32) (data : Bytes) (width : Spi.AddressWidth) (pieces : List Flash.Piece),
      Flash.programPlan capabilities address.toNat data.length = .ok (width, pieces) →
      let ran := (onLink (Flash.program capabilities address data).run).run Peer.machine
        (.emulated emulator)
      ∃ after count, ran.state = .emulated after ∧ after.InStep ∧
        Flash.WriteContained address.toNat data pieces emulator.chip.memory after.chip.memory
          (ran.notices.filterMap Notice.progress?) ran.value count) ∧
    (∀ (address length : UInt32) (width : Spi.AddressWidth) (found : List Nat),
      Flash.erasePlan capabilities address.toNat length.toNat = .ok (width, found) →
      let ran := (onLink (Flash.erase capabilities address length).run).run Peer.machine
        (.emulated emulator)
      ∃ after count, ran.state = .emulated after ∧ after.InStep ∧
        Flash.EraseContained address.toNat length.toNat found emulator.chip.memory
          after.chip.memory (ran.notices.filterMap Notice.progress?) ran.value count) := by
  constructor
  · intro address data width pieces accepted ran
    obtain ⟨value, state, reports⟩ := onLink_run Notice.progress? progress_blind
      (Flash.program capabilities address data).run emulator
    obtain ⟨stays, count, contained⟩ := Flash.program_contained served_drives inStep accepted
    simp only [ran, value, reports]
    exact ⟨_, count, state, stays, contained⟩
  · intro address length width found accepted ran
    obtain ⟨value, state, reports⟩ := onLink_run Notice.progress? progress_blind
      (Flash.erase capabilities address length).run emulator
    obtain ⟨stays, count, contained⟩ := Flash.erase_contained served_drives inStep accepted
    simp only [ran, value, reports]
    exact ⟨_, count, state, stays, contained⟩

/-- Three bytes are written while the second announcement of data fails. -/
theorem failed_announcement_contained :
    let emulator : Emulator := { faults := [⟨0x21, 2, .sendFails⟩] }
    let ran := (onLink (Flash.program capabilities 0 [1, 2, 3]).run).run Peer.machine
      (.emulated emulator)
    emulator.InStep ∧ ∃ after count, ran.state = .emulated after ∧ after.InStep ∧
      Flash.WriteContained 0 [1, 2, 3] [⟨0, 3⟩] emulator.chip.memory after.chip.memory
        (ran.notices.filterMap Notice.progress?) ran.value count := by
  intro emulator ran
  have inStep : emulator.InStep := ⟨rfl, rfl⟩
  have pieces : Flash.cut (fun address => min (Flash.pageRest address) 65531) 0 3 = [⟨0, 3⟩] := by
    rw [Flash.cut, Flash.cut]
    rfl
  have accepted : Flash.programPlan capabilities (UInt32.toNat 0) [1, 2, 3].length =
      .ok (.three, [⟨0, 3⟩]) := by
    unfold Flash.programPlan
    exact congrArg (fun pieces => Except.ok (Spi.AddressWidth.three, pieces)) pieces
  exact ⟨inStep, (faults_contained inStep).1 0 [1, 2, 3] .three [⟨0, 3⟩] accepted⟩

end Session

end SpiProgrammer
