import SpiProgrammer.Proofs.Flash.Pace
import SpiProgrammer.Proofs.Flash.Ranges
import SpiProgrammer.Proofs.Flash.Success

/-! # Erasing sector by sector

Main statement: whole sectors are erased one after the other by one command each, up to and
including the first that keeps the chip busy for too long; nothing else is changed. -/
set_option autoImplicit false

namespace SpiProgrammer.Flash

open Spi

def erasing (width : AddressWidth) (sector : Nat) : Command :=
  .erase (Opcode.eraseSector width) (.ofNat sector) width

section Erasing

variable {σ : Type} {machine : Machine σ Master} {chip : σ → Chip} {busy : Nat → Nat}
  {Sound : Nat → σ → Prop} {made : Nat} {state : σ} {width : AddressWidth}

theorem eraseSector_paced (paces : Paces machine chip busy Sound) (sound : Sound made state)
    (present : width ≠ .absent) {sector : Nat} (below : sector < width.size) :
    let ran := (eraseSector (.ofNat sector) width).run.course machine state
    ran.value = (if (chip state).ReadyAfter (busy made) 100 then .ok () else .error .stillBusy) ∧
      Sound (made + 1) ran.state ∧
      (chip ran.state).memory = (chip state).memory.eraseSector sector ∧
      (chip ran.state).statusBits = (chip state).statusBits ∧
      changes ran.events = [erasing width sector] := by
  have place := toNat_place below
  have cycle : (({ chip state with writeEnabled := true }).transfer (erasing width sector).sent
      0).2 = { chip state with
        memory := (chip state).memory.eraseSector sector
        writeEnabled := false
        busyLeft := busy made } := by
    rw [erasing, Command.sent_erase, Chip.transfer_erase _ present (by rwa [place]) rfl, place,
      ← paces.pace made state sound]
  have change : (pollsAfter? (Opcode.eraseSector width)).isSome := by
    rw [pollsAfter?_eraseSector]
    rfl
  obtain ⟨shown, stays, ⟨left, reached⟩, changed⟩ :=
    change_paced paces sound cycle rfl change 10000 1000000
  have erased := congrArg Chip.memory reached
  have alike := congrArg Chip.statusBits reached
  exact ⟨shown, stays, erased, alike, changed⟩

/-- Of `total` things in a row the first `count` are quick; then all are, or the next is not. -/
structure QuickUpTo (quick : Nat → Prop) (total count : Nat) : Prop where
  before : ∀ index < count, quick index
  within : count ≤ total
  next : count < total → ¬ quick count

theorem QuickUpTo.tail {quick : Nat → Prop} {total count : Nat}
    (upTo : QuickUpTo quick (total + 1) (count + 1)) :
    QuickUpTo (fun index => quick (index + 1)) total count where
  before index earlier := upTo.before (index + 1) (Nat.succ_lt_succ earlier)
  within := Nat.le_of_succ_le_succ upTo.within
  next short := upTo.next (Nat.succ_lt_succ short)

/-- What erasing sectors comes to if the first `count` of them are ready in time and the next, if
there is one, is not: that one is erased too, and it is the last. -/
structure ErasedInTime (width : AddressWidth) (found : List Nat) (start : Nat)
    (before after : Memory) (ran : Course Master σ (Except Error Unit)) (reports : List Nat)
    (count : Nat) : Prop where
  finished : count = found.length → ran.value = .ok ()
  slow : count < found.length → ran.value = .error .stillBusy
  wiped : Wiped start (start + (found.take (count + 1)).length * Opcode.sectorSize) before after
  changed : changes ran.events = (found.take (count + 1)).map (erasing width)
  reported : reports = List.replicate count Opcode.sectorSize

section Sectors

variable {sector : Nat} {rest : List Nat} {before between after : Memory} {next : σ}
  {events : List Master.Event}

theorem ErasedInTime.stops (aligned : sector % Opcode.sectorSize = 0)
    (erased : after = before.eraseSector sector)
    (changed : changes events = [erasing width sector]) :
    ErasedInTime width (sector :: rest) sector before after ⟨.error .stillBusy, next, events⟩ []
      0 := by
  refine ⟨fun all => absurd all.symm (Nat.succ_ne_zero _), fun _ => rfl, ?_, changed, rfl⟩
  have one : ((sector :: rest).take (0 + 1)).length * Opcode.sectorSize = Opcode.sectorSize :=
    Nat.one_mul _
  rw [erased, one]
  exact wiped_eraseSector aligned before

theorem ErasedInTime.cons {later : Course Master σ (Except Error Unit)} {reports : List Nat}
    {count : Nat} (aligned : sector % Opcode.sectorSize = 0)
    (erased : between = before.eraseSector sector)
    (changed : changes events = [erasing width sector])
    (inTime : ErasedInTime width rest (sector + Opcode.sectorSize) between after later reports
      count) :
    ErasedInTime width (sector :: rest) sector before after
      ⟨later.value, later.state, events ++ later.events⟩ (Opcode.sectorSize :: reports)
      (count + 1) := by
  have wiped := inTime.wiped
  rw [erased] at wiped
  refine ⟨fun all => ?_, fun short => ?_, ?_, ?_, ?_⟩
  · exact inTime.finished (Nat.succ_inj.mp all)
  · exact inTime.slow (Nat.lt_of_succ_lt_succ short)
  · rw [List.take_succ_cons, List.length_cons]
    exact wiped.cons aligned
  · rw [changes_append, changed, inTime.changed, List.take_succ_cons, List.map_cons]
    rfl
  · rw [inTime.reported, List.replicate_succ]

end Sectors

theorem eraseSectors_paced (paces : Paces machine chip busy Sound) (present : width ≠ .absent)
    {found : List Nat} :
    ∀ {start made count : Nat} {state : σ}, Sound made state → Rows start found →
      start % Opcode.sectorSize = 0 → start + found.length * Opcode.sectorSize ≤ width.size →
      QuickUpTo (fun index => (chip state).ReadyAfter (busy (made + index)) 100) found.length
        count →
      let operation := (eraseSectors width found).run
      let ran := operation.course machine state
      ErasedInTime width found start (chip state).memory (chip ran.state).memory ran
        (operation.progressed machine state) count := by
  induction found with
  | nil =>
    intro start made count state sound rows aligned reached upTo
    obtain rfl : count = 0 := Nat.le_zero.mp upTo.within
    refine ⟨fun _ => rfl, fun short => absurd short (Nat.lt_irrefl _), ?_, rfl, rfl⟩
    rw [List.take_nil, List.length_nil, Nat.zero_mul]
    exact wiped_nothing _ _
  | cons sector rest ih =>
    intro start made count state sound rows aligned reached upTo
    obtain ⟨rfl, follows⟩ := rows
    rw [List.length_cons, Nat.succ_mul] at reached
    have below : sector < width.size := by
      simp only [Opcode.sectorSize] at reached
      omega
    have logs : (eraseSector (.ofNat sector) width).run.Utters Notice.IsLog :=
      utters_change _ 10000 1000000
    have erase := eraseSector_paced paces sound present below
    rcases went : (eraseSector (.ofNat sector) width).run.course machine state with
      ⟨value, next, events⟩
    rw [went] at erase
    obtain ⟨shown, stays, erased, alike, changed⟩ := erase
    simp only at shown stays erased alike changed
    have answered := Dialogue.answer_of_course went
    simp only [eraseSectors]
    cases count with
    | zero =>
      have slow : ¬ (chip state).ReadyAfter (busy made) 100 := upTo.next (Nat.succ_pos _)
      rw [if_neg slow] at shown
      subst shown
      obtain ⟨-, reports⟩ := @reporting_error _ _ _ (eraseSectors width rest) _ _
        Opcode.sectorSize _ logs answered
      rw [Dialogue.course_bind_error machine _ _ went, reports]
      exact .stops aligned erased changed
    | succ count =>
      have quick : (chip state).ReadyAfter (busy made) 100 := upTo.before 0 (Nat.succ_pos _)
      rw [if_pos quick] at shown
      subst shown
      obtain ⟨-, reports⟩ := @reporting_ok _ _ _ (eraseSectors width rest) _ _
        Opcode.sectorSize logs answered
      have nextAligned : (sector + Opcode.sectorSize) % Opcode.sectorSize = 0 := by
        rw [Nat.add_mod_right]
        exact aligned
      -- the next sector is erased by the next change
      have shifted : (fun index => (chip state).ReadyAfter (busy (made + (index + 1))) 100) =
          fun index => (chip next).ReadyAfter (busy (made + 1 + index)) 100 := by
        funext index
        rw [Chip.ReadyAfter, Chip.ReadyAfter, alike, Nat.add_comm index 1, Nat.add_assoc]
      have later := ih stays follows nextAligned (by omega) (shifted ▸ upTo.tail)
      rw [reporting_course Opcode.sectorSize went, reports]
      exact later.cons aligned erased changed

/-! ## Ranges -/

section Ranges

variable {capabilities : Capabilities} {address length : UInt32} {found : List Nat} {count : Nat}

theorem erase_paced (paces : Paces machine chip busy Sound) (sound : Sound made state)
    (accepted : erasePlan capabilities address.toNat length.toNat = .ok (width, found))
    (upTo : QuickUpTo (fun index => (chip state).ReadyAfter (busy (made + index)) 100)
      found.length count) :
    let operation := (erase capabilities address length).run
    let ran := operation.course machine state
    ErasedInTime width found address.toNat (chip state).memory (chip ran.state).memory ran
      (operation.progressed machine state) count := by
  have plan := erasable_of_plan accepted
  have rows : Rows address.toNat found := plan.sectors ▸ rows_sectors _ _
  rw [erase_of_plan accepted]
  exact eraseSectors_paced paces plan.present sound rows plan.aligned
    (plan.length_found.symm ▸ plan.reached) upTo

theorem erase_changes {Sound : σ → Prop} (drives : Drives machine chip Sound)
    (unfailing : Unfailing machine Sound) (sound : Sound state)
    (ready : (chip state).ReadyWithin 100)
    (accepted : erasePlan capabilities address.toNat length.toNat = .ok (width, found)) :
    Dialogue.Ensures machine (erase capabilities address length) state
      (fun _ next => Sound next ∧ (chip state).Alike (chip next) ∧
        Wiped address.toNat (address.toNat + length.toNat) (chip state).memory (chip next).memory)
      (fun _ _ => False) := by
  have steady : Steady chip Sound (chip state).busyPolls 0 state := ⟨sound, rfl⟩
  have quick : (chip state).ReadyAfter (chip state).busyPolls 100 := ⟨ready.free, ready.polls⟩
  have erased := erase_paced (drives.paces unfailing _) steady accepted
    ⟨fun _ _ => quick, Nat.le_refl _, fun short => absurd short (Nat.lt_irrefl _)⟩
  have wiped := erased.wiped
  rw [List.take_of_length_le (Nat.le_succ _), (erasable_of_plan accepted).length_found] at wiped
  have keeps := (drives.operation_keeps sound (erase capabilities address length)).succeeding
    (Dialogue.succeeds_of_value (erased.finished rfl))
  unfold Dialogue.Ensures at keeps ⊢
  have answered : (erase capabilities address length).run.answer machine state =
    (.ok (), _) := Prod.ext (erased.finished rfl) rfl
  rw [answered] at keeps ⊢
  exact ⟨keeps.1, keeps.2, wiped⟩

/-- A range that is not made of whole sectors is refused, and nothing has been asked of the master.
Any other that is reached, and does not end with the address space, is erased: whole if each erase
is ready in time, and otherwise up to and including the first sector whose erase is not. -/
theorem erase_clears_sectors (paces : Paces machine chip busy Sound) (sound : Sound made state)
    (capabilities : Capabilities) (address length : UInt32) :
    let stop := address.toNat + length.toNat
    let ran := (erase capabilities address length).run.run machine state
    let before := (chip state).memory
    let after := (chip ran.state).memory
    let reports := ran.notices.filterMap Notice.progress?
    let found := sectors address.toNat length.toNat
    let quick := fun index => (chip state).ReadyAfter (busy (made + index)) 100
    (address.toNat % Opcode.sectorSize ≠ 0 ∨ length.toNat % Opcode.sectorSize ≠ 0 →
      ran = ⟨.error .invalidAlignment, state, [], []⟩) ∧
    (address.toNat % Opcode.sectorSize = 0 → length.toNat % Opcode.sectorSize = 0 →
      stop < 0x100000000 → ∀ width, Reached capabilities.features stop width →
        (length = 0 → ran = ⟨.ok (), state, [], []⟩) ∧
        (∀ sector ∈ found, Bytes.toNatBE (width.encode (.ofNat sector)) = sector) ∧
        ((∀ index < found.length, quick index) →
          ran.value = .ok () ∧ Wiped address.toNat stop before after ∧
          changes ran.events = found.map (erasing width) ∧
          reports = List.replicate found.length Opcode.sectorSize) ∧
        ∀ slow < found.length, (∀ index < slow, quick index) → ¬ quick slow →
          ran.value = .error .stillBusy ∧
          Wiped address.toNat (address.toNat + (slow + 1) * Opcode.sectorSize) before after ∧
          changes ran.events = (found.take (slow + 1)).map (erasing width) ∧
          reports = List.replicate slow Opcode.sectorSize) := by
  intro stop ran before after reports found quick
  refine ⟨fun misaligned => ?_, fun aligned whole below width reached => ?_⟩
  · exact erase_refused (erasePlan_of_misaligned misaligned)
  have inside : stop ≠ 0x100000000 := Nat.ne_of_lt below
  have accepted : erasePlan capabilities address.toNat length.toNat = .ok (width, found) := by
    rw [erasePlan_of_sectors aligned whole inside, addressWidthFor_of_reached reached]
    rfl
  have plan := erasable_of_plan accepted
  refine ⟨fun nothing => ?_, fun sector member => ?_, fun all => ?_,
    fun slow short first late => ?_⟩
  · have none : found = [] := by
      subst nothing
      rfl
    rw [none] at accepted
    show (erase capabilities address length).run.run machine state = _
    rw [erase_of_plan accepted]
    rfl
  · have place := plan.below member
    rw [width.toNatBE_encode _ (by rwa [toNat_place place]), toNat_place place]
  · obtain ⟨finished, -, wiped, changed, reported⟩ := erase_paced paces sound accepted
      ⟨all, Nat.le_refl _, fun short => absurd short (Nat.lt_irrefl _)⟩
    rw [List.take_of_length_le (Nat.le_succ _)] at wiped changed
    rw [plan.length_found] at wiped
    exact ⟨finished rfl, wiped, changed, reported⟩
  · obtain ⟨-, stopped, wiped, changed, reported⟩ := erase_paced paces sound accepted
      ⟨first, Nat.le_of_lt short, fun _ => late⟩
    rw [List.length_take_of_le short] at wiped
    exact ⟨stopped short, wiped, changed, reported⟩

end Ranges

end Erasing

/-- Three sectors over the end of the first sixteen mebibytes, on a chip that is slower after each
change: the second is erased, but it is no longer waited for, and the third is never reached. -/
theorem erase_stops_behind_slow_sector :
    let busy := fun change => 99 + change
    let start : Chip × Nat := ({ busyPolls := 99, memory := Memory.erased.set 0x1001000 0x5A }, 0)
    let ran := (erase ⟨.fourByteAddress, 64, 64⟩ 0xFFF000 0x3000).run.run (scheduled busy) start
    (start.2 = 0 ∧ start.1.busyPolls = busy 0 ∧
      Reached .fourByteAddress (0xFFF000 + 0x3000) .four) ∧
      ran.value = .error .stillBusy ∧
      Wiped 0xFFF000 0x1001000 start.1.memory ran.state.1.memory ∧
      changes ran.events = [erasing .four 0xFFF000, erasing .four 0x1000000] ∧
      ran.notices.filterMap Notice.progress? = [4096] := by
  intro busy start
  have sound : start.2 = 0 ∧ start.1.busyPolls = busy 0 := ⟨rfl, rfl⟩
  have reached : Reached .fourByteAddress (0xFFF000 + 0x3000) .four :=
    .four (by decide) (by decide) rfl
  have quick : start.1.ReadyAfter (busy 0) 100 := ⟨by decide, by decide⟩
  have slow : ¬ start.1.ReadyAfter (busy 1) 100 := fun ready => absurd ready.2 (by decide)
  obtain ⟨-, accepted⟩ := erase_clears_sectors (scheduled_paces busy) sound
    ⟨.fourByteAddress, 64, 64⟩ 0xFFF000 0x3000
  obtain ⟨-, -, -, late⟩ := accepted rfl rfl (by decide) .four reached
  have first (index : Nat) (earlier : index < 1) : start.1.ReadyAfter (busy (0 + index)) 100 := by
    obtain rfl := Nat.lt_one_iff.mp earlier
    exact quick
  obtain ⟨value, wiped, changed, reported⟩ := late 1 (by decide) first slow
  exact ⟨⟨sound.1, sound.2, reached⟩, value, wiped, changed, reported⟩

end SpiProgrammer.Flash
