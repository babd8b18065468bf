import SpiProgrammer.Proofs.Flash.Ranges
import SpiProgrammer.Proofs.Job.Discipline
import SpiProgrammer.Proofs.Job.Write

/-! # Erasing and writing look at the same ranges

An image is erased for in whole sectors, and neither of the two address spaces ends inside a sector:
rounding up an image that begins a sector does not change which width reaches its end.

Main statement: below the end of the address space, whole sectors can be erased exactly where they
can be read and programmed, in the same width, and are refused with the same error before any
command; an image that begins a sector can be written with an erase before it exactly if it can
without.  The last sector can be read and programmed, but not erased. -/
set_option autoImplicit false

namespace SpiProgrammer.Job

open Flash (addressWidthFor erasePlan programPlan readPlan)

/-! ## Whole sectors -/

theorem addressWidthFor_wholeSectors (features : Spi.Features) {address : Nat}
    (aligned : address % Spi.Opcode.sectorSize = 0) (length : Nat) :
    addressWidthFor features (address + wholeSectors length) =
      addressWidthFor features (address + length) := by
  have ends (limit : Nat) (sectors : limit % Spi.Opcode.sectorSize = 0) :
      address + wholeSectors length ≤ limit ↔ address + length ≤ limit := by
    simp only [wholeSectors, Spi.Opcode.sectorSize] at aligned sectors ⊢
    omega
  have three := ends (Spi.AddressWidth.size .three) (by decide)
  have four := ends (Spi.AddressWidth.size .four) (by decide)
  unfold addressWidthFor
  simp only [three, ← Nat.not_le, four]

theorem wholeSectors_whole (length : Nat) : wholeSectors length % Spi.Opcode.sectorSize = 0 :=
  Nat.mul_mod_left ..

theorem eraseSpan_of_small {address : UInt32} {length : Nat}
    (aligned : address.toNat % Spi.Opcode.sectorSize = 0)
    (small : wholeSectors length < 0x100000000) :
    eraseSpan address length = .ok (wholeSectors length) := by
  have begins : ¬ address.toNat % Spi.Opcode.sectorSize ≠ 0 := not_not.mpr aligned
  have fits : ¬ 0x100000000 ≤ wholeSectors length := Nat.not_le_of_lt small
  unfold wholeSectors at fits
  unfold eraseSpan
  rw [if_neg begins, if_neg fits]
  rfl

/-! ## What a write looks at first -/

/-- The image has a place, and so have the sectors that are to be erased for it. -/
structure RangesPass (capabilities : Spi.Capabilities) (address : UInt32) (length : Nat)
    (eraseFirst : Bool) : Prop where
  erases : eraseFirst = true → ∃ span, eraseSpan address length = .ok span ∧
    ∃ plan, erasePlan capabilities address.toNat span = .ok plan
  programs : ∃ width, addressWidthFor capabilities.features (address.toNat + length) = .ok width

section Ranges

variable {capabilities : Spi.Capabilities} {address : UInt32} {length : Nat}

theorem rangesPass_erasing (aligned : address.toNat % Spi.Opcode.sectorSize = 0)
    (inside : address.toNat + wholeSectors length ≠ 0x100000000)
    (passes : RangesPass capabilities address length false) :
    RangesPass capabilities address length true := by
  obtain ⟨width, reached⟩ := passes.programs
  have widths := addressWidthFor_wholeSectors capabilities.features aligned length
  have stop := (Flash.addressWidthFor_ok (widths.trans reached)).1
  have below := Flash.size_le width
  refine ⟨fun _ => ⟨_, eraseSpan_of_small aligned (by omega), ?_⟩, passes.programs⟩
  obtain ⟨found, accepted⟩ := (Flash.erasePlan_ok_iff aligned (wholeSectors_whole length)
    inside).mpr (widths.trans reached)
  exact ⟨_, accepted⟩

/-- But for the end of the address space, an erase asks for no more than the image does. -/
theorem rangesPass_iff (aligned : address.toNat % Spi.Opcode.sectorSize = 0)
    (inside : address.toNat + wholeSectors length ≠ 0x100000000) :
    RangesPass capabilities address length true ↔ RangesPass capabilities address length false :=
  ⟨fun passes => ⟨nofun, passes.programs⟩, rangesPass_erasing aligned inside⟩

end Ranges

/-! ## Once the image is known -/

/-- What a write does with an image that is not empty. -/
def proceed (capabilities : Spi.Capabilities) (address : UInt32) (image : Bytes)
    (eraseFirst verifyAfter : Bool) : Job Unit := do
  if eraseFirst then eraseFor capabilities address image
  finish capabilities address image verifyAfter

theorem write_course {σ τ : Type} {machine : Machine σ Spi.Master} {files : Machine τ Files}
    {capabilities : Spi.Capabilities} {state : σ} {store : τ} {address : UInt32} {image : Bytes}
    {path : String} (held : (files (.read path) store).1 = .ok image) (nonempty : image ≠ [])
    (eraseFirst verifyAfter : Bool) :
    (write capabilities path address eraseFirst verifyAfter).run.course (machine.both files)
        (state, store) =
      let rest := (proceed capabilities address image eraseFirst verifyAfter).run.course
        (machine.both files) (state, (files (.read path) store).2)
      ⟨rest.value, rest.state, ⟨.inr (.read path), .ok image⟩ :: rest.events⟩ := by
  have some : ¬ image.isEmpty = true := by
    rwa [List.isEmpty_iff]
  have reads := @readFile_course _ _ machine files state store path
  simp only [held] at reads
  rw [write_eq_finish, Dialogue.course_bind_ok _ _ _ reads, if_neg some]
  rfl

/-! ## A write that is refused for its range -/

section Refused

variable {σ τ : Type} {machine : Machine σ Spi.Master} {files : Machine τ Files}
  {capabilities : Spi.Capabilities} {state : σ} {store : τ} {address : UInt32} {image : Bytes}

/-- The job fails, and has asked nothing of the master. -/
def Declines (machine : Machine σ Spi.Master) (files : Machine τ Files) (job : Job Unit) (state : σ)
    (store : τ) : Prop :=
  ∃ failure, job.run.course (machine.both files) (state, store) =
    ⟨.error failure, (state, store), []⟩

theorem Declines.bind {job : Job Unit} (declines : Declines machine files job state store)
    (f : Unit → Job Unit) : Declines machine files (job >>= f) state store := by
  obtain ⟨failure, failed⟩ := declines
  exact ⟨failure, Dialogue.course_bind_error _ _ _ failed⟩

theorem onChip_declines {operation : Spi.Operation Unit} {error : Spi.Error}
    (refused : operation.run.run machine state = ⟨.error error, state, [], []⟩) :
    Declines machine files (onChip operation) state store := by
  refine ⟨.chip error, ?_⟩
  rw [onChip_course, Dialogue.course, refused]
  rfl

theorem eraseFor_declines (unranged : ¬ ∃ span, eraseSpan address image.length = .ok span ∧
      ∃ plan, erasePlan capabilities address.toNat span = .ok plan) :
    Declines machine files (eraseFor capabilities address image) state store := by
  cases spans : eraseSpan address image.length with
  | error failure =>
    refine ⟨failure, ?_⟩
    unfold eraseFor
    rw [spans]
    rfl
  | ok span =>
    cases plans : erasePlan capabilities address.toNat span with
    | ok plan => exact absurd ⟨span, spans, plan, plans⟩ unranged
    | error error =>
      obtain ⟨failure, erases⟩ : Declines machine files
          (onChip (Flash.erase capabilities address (.ofNat span))) state store :=
        onChip_declines (Flash.erase_refused ((toNat_span spans).symm ▸ plans))
      exact ⟨failure, (eraseFor_course spans).trans erases⟩

theorem finish_declines {error : Spi.Error} (verifyAfter : Bool)
    (unreached : addressWidthFor capabilities.features (address.toNat + image.length) =
      .error error) :
    Declines machine files (finish capabilities address image verifyAfter) state store :=
  (onChip_declines (Flash.program_refused (Flash.programPlan_of_unreached unreached))).bind _

theorem width_of_erases {span : Nat} (spans : eraseSpan address image.length = .ok span)
    (erases : ∃ plan, erasePlan capabilities address.toNat span = .ok plan) :
    ∃ width, addressWidthFor capabilities.features (address.toNat + image.length) = .ok width := by
  obtain ⟨plan, accepted⟩ := erases
  rcases Flash.erasePlan_cases capabilities address.toNat span with
    ⟨error, -, refused⟩ | ⟨width, reached, -⟩
  · cases refused.symm.trans accepted
  · obtain ⟨width, reached⟩ := reached_of_span spans reached
    exact ⟨width, Flash.addressWidthFor_of_reached reached⟩

theorem proceed_declines (verifyAfter : Bool) {eraseFirst : Bool}
    (unranged : ¬ RangesPass capabilities address image.length eraseFirst) :
    Declines machine files (proceed capabilities address image eraseFirst verifyAfter) state
      store := by
  cases eraseFirst with
  | false =>
    cases widths : addressWidthFor capabilities.features (address.toNat + image.length) with
    | ok width => exact absurd ⟨nofun, width, widths⟩ unranged
    | error error => exact finish_declines verifyAfter widths
  | true =>
    refine (eraseFor_declines ?_).bind _
    intro erases
    obtain ⟨span, spans, planned⟩ := erases
    exact unranged ⟨fun _ => ⟨span, spans, planned⟩, width_of_erases spans planned⟩

end Refused

/-! ## A write whose ranges pass -/

section Passed

variable {σ τ : Type} {machine : Machine σ Spi.Master} {files : Machine τ Files}
  {capabilities : Spi.Capabilities} {state : σ} {store : τ} {address : UInt32} {image : Bytes}

/-- The job executes a command at least. -/
def Starts (machine : Machine σ Spi.Master) (files : Machine τ Files) (job : Job Unit) (state : σ)
    (store : τ) : Prop :=
  executed (job.run.course (machine.both files) (state, store)).events ≠ []

theorem Starts.bind {job : Job Unit} (starts : Starts machine files job state store)
    (f : Unit → Job Unit) : Starts machine files (job >>= f) state store := by
  unfold Starts
  rw [ExceptT.run_bind, Dialogue.course_bind]
  intro none
  simp only [executed, Flash.executed, List.filterMap_append, List.append_eq_nil_iff] at none
  exact starts none.1

theorem onChip_starts {operation : Spi.Operation Unit} {command : Spi.Command}
    {next : Received Spi.Error → Dialogue Spi.Master (Except Spi.Error Unit)}
    (asks : operation.run = .ask (.execute command) next) :
    Starts machine files (onChip operation) state store := by
  unfold Starts
  rw [onChip_course, Dialogue.course, asks, Dialogue.run_ask]
  exact List.cons_ne_nil _ _

theorem eraseFor_starts (nonempty : image ≠ []) {span : Nat}
    (spans : eraseSpan address image.length = .ok span)
    (erases : ∃ plan, erasePlan capabilities address.toNat span = .ok plan) :
    Starts machine files (eraseFor capabilities address image) state store := by
  obtain ⟨⟨width, found⟩, accepted⟩ := erases
  obtain ⟨rounded, -⟩ := eraseSpan_ok spans
  have whole := toNat_span spans
  have planned : erasePlan capabilities address.toNat (UInt32.ofNat span).toNat =
      .ok (width, found) := whole.symm ▸ accepted
  have some : 0 < image.length := List.length_pos_iff.mpr nonempty
  have covers := length_le_wholeSectors image.length
  have length_found := (Flash.erasable_of_plan accepted).length_found
  unfold Starts
  rw [eraseFor_course spans, Flash.erase_of_plan planned]
  cases found with
  | nil =>
    simp only [List.length_nil] at length_found
    omega
  | cons sector rest => exact onChip_starts rfl

theorem finish_starts (nonempty : image ≠ []) {width : Spi.AddressWidth}
    (reached : Flash.Reached capabilities.features (address.toNat + image.length) width)
    (wide : 1 + width.bytes < capabilities.maxWrite) (verifyAfter : Bool) :
    Starts machine files (finish capabilities address image verifyAfter) state store := by
  obtain ⟨pieces, accepted⟩ := Flash.programPlan_of_wide reached wide
  have tiles := (Flash.programmable_of_plan accepted).tiles
  refine Starts.bind ?_ _
  rw [Flash.program_of_plan accepted]
  cases pieces with
  | nil => exact absurd (List.eq_nil_of_length_eq_zero tiles) nonempty
  | cons piece rest => exact onChip_starts rfl

theorem proceed_starts (nonempty : image ≠ []) {eraseFirst : Bool} (verifyAfter : Bool)
    (wide : eraseFirst = false → ∀ width : Spi.AddressWidth,
      1 + width.bytes < capabilities.maxWrite)
    (passes : RangesPass capabilities address image.length eraseFirst) :
    Starts machine files (proceed capabilities address image eraseFirst verifyAfter) state
      store := by
  cases eraseFirst with
  | false =>
    obtain ⟨width, widths⟩ := passes.programs
    exact finish_starts nonempty (Flash.reached_of_ok widths) (wide rfl width) verifyAfter
  | true =>
    obtain ⟨span, spans, planned⟩ := passes.erases rfl
    exact (eraseFor_starts nonempty spans planned).bind _

end Passed

/-- A range of whole sectors that does not end with the address space is reached in the same width,
or refused with the same error and nothing asked of the master, by all that is done with it.  An
image that begins a sector, and whose last sector is not the last of all, can be written with an
erase exactly if it can without. -/
theorem ranges_agree_below_end (capabilities : Spi.Capabilities) (address : UInt32)
    (aligned : address.toNat % Spi.Opcode.sectorSize = 0) :
    (∀ length : UInt32, length.toNat % Spi.Opcode.sectorSize = 0 →
      address.toNat + length.toNat ≠ 0x100000000 →
      let reached := addressWidthFor capabilities.features (address.toNat + length.toNat)
      (∀ width,
        ((∃ found, erasePlan capabilities address.toNat length.toNat = .ok (width, found)) ↔
          reached = .ok width) ∧
        (0 < capabilities.maxRead →
          ((∃ pieces, readPlan capabilities address.toNat length.toNat = .ok (width, pieces)) ↔
            reached = .ok width)) ∧
        (1 + width.bytes < capabilities.maxWrite →
          ((∃ pieces, programPlan capabilities address.toNat length.toNat = .ok (width, pieces)) ↔
            reached = .ok width))) ∧
      ∀ error, reached = .error error →
        (error = .addressOutOfBounds ∨ error = .fourByteAddressUnsupported) ∧
        ∀ (σ : Type) (machine : Machine σ Spi.Master) (state : σ) (bytes : Bytes),
          bytes.length = length.toNat →
          (Flash.erase capabilities address length).run.run machine state =
            ⟨.error error, state, [], []⟩ ∧
          (Flash.readInto capabilities address bytes).run machine state =
            ⟨⟨bytes, .error error⟩, state, [], []⟩ ∧
          (Flash.program capabilities address bytes).run.run machine state =
            ⟨.error error, state, [], []⟩) ∧
    ∀ image : Bytes, image ≠ [] → address.toNat + wholeSectors image.length ≠ 0x100000000 →
      (RangesPass capabilities address image.length true ↔
        RangesPass capabilities address image.length false) ∧
      ∀ (σ τ : Type) (machine : Machine σ Spi.Master) (files : Machine τ Files) (state : σ)
        (store : τ) (path : String) (eraseFirst verifyAfter : Bool),
        (files (.read path) store).1 = .ok image →
        let ran := (write capabilities path address eraseFirst verifyAfter).run.run
          (machine.both files) (state, store)
        (¬ RangesPass capabilities address image.length eraseFirst →
          (∃ failure, ran.value = .error failure) ∧ ran.state.1 = state ∧
            executed ran.events = []) ∧
        (RangesPass capabilities address image.length eraseFirst →
          (eraseFirst = false → ∀ width : Spi.AddressWidth,
            1 + width.bytes < capabilities.maxWrite) → executed ran.events ≠ []) := by
  refine ⟨fun length whole inside => ⟨fun width => ⟨?_, ?_, ?_⟩, ?_⟩, fun image nonempty inside =>
    ⟨rangesPass_iff aligned inside, ?_⟩⟩
  · exact Flash.erasePlan_ok_iff aligned whole inside
  · exact Flash.readPlan_ok_iff
  · exact Flash.programPlan_ok_iff
  · intro error unreached
    refine ⟨(Flash.addressWidthFor_error unreached).1, ?_⟩
    intro σ machine state bytes lengths
    have same : addressWidthFor capabilities.features (address.toNat + bytes.length) =
        .error error := lengths ▸ unreached
    exact ⟨Flash.erase_refused (Flash.erasePlan_of_unreached aligned whole inside unreached),
      Flash.readInto_refused (Flash.readPlan_of_unreached same),
      Flash.program_refused (Flash.programPlan_of_unreached same)⟩
  · intro σ τ machine files state store path eraseFirst verifyAfter held ran
    have course := @write_course _ _ machine files capabilities state store address image path held
      nonempty eraseFirst verifyAfter
    obtain ⟨value, events, last⟩ := Dialogue.run_of_course course
    constructor
    · intro unranged
      obtain ⟨failure, declines⟩ := @proceed_declines _ _ machine files capabilities state
        (files (.read path) store).2 address image verifyAfter eraseFirst unranged
      simp only [declines] at value last events
      rw [value, last, events]
      exact ⟨⟨failure, rfl⟩, rfl, rfl⟩
    · intro passes wide
      rw [events]
      exact proceed_starts nonempty verifyAfter wide passes

/-- Whole sectors, and an image, that end one sector before the address space does: with four
address bytes they are accepted, and without they are refused. -/
theorem ranges_agree_in_last_but_one_sector :
    let wired : Flash.Wired := { chip := { busyPolls := 3 } }
    let files : Machine Bytes Files := fun r contents =>
      match r with
      | .read _ => (.ok contents, contents)
      | .create _ _ => (.ok (), contents)
    let narrow := (write ⟨{}, 1, 64⟩ "image" 0xFFFFE000 true true).run.run
      (Flash.Wired.machine.both files) (wired, [0x21])
    (∃ found, erasePlan ⟨.fourByteAddress, 1, 64⟩ 0xFFFFE000 0x1000 = .ok (.four, found)) ∧
      RangesPass ⟨.fourByteAddress, 1, 64⟩ 0xFFFFE000 1 true ∧
      (Flash.erase ⟨{}, 1, 64⟩ 0xFFFFE000 0x1000).run.run Flash.Wired.machine wired =
        ⟨.error .fourByteAddressUnsupported, wired, [], []⟩ ∧
      ¬ RangesPass ⟨{}, 1, 64⟩ 0xFFFFE000 1 true ∧ narrow.state.1 = wired ∧
      executed narrow.events = [] := by
  intro wired files narrow
  have reached : addressWidthFor .fourByteAddress (0xFFFFE000 + 0x1000) = .ok .four := rfl
  have missing : addressWidthFor {} (0xFFFFE000 + 0x1000) = .error .fourByteAddressUnsupported :=
    rfl
  have unranged : ¬ RangesPass ⟨{}, 1, 64⟩ 0xFFFFE000 1 true := by
    intro passes
    obtain ⟨width, widths⟩ := passes.programs
    cases widths
  obtain ⟨sectors, images⟩ := ranges_agree_below_end ⟨.fourByteAddress, 1, 64⟩ 0xFFFFE000 rfl
  obtain ⟨narrowSectors, narrowImages⟩ := ranges_agree_below_end ⟨{}, 1, 64⟩ 0xFFFFE000 rfl
  have erases := ((sectors 0x1000 rfl (by decide)).1 .four).1.mpr reached
  have refused := ((narrowSectors 0x1000 rfl (by decide)).2 _ missing).2 _ Flash.Wired.machine wired
    (List.replicate 0x1000 0) List.length_replicate
  have passes := ((images [0x21] (by decide) (by decide)).1).mpr ⟨nofun, .four, rfl⟩
  have declines := (((narrowImages [0x21] (by decide) (by decide)).2 _ _ Flash.Wired.machine files
    wired [0x21] "image" true true rfl).1 unranged).2
  exact ⟨erases, passes, refused.1, unranged, declines⟩

/-- The last sector is read and programmed in four address bytes, but no master can erase it, and
one that cannot send four bytes is told that it lies out of bounds. -/
theorem last_sector_cannot_be_erased :
    let capabilities : Spi.Capabilities := ⟨.fourByteAddress, 1, 64⟩
    let narrow : Spi.Capabilities := ⟨{}, 1, 64⟩
    (∃ pieces, readPlan capabilities 0xFFFFF000 0x1000 = .ok (.four, pieces)) ∧
      (∃ pieces, programPlan capabilities 0xFFFFF000 0x1000 = .ok (.four, pieces)) ∧
      erasePlan capabilities 0xFFFFF000 0x1000 = .error .addressOutOfBounds ∧
      readPlan narrow 0xFFFFF000 0x1000 = .error .fourByteAddressUnsupported ∧
      erasePlan narrow 0xFFFFF000 0x1000 = .error .addressOutOfBounds ∧
      RangesPass capabilities 0xFFFFF000 1 false ∧ ¬ RangesPass capabilities 0xFFFFF000 1 true := by
  intro capabilities narrow
  have spans : eraseSpan 0xFFFFF000 1 = .ok 0x1000 := eraseSpan_of_small rfl (by decide)
  have last : addressWidthFor .fourByteAddress (0xFFFFF000 + 1) = .ok .four := rfl
  have reached : addressWidthFor .fourByteAddress (0xFFFFF000 + 0x1000) = .ok .four := rfl
  have missing : addressWidthFor {} (0xFFFFF000 + 0x1000) = .error .fourByteAddressUnsupported :=
    rfl
  have beyond (capabilities : Spi.Capabilities) :
      erasePlan capabilities 0xFFFFF000 0x1000 = .error .addressOutOfBounds :=
    Flash.erasePlan_of_beyond rfl rfl (by decide)
  refine ⟨(Flash.readPlan_ok_iff (by decide)).mpr reached,
    (Flash.programPlan_ok_iff (by decide)).mpr reached, beyond capabilities,
    Flash.readPlan_of_unreached missing, beyond narrow, ⟨nofun, .four, last⟩, ?_⟩
  intro passes
  obtain ⟨span, given, plan, planned⟩ := passes.erases rfl
  obtain rfl := Except.ok.inj (spans.symm.trans given)
  cases planned.symm.trans (beyond capabilities)

end SpiProgrammer.Job
