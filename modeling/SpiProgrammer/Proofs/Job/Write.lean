import SpiProgrammer.Job.Change
import SpiProgrammer.Proofs.Flash.Erasing
import SpiProgrammer.Proofs.Flash.Reading

/-! # Writing an image and reading it back

Main statement: with a master that never fails a command, on a chip that gets ready in time, writing
an image that is accepted changes the range of the image and the sectors erased for it as it
should, and nothing else; it succeeds if the image is not to be verified or reads back as it is,
and otherwise names the first byte that differs. -/
set_option autoImplicit false

namespace SpiProgrammer.Job

open Flash (Drives Unfailing Chip Wiped Burned)

/-! ## The first difference -/

theorem firstMismatch?_some {wrote read : Bytes} {index : Nat} {byte other : UInt8}
    (found : firstMismatch? wrote read = some (index, byte, other)) :
    wrote[index]? = some byte ∧ read[index]? = some other ∧ byte ≠ other ∧
      ∀ earlier < index, wrote[earlier]? = read[earlier]? := by
  obtain ⟨entry, first, shown⟩ := Option.map_eq_some_iff.mp found
  obtain ⟨differs, place, within, here, before⟩ := List.find?_eq_some_iff_getElem.mp first
  have bound : place < wrote.length ∧ place < read.length := by
    rw [List.length_zipIdx, List.length_zip] at within
    omega
  rw [List.getElem_zipIdx, List.getElem_zip, Nat.zero_add] at here
  subst here
  cases shown
  refine ⟨List.getElem?_eq_getElem bound.1, List.getElem?_eq_getElem bound.2, ?_, ?_⟩
  · simpa using differs
  · intro earlier sooner
    have same := before earlier sooner
    rw [List.getElem_zipIdx, List.getElem_zip] at same
    rw [List.getElem?_eq_getElem (by omega), List.getElem?_eq_getElem (by omega)]
    simpa using same

theorem firstMismatch?_none {wrote read : Bytes} (lengths : wrote.length = read.length)
    (none : firstMismatch? wrote read = none) : wrote = read := by
  have all := List.find?_eq_none.mp (Option.map_eq_none_iff.mp none)
  refine List.ext_getElem lengths fun index within inside => ?_
  have bound : index < ((wrote.zip read).zipIdx).length := by
    rw [List.length_zipIdx, List.length_zip]
    omega
  have same := all _ (List.getElem_mem bound)
  rw [List.getElem_zipIdx, List.getElem_zip] at same
  simpa using same

/-! ## The parts of the job -/

/-- The image is accepted by all steps that are to be taken with it. -/
structure Accepted (capabilities : Spi.Capabilities) (address : UInt32) (image : Bytes)
    (eraseFirst verifyAfter : Bool) : Prop where
  erases : eraseFirst = true → ∃ span, eraseSpan address image.length = .ok span ∧
    ∃ plan, Flash.erasePlan capabilities address.toNat span = .ok plan
  programs : ∃ plan, Flash.programPlan capabilities address.toNat image.length = .ok plan
  reads : verifyAfter = true →
    ∃ plan, Flash.readPlan capabilities address.toNat image.length = .ok plan

/-- A length rounded up to whole sectors. -/
def wholeSectors (length : Nat) : Nat :=
  (length + (Spi.Opcode.sectorSize - 1)) / Spi.Opcode.sectorSize * Spi.Opcode.sectorSize

theorem length_le_wholeSectors (length : Nat) : length ≤ wholeSectors length := by
  simp only [wholeSectors, Spi.Opcode.sectorSize]
  omega

theorem eraseSpan_ok {address : UInt32} {length span : Nat}
    (accepted : eraseSpan address length = .ok span) :
    span = wholeSectors length ∧ span < 0x100000000 := by
  unfold eraseSpan at accepted
  by_cases unaligned : address.toNat % Spi.Opcode.sectorSize ≠ 0
  · simp only [if_pos unaligned] at accepted
    cases accepted
  simp only [if_neg unaligned] at accepted
  split at accepted
  · cases accepted
  · next small =>
    cases accepted
    exact ⟨rfl, Nat.lt_of_not_le small⟩

theorem toNat_span {address : UInt32} {length span : Nat}
    (spans : eraseSpan address length = .ok span) : (UInt32.ofNat span).toNat = span :=
  UInt32.toNat_ofNat_of_lt' (eraseSpan_ok spans).2

theorem reached_of_span {features : Spi.Features} {address : UInt32} {length span : Nat}
    {width : Spi.AddressWidth} (spans : eraseSpan address length = .ok span)
    (reached : Flash.Reached features (address.toNat + span) width) :
    ∃ width, Flash.Reached features (address.toNat + length) width := by
  obtain ⟨rounded, -⟩ := eraseSpan_ok spans
  have covers := length_le_wholeSectors length
  exact reached.upTo (by omega)

section Parts

variable {σ τ : Type} {machine : Machine σ Spi.Master} {files : Machine τ Files}
  {chip : σ → Chip} {Sound : σ → Prop} {capabilities : Spi.Capabilities} {state : σ} {store : τ}

theorem onChip_course {α : Type} (operation : Spi.Operation α) :
    (onChip operation).run.course (machine.both files) (state, store) =
      let inner := operation.run.course machine state
      ⟨inner.value.mapError Failure.chip, (inner.state, store),
        inner.events.map fun event => ⟨.inl event.request, event.reply⟩⟩ := by
  show (attempt operation >>= fun outcome =>
    pure (outcome.mapError Failure.chip)).course (machine.both files) (state, store) = _
  rw [Dialogue.course_bind]
  simp only [Dialogue.course_pure, List.append_nil]
  simp only [Dialogue.course, attempt, Dialogue.run_onLeft]

theorem onChip_answer {α : Type} (operation : Spi.Operation α) :
    (onChip operation).run.answer (machine.both files) (state, store) =
      ((operation.run.answer machine state).1.mapError Failure.chip,
        ((operation.run.answer machine state).2, store)) :=
  Dialogue.answer_of_course (onChip_course operation)

theorem onChip_ensures {α : Type} {operation : Spi.Operation α} {Well : α → σ → Prop}
    (ensures : Dialogue.Ensures machine operation state Well fun _ _ => False) :
    Dialogue.Ensures (machine.both files) (onChip operation) (state, store)
      (fun value next => Well value next.1 ∧ next.2 = store) fun _ _ => False := by
  unfold Dialogue.Ensures at ensures ⊢
  rw [onChip_answer]
  rcases went : operation.run.answer machine state with ⟨outcome, next⟩
  rw [went] at ensures
  cases outcome with
  | ok value => exact ⟨ensures, rfl⟩
  | error error => exact ensures

theorem readFile_course (path : String) :
    (readFile path).run.course (machine.both files) (state, store) =
      let answer := files (.read path) store
      ⟨answer.1.mapError Failure.file, (state, answer.2), [⟨.inr (.read path), answer.1⟩]⟩ := rfl

theorem readFile_ensures {path : String} {image : Bytes}
    (held : (files (.read path) store).1 = .ok image) :
    Dialogue.Ensures (machine.both files) (readFile path) (state, store)
      (fun contents next => contents = image ∧ next.1 = state) fun _ _ => False := by
  unfold Dialogue.Ensures
  rw [Dialogue.answer_of_course (readFile_course path), held]
  exact ⟨rfl, rfl⟩

/-- Once its span is known, the job is the erase, with or without a warning before it. -/
theorem eraseFor_course {address : UInt32} {image : Bytes} {span : Nat}
    (spans : eraseSpan address image.length = .ok span) :
    (eraseFor capabilities address image).run.course (machine.both files) (state, store) =
      (onChip (Flash.erase capabilities address (.ofNat span))).run.course (machine.both files)
        (state, store) := by
  have taken : (liftM (Except.ok span : Except Failure Nat) : Job Nat).run.course
      (machine.both files) (state, store) = ⟨.ok span, (state, store), []⟩ := rfl
  unfold eraseFor
  rw [spans, Dialogue.course_bind_ok _ _ _ taken]
  by_cases past : span ≠ image.length
  · rw [if_pos past, Dialogue.course_bind_ok _ _ _ (Dialogue.course_lift _ _ _)]
    simp
  · rw [if_neg past]
    simp

theorem eraseFor_of_span {address : UInt32} {image : Bytes} {span : Nat}
    (spans : eraseSpan address image.length = .ok span)
    {Well : Unit → σ × τ → Prop} {Failed : Failure → σ × τ → Prop}
    (erases : Dialogue.Ensures (machine.both files)
      (onChip (Flash.erase capabilities address (.ofNat span))) (state, store) Well Failed) :
    Dialogue.Ensures (machine.both files) (eraseFor capabilities address image) (state, store)
      Well Failed := by
  have same := Dialogue.answer_of_course
    (@eraseFor_course _ _ machine files capabilities state store _ _ _ spans)
  unfold Dialogue.Ensures at erases ⊢
  rw [same]
  exact erases

theorem eraseFor_ensures (drives : Drives machine chip Sound)
    (unfailing : Unfailing machine Sound) (sound : Sound state)
    (ready : (chip state).ReadyWithin 100) {address : UInt32} {image : Bytes} {span : Nat}
    (spans : eraseSpan address image.length = .ok span)
    (accepted : ∃ plan, Flash.erasePlan capabilities address.toNat span = .ok plan) :
    Dialogue.Ensures (machine.both files) (eraseFor capabilities address image) (state, store)
      (fun _ next => Sound next.1 ∧ (chip state).Alike (chip next.1) ∧
        Wiped address.toNat (address.toNat + wholeSectors image.length) (chip state).memory
          (chip next.1).memory) fun _ _ => False := by
  obtain ⟨rounded, -⟩ := eraseSpan_ok spans
  obtain ⟨⟨width, found⟩, accepted⟩ := accepted
  have whole := toNat_span spans
  have planned : Flash.erasePlan capabilities address.toNat (UInt32.ofNat span).toNat =
      .ok (width, found) := whole.symm ▸ accepted
  have erased := Flash.erase_changes drives unfailing sound ready planned
  rw [whole, rounded] at erased
  refine eraseFor_of_span spans ?_
  rw [rounded]
  exact (onChip_ensures erased).imp (fun _ _ well => well.1) fun _ _ failed => failed

theorem program_ensures (drives : Drives machine chip Sound)
    (unfailing : Unfailing machine Sound) (sound : Sound state)
    (ready : (chip state).ReadyWithin 1000) {address : UInt32} {image : Bytes}
    (accepted : ∃ plan, Flash.programPlan capabilities address.toNat image.length = .ok plan) :
    Dialogue.Ensures (machine.both files) (onChip (Flash.program capabilities address image))
      (state, store)
      (fun _ next => Sound next.1 ∧ (chip state).Alike (chip next.1) ∧
        Burned address.toNat image (chip state).memory (chip next.1).memory) fun _ _ => False := by
  obtain ⟨⟨width, pieces⟩, accepted⟩ := accepted
  have programmed := Flash.program_changes drives unfailing sound ready accepted
  exact (onChip_ensures programmed).imp (fun _ _ well => well.1) fun _ _ failed => failed

/-- The failure names the first place where what is found differs from the image, with both
bytes. -/
def Mismatch (address : UInt32) (image found : Bytes) (failure : Failure) : Prop :=
  ∃ index wrote read, image[index]? = some wrote ∧ found[index]? = some read ∧ wrote ≠ read ∧
    (∀ earlier < index, image[earlier]? = found[earlier]?) ∧
    failure = .verification (address.toNat + index) wrote read

theorem Mismatch.differs {address : UInt32} {image found : Bytes} {failure : Failure}
    (mismatch : Mismatch address image found failure) : found ≠ image := by
  obtain ⟨index, wrote, read, here, there, apart, -, -⟩ := mismatch
  intro same
  rw [same] at there
  exact apart (Option.some.inj (here.symm.trans there))

theorem verify_ensures (drives : Drives machine chip Sound) (unfailing : Unfailing machine Sound)
    (sound : Sound state) {address : UInt32} {image : Bytes}
    (accepted : ∃ plan, Flash.readPlan capabilities address.toNat image.length = .ok plan) :
    Dialogue.Ensures (machine.both files) (verify capabilities address image) (state, store)
      (fun _ next => chip next.1 = chip state ∧
        (chip state).readMany address.toNat image.length = image)
      (fun failure next => chip next.1 = chip state ∧
        Mismatch address image ((chip state).readMany address.toNat image.length) failure) := by
  obtain ⟨⟨width, pieces⟩, accepted⟩ := accepted
  have reads := @onChip_ensures _ _ _ files _ store _ _ _
    (Flash.read_reads drives unfailing sound accepted)
  have lengths : image.length = ((chip state).readMany address.toNat image.length).length :=
    ((chip state).length_readMany address.toNat image.length).symm
  unfold verify
  refine reads.surely ?_
  rintro found next ⟨⟨rfl, -, same⟩, -⟩
  cases compared : firstMismatch? image ((chip state).readMany address.toNat image.length) with
  | none =>
    have whole := firstMismatch?_none lengths compared
    exact ⟨same, whole.symm⟩
  | some entry =>
    obtain ⟨index, wrote, read⟩ := entry
    obtain ⟨here, there, apart, first⟩ := firstMismatch?_some compared
    exact Dialogue.ensures_throw ⟨same, index, wrote, read, here, there, apart, first, rfl⟩

/-- What is done once nothing is left to be erased. -/
def finish (capabilities : Spi.Capabilities) (address : UInt32) (image : Bytes)
    (verifyAfter : Bool) : Job Unit := do
  onChip (Flash.program capabilities address image)
  if verifyAfter then verify capabilities address image
  say ("Wrote " ++ toString image.length ++ " bytes at 0x" ++ Text.hex 8 address.toNat)

theorem finish_ensures (drives : Drives machine chip Sound) (unfailing : Unfailing machine Sound)
    (sound : Sound state) (ready : (chip state).ReadyWithin 1000) {address : UInt32}
    {image : Bytes} {eraseFirst verifyAfter : Bool}
    (accepted : Accepted capabilities address image eraseFirst verifyAfter) :
    Dialogue.Ensures (machine.both files) (finish capabilities address image verifyAfter)
      (state, store)
      (fun _ next => Burned address.toNat image (chip state).memory (chip next.1).memory ∧
        (verifyAfter = true → (chip next.1).readMany address.toNat image.length = image))
      (fun failure next => Burned address.toNat image (chip state).memory (chip next.1).memory ∧
        verifyAfter = true ∧
          Mismatch address image ((chip next.1).readMany address.toNat image.length) failure) := by
  unfold finish
  refine (program_ensures drives unfailing sound ready accepted.programs).surely ?_
  rintro _ ⟨next, store⟩ ⟨stays, alike, burned⟩
  cases verifyAfter with
  | false => exact ⟨burned, nofun⟩
  | true =>
    refine (verify_ensures drives unfailing stays (accepted.reads rfl)).step ?_ ?_
    · rintro failure last ⟨same, mismatch⟩
      rw [same]
      exact ⟨burned, rfl, mismatch⟩
    · rintro _ last ⟨same, whole⟩
      have burnedLast : Burned address.toNat image (chip state).memory (chip last.1).memory := by
        rw [same]
        exact burned
      have wholeLast : (chip last.1).readMany address.toNat image.length = image := by
        rw [same]
        exact whole
      exact ⟨burnedLast, fun _ => wholeLast⟩

end Parts

/-! ## The whole job -/

/-- The memory after an image has been written: nothing has changed outside the range of the image
and the sectors erased for it; what was erased and not written is erased; and the range holds the
image, or, without an erase, its conjunction with what it held. -/
structure Written (address : Nat) (image : Bytes) (eraseFirst : Bool)
    (before after : Flash.Memory) : Prop where
  outside : ∀ place, place < address ∨
    address + (if eraseFirst then wholeSectors image.length else image.length) ≤ place →
    after.get place = before.get place
  margin : eraseFirst = true → ∀ place, address + image.length ≤ place →
    place < address + wholeSectors image.length → after.get place = Flash.Memory.erasedByte
  inside : ∀ index (within : index < image.length), after.get (address + index) =
    if eraseFirst then image[index] else before.get (address + index) &&& image[index]

theorem written_of_burned {address : Nat} {image : Bytes} {before after : Flash.Memory}
    (burned : Burned address image before after) : Written address image false before after := by
  refine ⟨fun place outside => ?_, nofun, fun index within => ?_⟩
  · rw [burned place, Chip.burned_outside outside]
  · rw [burned, Chip.burned_inside within]
    rfl

theorem written_of_wiped {address : Nat} {image : Bytes} {before between after : Flash.Memory}
    (wiped : Wiped address (address + wholeSectors image.length) before between)
    (burned : Burned address image between after) : Written address image true before after := by
  have covers := length_le_wholeSectors image.length
  refine ⟨fun place outside => ?_, fun _ place behind ahead => ?_, fun index within => ?_⟩
  · rw [if_pos rfl] at outside
    rw [burned place, Chip.burned_outside (by omega), wiped place, if_neg (by omega)]
  · rw [burned place, Chip.burned_outside (.inr behind), wiped place, if_pos (by omega)]
  · rw [burned, Chip.burned_inside within, wiped, if_pos (by omega), if_pos rfl]
    exact UInt8.neg_one_and

section Whole

variable {σ τ : Type} {machine : Machine σ Spi.Master} {files : Machine τ Files}
  {chip : σ → Chip} {Sound : σ → Prop} {capabilities : Spi.Capabilities} {state : σ} {store : τ}

theorem write_eq_finish (path : String) (address : UInt32) (eraseFirst verifyAfter : Bool) :
    write capabilities path address eraseFirst verifyAfter = (do
      let image ← readFile path
      if image.isEmpty then throw (.emptyImage path)
      if eraseFirst then eraseFor capabilities address image
      finish capabilities address image verifyAfter) := rfl

/-- Writing an image that is accepted, with a master that drives the chip without failing and a chip
that gets ready in time, does to the memory what it should; it succeeds exactly if the image is
not to be verified or reads back as it is, and otherwise names the first difference. -/
theorem write_stores_and_verifies (drives : Drives machine chip Sound)
    (unfailing : Unfailing machine Sound) (sound : Sound state) {path : String} {image : Bytes}
    (held : (files (.read path) store).1 = .ok image) (nonempty : image ≠ [])
    {address : UInt32} {eraseFirst verifyAfter : Bool}
    (accepted : Accepted capabilities address image eraseFirst verifyAfter)
    (ready : (chip state).ReadyWithin 1000)
    (readyErasing : eraseFirst = true → (chip state).ReadyWithin 100) :
    let ran := (write capabilities path address eraseFirst verifyAfter).run.run
      (machine.both files) (state, store)
    let after := chip ran.state.1
    let found := after.readMany address.toNat image.length
    Written address.toNat image eraseFirst (chip state).memory after.memory ∧
      (verifyAfter = false → ran.value = .ok ()) ∧
      (verifyAfter = true → (ran.value = .ok () ↔ found = image) ∧
        (found ≠ image → ∃ failure, ran.value = .error failure ∧
          Mismatch address image found failure)) := by
  have ends : Dialogue.Ensures (machine.both files)
      (write capabilities path address eraseFirst verifyAfter) (state, store)
      (fun _ next =>
        Written address.toNat image eraseFirst (chip state).memory (chip next.1).memory ∧
          (verifyAfter = true → (chip next.1).readMany address.toNat image.length = image))
      (fun failure next =>
        Written address.toNat image eraseFirst (chip state).memory (chip next.1).memory ∧
          verifyAfter = true ∧ Mismatch address image
            ((chip next.1).readMany address.toNat image.length) failure) := by
    rw [write_eq_finish]
    refine (readFile_ensures held).surely ?_
    rintro contents ⟨_, store⟩ ⟨rfl, rfl⟩
    have some : ¬ contents.isEmpty = true := by
      rwa [List.isEmpty_iff]
    rw [if_neg some]
    cases eraseFirst with
    | false =>
      exact (finish_ensures drives unfailing sound ready accepted).imp
        (fun _ _ well => ⟨written_of_burned well.1, well.2⟩)
        fun _ _ failed => ⟨written_of_burned failed.1, failed.2⟩
    | true =>
      obtain ⟨span, spans, planned⟩ := accepted.erases rfl
      have erased := @eraseFor_ensures _ _ _ files _ _ _ _ store drives unfailing sound
        (readyErasing rfl) _ _ _ spans planned
      refine erased.surely ?_
      rintro _ ⟨next, store⟩ ⟨stays, alike, wiped⟩
      exact (finish_ensures drives unfailing stays (alike.readyWithin ready) accepted).imp
        (fun _ _ well => ⟨written_of_wiped wiped well.1, well.2⟩)
        fun _ _ failed => ⟨written_of_wiped wiped failed.1, failed.2⟩
  intro ran after found
  have answer : (write capabilities path address eraseFirst verifyAfter).run.answer
      (machine.both files) (state, store) = (ran.value, ran.state) := rfl
  unfold Dialogue.Ensures at ends
  rw [answer] at ends
  cases outcome : ran.value with
  | ok _ =>
    rw [outcome] at ends
    obtain ⟨written, whole⟩ := ends
    exact ⟨written, fun _ => rfl, fun verifies => ⟨⟨fun _ => whole verifies, fun _ => rfl⟩,
      fun apart => absurd (whole verifies) apart⟩⟩
  | error failure =>
    rw [outcome] at ends
    obtain ⟨written, verifies, mismatch⟩ := ends
    refine ⟨written, fun skips => ?_, fun _ => ⟨⟨nofun, fun same => ?_⟩, fun _ => ?_⟩⟩
    · rw [verifies] at skips
      cases skips
    · exact absurd same mismatch.differs
    · exact ⟨failure, rfl, mismatch⟩

end Whole

/-- Two bytes are written to the second sector, which is erased for them, and verified byte by
byte.  One of them goes where all bits were cleared; of the two neighbours of the end of the
sector only the one inside is erased. -/
theorem write_stores_second_sector :
    let memory := ((Flash.Memory.erased.set 0x1001 0x00).set 0x1FFF 0x55).set 0x2000 0x66
    let wired : Flash.Wired := { chip := { memory, busyPolls := 3 } }
    let files : Machine Bytes Files := fun r contents =>
      match r with
      | .read _ => (.ok contents, contents)
      | .create _ _ => (.ok (), contents)
    let image : Bytes := [0x12, 0x34]
    let ran := (write ⟨.fourByteAddress, 1, 64⟩ "image" 0x1000 true true).run.run
      (Flash.Wired.machine.both files) (wired, image)
    let after := ran.state.1.chip
    Accepted ⟨.fourByteAddress, 1, 64⟩ 0x1000 image true true ∧
      Written 0x1000 image true memory after.memory ∧
      (ran.value = .ok () ↔ after.readMany 0x1000 2 = image) ∧ ran.value = .ok () ∧
      [0x1000, 0x1001, 0x1FFF, 0x2000].map memory.get = [0xFF, 0x00, 0x55, 0x66] ∧
      [0x1000, 0x1001, 0x1FFF, 0x2000].map after.memory.get = [0x12, 0x34, 0xFF, 0x66] := by
  intro memory wired files image ran after
  have spans : eraseSpan 0x1000 2 = .ok 4096 := by
    unfold eraseSpan
    rw [if_neg (by decide), if_neg (by decide)]
    rfl
  have erases : Flash.erasePlan ⟨.fourByteAddress, 1, 64⟩ 0x1000 4096 = .ok (.three, [0x1000]) :=
    rfl
  have accepted : Accepted ⟨.fourByteAddress, 1, 64⟩ 0x1000 image true true :=
    ⟨fun _ => ⟨4096, spans, _, erases⟩, ⟨_, rfl⟩, fun _ => ⟨_, rfl⟩⟩
  have held : (files (.read "image") image).1 = .ok image := rfl
  have ready (limit : Nat) (enough : 3 < limit) : wired.chip.ReadyWithin limit :=
    ⟨by decide, enough⟩
  obtain ⟨written, -, verified⟩ := write_stores_and_verifies Flash.Wired.drives
    Flash.Wired.unfailing rfl held (by decide) accepted (ready 1000 (by decide))
    fun _ => ready 100 (by decide)
  have found : after.readMany 0x1000 2 = image := by decide +kernel
  have first : after.memory.get 0x1000 = 0x12 := written.inside 0 (by decide)
  have second : after.memory.get 0x1001 = 0x34 := written.inside 1 (by decide)
  have margin : after.memory.get 0x1FFF = 0xFF := written.margin rfl _ (by decide) (by decide)
  have behind : after.memory.get 0x2000 = memory.get 0x2000 := written.outside _ (.inr (by decide))
  have before : [0x1000, 0x1001, 0x1FFF, 0x2000].map memory.get = [0xFF, 0x00, 0x55, 0x66] := by
    decide +kernel
  have kept : memory.get 0x2000 = 0x66 := by decide +kernel
  refine ⟨accepted, written, (verified rfl).1, (verified rfl).1.mpr found, before, ?_⟩
  simp only [List.map_cons, List.map_nil, first, second, margin, behind, kept]

end SpiProgrammer.Job
