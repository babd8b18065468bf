import SpiProgrammer.Proofs.Flash.Ranges
import SpiProgrammer.Proofs.Job.Write

/-! # What a refused write leaves behind

Each phase of a write looks at its own limits when it begins.  A range that can be erased can be
programmed and read back, so that a refusal for its place or its size comes before anything is done.
But a programmer that can send a header and no more is found out only after the erase.

Main statement: on a master that never fails a command, a refusal leaves the memory as it was, but
for that one.  What becomes of the memory where a command of the write itself is beyond the limits
is left open. -/
set_option autoImplicit false

namespace SpiProgrammer

namespace Job

open Flash (Drives Unfailing Chip Wiped Reached)

/-- The write is refused for what it is given, not for what became of it. -/
def Refusal : Failure → Prop
  | .chip error => error ∈ [Spi.Error.addressOutOfBounds, .fourByteAddressUnsupported,
      .invalidAlignment, .bufferTooLarge]
  | .emptyImage _ | .unalignedErase _ | .imageTooLarge => True
  | _ => False

theorem refusal_bufferTooLarge : Refusal (.chip .bufferTooLarge) := by
  show Spi.Error.bufferTooLarge ∈ [_, _, _, _]
  simp

/-- A limit of the programmer that only a later phase looks at, and what has been done by then if
all that has been done is within the limits. -/
inductive FoundLate (capabilities : Spi.Capabilities) (address : Nat) (image : Bytes)
    (eraseFirst verifyAfter : Bool) (before after : Flash.Memory) : Prop
  | sending (width : Spi.AddressWidth)
    (reached : Reached capabilities.features (address + image.length) width)
    (narrow : capabilities.maxWrite ≤ 1 + width.bytes)
    (kept : eraseFirst = false → after = before)
    (erased : eraseFirst = true → 1 + width.bytes ≤ capabilities.maxWrite →
      1 ≤ capabilities.maxRead →
        Wiped address (address + wholeSectors image.length) before after) :
    FoundLate capabilities address image eraseFirst verifyAfter before after
  | reading (width : Spi.AddressWidth)
    (reached : Reached capabilities.features (address + image.length) width)
    (wide : 1 + width.bytes < capabilities.maxWrite) (verifies : verifyAfter = true)
    (unreadable : capabilities.maxRead = 0) :
    FoundLate capabilities address image eraseFirst verifyAfter before after

section Parts

variable {σ τ : Type} {machine : Machine σ Spi.Master} {files : Machine τ Files}
  {chip : σ → Chip} {Sound : σ → Prop} {capabilities : Spi.Capabilities} {state : σ} {store : τ}
  {address : UInt32} {image : Bytes} {error : Spi.Error}

theorem onChip_refused {α : Type} {operation : Spi.Operation α}
    (refused : operation.run.answer machine state = (.error error, state)) :
    Dialogue.Ensures (machine.both files) (onChip operation) (state, store) (fun _ _ => False)
      fun failure next => failure = .chip error ∧ next = (state, store) := by
  unfold Dialogue.Ensures
  rw [onChip_answer, refused]
  exact ⟨rfl, rfl⟩

theorem finish_refused {verifyAfter : Bool}
    (refused : Flash.programPlan capabilities address.toNat image.length = .error error) :
    Dialogue.Ensures (machine.both files) (finish capabilities address image verifyAfter)
      (state, store) (fun _ _ => False)
      fun failure next => failure = .chip error ∧ next = (state, store) := by
  have programs : (Flash.program capabilities address image).run.answer machine state =
      (.error error, state) := by
    unfold Dialogue.answer
    rw [Flash.program_refused refused]
  unfold finish
  exact (onChip_refused programs).bind fun _ _ => False.elim

theorem verify_refused
    (refused : Flash.readPlan capabilities address.toNat image.length = .error error) :
    Dialogue.Ensures (machine.both files) (verify capabilities address image) (state, store)
      (fun _ _ => False) fun failure next => failure = .chip error ∧ next = (state, store) := by
  have reads : (Flash.read capabilities address image.length).run.answer machine state =
      (.error error, state) := by
    unfold Dialogue.answer
    rw [Flash.read_refused refused]
  unfold verify
  exact (onChip_refused reads).bind fun _ _ => False.elim

theorem Mismatch.not_refusal {found : Bytes} {failure : Failure}
    (mismatch : Mismatch address image found failure) : ¬ Refusal failure := by
  obtain ⟨index, wrote, read, -, -, -, -, rfl⟩ := mismatch
  exact nofun

/-- Without an erase: what a refusal leaves, and that it is one for the range if it is not for the
limits. -/
structure Finished (capabilities : Spi.Capabilities) (address : UInt32) (image : Bytes)
    (verifyAfter : Bool) (state : σ) (failure : Failure) (next : σ) : Prop where
  spared : failure ≠ .chip .bufferTooLarge → next = state ∧
    ∀ width, ¬ Reached capabilities.features (address.toNat + image.length) width
  late : failure = .chip .bufferTooLarge →
    ∃ width, Reached capabilities.features (address.toNat + image.length) width ∧
      (capabilities.maxWrite ≤ 1 + width.bytes ∧ next = state ∨
        1 + width.bytes < capabilities.maxWrite ∧ verifyAfter = true ∧ capabilities.maxRead = 0)

theorem finish_refusals (drives : Drives machine chip Sound) (unfailing : Unfailing machine Sound)
    (sound : Sound state) (ready : (chip state).ReadyWithin 1000) (verifyAfter : Bool) :
    Dialogue.Ensures (machine.both files) (finish capabilities address image verifyAfter)
      (state, store) (fun _ _ => True) fun failure next => Refusal failure →
        Finished capabilities address image verifyAfter state failure next.1 := by
  rcases Flash.programPlan_cases capabilities address.toNat image.length with
    ⟨error, other, refused, unreached⟩ | ⟨width, reached, ⟨narrow, refused⟩ | ⟨wide, planned⟩⟩
  · refine (finish_refused refused).imp (fun _ _ => False.elim) ?_
    rintro _ _ ⟨rfl, rfl⟩ -
    exact ⟨fun _ => ⟨rfl, unreached⟩, fun same => absurd (Failure.chip.inj same) other⟩
  · refine (finish_refused refused).imp (fun _ _ => False.elim) ?_
    rintro _ _ ⟨rfl, rfl⟩ -
    exact ⟨fun other => absurd rfl other, fun _ => ⟨width, reached, .inl ⟨narrow, rfl⟩⟩⟩
  unfold finish
  refine (program_ensures drives unfailing sound ready planned).surely ?_
  rintro _ ⟨next, store⟩ ⟨stays, -, -⟩
  cases verifyAfter with
  | false => trivial
  | true =>
    rcases Flash.readPlan_cases reached with ⟨unreadable, refused⟩ | planned
    · -- found out only now that the image has been programmed
      refine (verify_refused refused).step ?_ fun _ _ => False.elim
      rintro _ _ ⟨rfl, rfl⟩ -
      exact ⟨fun other => absurd rfl other,
        fun _ => ⟨width, reached, .inr ⟨wide, rfl, unreadable⟩⟩⟩
    · refine (verify_ensures drives unfailing stays planned).step ?_ fun _ _ _ => trivial
      rintro failure last ⟨-, mismatch⟩ refusal
      exact absurd refusal mismatch.not_refusal

theorem readFile_ends (path : String) :
    Dialogue.Ensures (machine.both files) (readFile path) (state, store)
      (fun contents next => (files (.read path) store).1 = .ok contents ∧ next.1 = state)
      fun failure _ => ¬ Refusal failure := by
  unfold Dialogue.Ensures
  rw [Dialogue.answer_of_course (readFile_course path)]
  cases (files (.read path) store).1 with
  | error fault => exact nofun
  | ok contents => exact ⟨rfl, rfl⟩

theorem eraseSpan_error {failure : Failure}
    (refused : eraseSpan address image.length = .error failure) :
    failure ≠ .chip .bufferTooLarge := by
  unfold eraseSpan at refused
  rintro rfl
  by_cases unaligned : address.toNat % Spi.Opcode.sectorSize ≠ 0
  · simp only [if_pos unaligned] at refused
    cases refused
  · simp only [if_neg unaligned] at refused
    split at refused <;> cases refused

theorem eraseFor_ends (drives : Drives machine chip Sound) (unfailing : Unfailing machine Sound)
    (sound : Sound state) (ready : (chip state).ReadyWithin 100) :
    Dialogue.Ensures (machine.both files) (eraseFor capabilities address image) (state, store)
      (fun _ next => (Sound next.1 ∧ (chip state).Alike (chip next.1) ∧
        Wiped address.toNat (address.toNat + wholeSectors image.length) (chip state).memory
          (chip next.1).memory) ∧
        ∃ width, Reached capabilities.features (address.toNat + image.length) width)
      fun failure next => failure ≠ .chip .bufferTooLarge ∧ next.1 = state := by
  cases spans : eraseSpan address image.length with
  | error failure =>
    have refused : Dialogue.Ensures (machine.both files)
        (liftM (eraseSpan address image.length) : Job Nat) (state, store) (fun _ _ => False)
        fun given next => given = failure ∧ next = (state, store) := by
      rw [spans]
      exact ⟨rfl, rfl⟩
    unfold eraseFor
    refine refused.step ?_ fun _ _ => False.elim
    rintro _ _ ⟨rfl, rfl⟩
    exact ⟨eraseSpan_error spans, rfl⟩
  | ok span =>
    rcases Flash.erasePlan_cases capabilities address.toNat span with
      ⟨error, other, refused⟩ | ⟨width, reached, accepted⟩
    · have whole := toNat_span spans
      have erases : (Flash.erase capabilities address (.ofNat span)).run.answer machine state =
          (.error error, state) := by
        unfold Dialogue.answer
        rw [Flash.erase_refused (whole.symm ▸ refused)]
      refine (eraseFor_of_span spans (onChip_refused erases)).imp (fun _ _ => False.elim) ?_
      rintro _ _ ⟨rfl, rfl⟩
      exact ⟨fun same => other (Failure.chip.inj same), rfl⟩
    · refine (eraseFor_ensures drives unfailing sound ready spans ⟨_, accepted⟩).imp ?_ ?_
      · exact fun _ _ well => ⟨well, reached_of_span spans reached⟩
      · exact fun _ _ => False.elim

end Parts

/-! ## The whole job -/

section Whole

variable {σ τ : Type} {machine : Machine σ Spi.Master} {files : Machine τ Files}
  {chip : σ → Chip} {Sound : σ → Prop} {capabilities : Spi.Capabilities} {state : σ} {store : τ}
  {address : UInt32} {image : Bytes} {verifyAfter : Bool} {failure : Failure}

theorem Finished.foundLate {eraseFirst : Bool} {before : Flash.Memory} {next : σ}
    (finished : Finished capabilities address image verifyAfter state failure next)
    (kept : eraseFirst = false → (chip state).memory = before)
    (wiped : eraseFirst = true →
      Wiped address.toNat (address.toNat + wholeSectors image.length) before (chip state).memory)
    (narrow : failure = .chip .bufferTooLarge) :
    FoundLate capabilities address.toNat image eraseFirst verifyAfter before
      (chip next).memory := by
  obtain ⟨width, reached, ⟨headersOnly, rfl⟩ | ⟨wide, verifies, unreadable⟩⟩ :=
    finished.late narrow
  · exact .sending width reached headersOnly kept fun erases _ _ => wiped erases
  · exact .reading width reached wide verifies unreadable

/-- On a master that drives the chip without failing, and a chip that gets ready in time, a write
that is refused has asked nothing of the master.  The exceptions are a programmer that can send
nothing but headers and one that can read nothing, which are found out late. -/
theorem refused_write_spares_memory (drives : Drives machine chip Sound)
    (unfailing : Unfailing machine Sound) (sound : Sound state) (path : String)
    (eraseFirst : Bool) (ready : (chip state).ReadyWithin 1000)
    (readyErasing : eraseFirst = true → (chip state).ReadyWithin 100) :
    let ran := (write capabilities path address eraseFirst verifyAfter).run.run
      (machine.both files) (state, store)
    ∀ failure, ran.value = .error failure → Refusal failure →
      (failure ≠ .chip .bufferTooLarge → ran.state.1 = state) ∧
      (failure = .chip .bufferTooLarge → ∃ image, (files (.read path) store).1 = .ok image ∧
        FoundLate capabilities address.toNat image eraseFirst verifyAfter (chip state).memory
          (chip ran.state.1).memory) := by
  have ends : Dialogue.Ensures (machine.both files)
      (write capabilities path address eraseFirst verifyAfter) (state, store) (fun _ _ => True)
      fun failure next => Refusal failure →
        (failure ≠ .chip .bufferTooLarge → next.1 = state) ∧
        (failure = .chip .bufferTooLarge → ∃ image, (files (.read path) store).1 = .ok image ∧
          FoundLate capabilities address.toNat image eraseFirst verifyAfter (chip state).memory
            (chip next.1).memory) := by
    rw [write_eq_finish]
    refine (readFile_ends path).step (fun _ _ other refusal => absurd refusal other) ?_
    rintro image ⟨_, store⟩ ⟨held, rfl⟩
    by_cases empty : image.isEmpty
    · rw [if_pos empty]
      exact Dialogue.ensures_throw fun _ => ⟨fun _ => rfl, nofun⟩
    rw [if_neg empty]
    cases eraseFirst with
    | false =>
      refine (finish_refusals drives unfailing sound ready verifyAfter).imp
        (fun _ _ well => well) fun failure next finished refusal =>
          ⟨fun other => ?_, fun late => ?_⟩
      · exact ((finished refusal).spared other).1
      · exact ⟨image, held, (finished refusal).foundLate (fun _ => rfl) nofun late⟩
    | true =>
      refine (eraseFor_ends drives unfailing sound (readyErasing rfl)).step ?_ ?_
      · rintro failure next ⟨other, same⟩ -
        exact ⟨fun _ => same, fun late => absurd late other⟩
      · -- the erased range reaches over the image, so what is refused now is not its place
        rintro _ ⟨next, store⟩ ⟨⟨stays, alike, wiped⟩, width, reached⟩
        refine (finish_refusals drives unfailing stays (alike.readyWithin ready) verifyAfter).imp
          (fun _ _ well => well) fun failure last finished refusal =>
            ⟨fun other => ?_, fun late => ?_⟩
        · exact absurd reached (((finished refusal).spared other).2 width)
        · exact ⟨image, held, (finished refusal).foundLate nofun (fun _ => wiped) late⟩
  intro ran failure failed refusal
  have answer : (write capabilities path address eraseFirst verifyAfter).run.answer
      (machine.both files) (state, store) = (ran.value, ran.state) := rfl
  unfold Dialogue.Ensures at ends
  rw [answer, failed] at ends
  exact ends refusal

end Whole

/-- Files that all hold the same bytes. -/
def holding (contents : Bytes) : Machine Unit Files
  | .read _, state => (.ok contents, state)
  | .create _ _, state => (.ok (), state)

/-- A programmer that can send a header and no more erases a sector before it is refused. -/
theorem late_refusal_erases_sector :
    let wired : Flash.Wired := { chip := { memory := Flash.Memory.erased.set 0 0x12 } }
    let ran := (write ⟨{}, 64, 4⟩ "image" 0 true false).run.run
      (Flash.Wired.machine.both (holding [0x21])) (wired, ())
    wired.failures = [] ∧ wired.chip.ReadyWithin 100 ∧ wired.chip.ReadyWithin 1000 ∧
      Refusal (.chip .bufferTooLarge) ∧ wired.chip.memory.get 0 = 0x12 ∧
      ran.value = .error (.chip .bufferTooLarge) ∧ ran.state.1.chip.memory.get 0 = 0xFF :=
  ⟨rfl, ⟨by decide, by decide⟩, ⟨by decide, by decide⟩, refusal_bufferTooLarge, rfl, rfl, rfl⟩

/-- The second sector, which holds a byte, is erased for two bytes that cannot be sent.  The byte
behind it is kept. -/
theorem refused_write_erases_second_sector :
    let memory := (Flash.Memory.erased.set 0x1FFF 0x12).set 0x2000 0x34
    let wired : Flash.Wired := { chip := { memory, busyPolls := 3 } }
    let ran := (write ⟨{}, 64, 4⟩ "image" 0x1000 true true).run.run
      (Flash.Wired.machine.both (holding [0x12, 0x34])) (wired, ())
    let after := ran.state.1.chip.memory
    wired.failures = [] ∧ wired.chip.ReadyWithin 100 ∧ wired.chip.ReadyWithin 1000 ∧
      ran.value = .error (.chip .bufferTooLarge) ∧
      (∃ image, (holding [0x12, 0x34] (.read "image") ()).1 = .ok image ∧
        FoundLate ⟨{}, 64, 4⟩ 0x1000 image true true memory after) ∧
      (memory.get 0x1FFF, after.get 0x1FFF) = (0x12, 0xFF) ∧
      (memory.get 0x2000, after.get 0x2000) = (0x34, 0x34) := by
  intro memory wired ran after
  have unfailing : wired.failures = [] := rfl
  have ready (limit : Nat) (enough : 3 < limit) : wired.chip.ReadyWithin limit :=
    ⟨by decide, enough⟩
  have failed : ran.value = .error (.chip .bufferTooLarge) := by decide +kernel
  have late := (refused_write_spares_memory Flash.Wired.drives Flash.Wired.unfailing unfailing
    "image" true (ready 1000 (by decide)) (fun _ => ready 100 (by decide)) _ failed
    refusal_bufferTooLarge).2 rfl
  have held : memory.get 0x1FFF = 0x12 ∧ memory.get 0x2000 = 0x34 := by decide +kernel
  refine ⟨unfailing, ready 100 (by decide), ready 1000 (by decide), failed, late, ?_⟩
  obtain ⟨image, found, ⟨width, reached, -, -, erased⟩ | ⟨_, _, _, _, unreadable⟩⟩ := late
  · cases found
    cases reached with
    | four above => exact absurd above (by decide)
    | three =>
      have wiped := erased rfl (by decide) (by decide)
      rw [wiped 0x1FFF, wiped 0x2000, held.1, held.2]
      decide
  · cases unreadable

end Job

end SpiProgrammer
