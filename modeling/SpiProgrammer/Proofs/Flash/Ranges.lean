import SpiProgrammer.Dialogue.Run
import SpiProgrammer.Proofs.Flash.Pieces

/-! # Which ranges are accepted

A range is reached by three address bytes, by four, or not at all.  Main statements: when each plan
is made and when it is refused, and for what; an operation whose plan is refused asks nothing of
the master.

Erasing looks at the same width as reading and programming, but its first address behind the range
has to be a 32-bit number, so that a range up to the very end of the address space is refused. -/
set_option autoImplicit false

namespace SpiProgrammer.Flash

open Spi

/-- The width in which everything below `stop` is reached, and which needs no more of the master
than it offers. -/
inductive Reached (features : Features) (stop : Nat) : AddressWidth → Prop
  | three (below : stop ≤ 0x1000000) : Reached features stop .three
  | four (above : 0x1000000 < stop) (below : stop ≤ 0x100000000)
    (offered : features.contains .fourByteAddress = true) : Reached features stop .four

section Widths

variable {features : Features} {stop : Nat} {width : AddressWidth} {error : Error}

theorem addressWidthFor_of_reached (reached : Reached features stop width) :
    addressWidthFor features stop = .ok width := by
  unfold addressWidthFor
  cases reached with
  | three below => exact if_pos below
  | four above below offered =>
    have notThree : ¬ stop ≤ AddressWidth.size .three := Nat.not_le_of_lt above
    have notBeyond : ¬ AddressWidth.size .four < stop := Nat.not_lt_of_le below
    rw [if_neg notThree, if_neg notBeyond, if_pos offered]

theorem addressWidthFor_of_beyond (beyond : 0x100000000 < stop) :
    addressWidthFor features stop = .error .addressOutOfBounds := by
  have notThree : ¬ stop ≤ AddressWidth.size .three :=
    Nat.not_le_of_lt (Nat.lt_trans (by decide) beyond)
  unfold addressWidthFor
  rw [if_neg notThree]
  exact if_pos beyond

theorem addressWidthFor_of_unsupported (above : 0x1000000 < stop) (below : stop ≤ 0x100000000)
    (missing : features.contains .fourByteAddress = false) :
    addressWidthFor features stop = .error .fourByteAddressUnsupported := by
  have notThree : ¬ stop ≤ AddressWidth.size .three := Nat.not_le_of_lt above
  have notBeyond : ¬ AddressWidth.size .four < stop := Nat.not_lt_of_le below
  unfold addressWidthFor
  rw [if_neg notThree, if_neg notBeyond, missing]
  rfl

theorem reached_of_ok (accepted : addressWidthFor features stop = .ok width) :
    Reached features stop width := by
  unfold addressWidthFor at accepted
  split at accepted
  · next below =>
    cases accepted
    exact .three below
  next above =>
  split at accepted
  · cases accepted
  next below =>
  split at accepted
  · next offered =>
    cases accepted
    exact .four (Nat.lt_of_not_le above) (Nat.le_of_not_lt below) offered
  · cases accepted

theorem Reached.upTo (reached : Reached features stop width) {place : Nat} (inside : place ≤ stop) :
    ∃ width, Reached features place width := by
  by_cases below : place ≤ 0x1000000
  · exact ⟨.three, .three below⟩
  · cases reached with
    | three all => exact absurd (Nat.le_trans inside all) below
    | four above all offered =>
      exact ⟨.four, .four (Nat.lt_of_not_le below) (Nat.le_trans inside all) offered⟩

/-- A range is refused for its place, or because the master does not send four address bytes. -/
theorem addressWidthFor_error (refused : addressWidthFor features stop = .error error) :
    (error = .addressOutOfBounds ∨ error = .fourByteAddressUnsupported) ∧
      ∀ width, ¬ Reached features stop width := by
  constructor
  · unfold addressWidthFor at refused
    split at refused
    · cases refused
    split at refused
    · cases refused
      exact .inl rfl
    split at refused
    · cases refused
    · cases refused
      exact .inr rfl
  · intro width reached
    rw [addressWidthFor_of_reached reached] at refused
    cases refused

theorem ne_bufferTooLarge_of_refused (refused : addressWidthFor features stop = .error error) :
    error ≠ .bufferTooLarge := by
  rcases (addressWidthFor_error refused).1 with rfl | rfl <;> exact nofun

end Widths

/-! ## Plans -/

section Plans

variable {capabilities : Capabilities} {address length : Nat} {width : AddressWidth} {error : Error}

theorem readPlan_of_unreached
    (unreached : addressWidthFor capabilities.features (address + length) = .error error) :
    readPlan capabilities address length = .error error := by
  unfold readPlan
  rw [unreached]
  rfl

theorem readPlan_of_unreadable (reached : Reached capabilities.features (address + length) width)
    (unreadable : capabilities.maxRead = 0) :
    readPlan capabilities address length = .error .bufferTooLarge := by
  unfold readPlan
  rw [addressWidthFor_of_reached reached]
  simp only [bind, Except.bind, if_pos unreadable]
  rfl

theorem readPlan_of_readable (reached : Reached capabilities.features (address + length) width)
    (readable : 0 < capabilities.maxRead) :
    readPlan capabilities address length =
      .ok (width, cut (fun _ => capabilities.maxRead) address length) := by
  unfold readPlan
  rw [addressWidthFor_of_reached reached]
  simp only [bind, Except.bind, if_neg (Nat.ne_of_gt readable)]
  rfl

theorem programPlan_of_unreached
    (unreached : addressWidthFor capabilities.features (address + length) = .error error) :
    programPlan capabilities address length = .error error := by
  unfold programPlan
  rw [unreached]
  rfl

theorem programPlan_of_narrow (reached : Reached capabilities.features (address + length) width)
    (narrow : capabilities.maxWrite ≤ 1 + width.bytes) :
    programPlan capabilities address length = .error .bufferTooLarge := by
  have none : capabilities.maxWrite - (1 + width.bytes) = 0 := Nat.sub_eq_zero_of_le narrow
  unfold programPlan
  rw [addressWidthFor_of_reached reached]
  simp only [bind, Except.bind, none, if_true]
  rfl

/-- What may be programmed at once at an address: it stays in the page and fits behind the header. -/
def programRoom (capabilities : Capabilities) (width : AddressWidth) (address : Nat) : Nat :=
  min (pageRest address) (capabilities.maxWrite - (1 + width.bytes))

theorem programPlan_eq_cut (reached : Reached capabilities.features (address + length) width)
    (wide : 1 + width.bytes < capabilities.maxWrite) :
    programPlan capabilities address length =
      .ok (width, cut (programRoom capabilities width) address length) := by
  have some : ¬ capabilities.maxWrite - (1 + width.bytes) = 0 := by omega
  unfold programPlan
  rw [addressWidthFor_of_reached reached]
  simp only [bind, Except.bind, some, if_false]
  rfl

theorem programPlan_of_wide (reached : Reached capabilities.features (address + length) width)
    (wide : 1 + width.bytes < capabilities.maxWrite) :
    ∃ pieces, programPlan capabilities address length = .ok (width, pieces) :=
  ⟨_, programPlan_eq_cut reached wide⟩

theorem erasePlan_of_misaligned
    (misaligned : address % Opcode.sectorSize ≠ 0 ∨ length % Opcode.sectorSize ≠ 0) :
    erasePlan capabilities address length = .error .invalidAlignment := by
  unfold erasePlan
  rw [if_pos misaligned]
  rfl

section Aligned

variable (aligned : address % Opcode.sectorSize = 0) (whole : length % Opcode.sectorSize = 0)
include aligned whole

theorem erasePlan_of_beyond (beyond : 0x100000000 ≤ address + length) :
    erasePlan capabilities address length = .error .addressOutOfBounds := by
  have sectors : ¬ (address % Opcode.sectorSize ≠ 0 ∨ length % Opcode.sectorSize ≠ 0) := by omega
  unfold erasePlan
  rw [if_neg sectors]
  simp only [if_pos beyond]
  rfl

/-- But for a range that ends with the address space, whole sectors are accepted in the width in
which the range is reached, and are refused where it is not reached. -/
theorem erasePlan_of_sectors (inside : address + length ≠ 0x100000000) :
    erasePlan capabilities address length =
      (addressWidthFor capabilities.features (address + length)).map fun width =>
        (width, sectors address length) := by
  by_cases beyond : 0x100000000 ≤ address + length
  · rw [erasePlan_of_beyond aligned whole beyond,
      addressWidthFor_of_beyond (Nat.lt_of_le_of_ne beyond inside.symm)]
    rfl
  · have sectors : ¬ (address % Opcode.sectorSize ≠ 0 ∨ length % Opcode.sectorSize ≠ 0) := by omega
    unfold erasePlan
    rw [if_neg sectors]
    simp only [if_neg beyond]
    rfl

theorem erasePlan_ok_iff (inside : address + length ≠ 0x100000000) :
    (∃ found, erasePlan capabilities address length = .ok (width, found)) ↔
      addressWidthFor capabilities.features (address + length) = .ok width := by
  rw [erasePlan_of_sectors aligned whole inside]
  cases addressWidthFor capabilities.features (address + length) with
  | error error => simp [Except.map]
  | ok reached => simp [Except.map]

theorem erasePlan_of_unreached (inside : address + length ≠ 0x100000000)
    (unreached : addressWidthFor capabilities.features (address + length) = .error error) :
    erasePlan capabilities address length = .error error := by
  rw [erasePlan_of_sectors aligned whole inside, unreached]
  rfl

end Aligned

theorem readPlan_ok_iff (readable : 0 < capabilities.maxRead) :
    (∃ pieces, readPlan capabilities address length = .ok (width, pieces)) ↔
      addressWidthFor capabilities.features (address + length) = .ok width := by
  cases widths : addressWidthFor capabilities.features (address + length) with
  | error error => simp [readPlan_of_unreached widths]
  | ok reached => simp [readPlan_of_readable (reached_of_ok widths) readable]

theorem programPlan_ok_iff (wide : 1 + width.bytes < capabilities.maxWrite) :
    (∃ pieces, programPlan capabilities address length = .ok (width, pieces)) ↔
      addressWidthFor capabilities.features (address + length) = .ok width := by
  constructor
  · intro planned
    obtain ⟨pieces, accepted⟩ := planned
    cases widths : addressWidthFor capabilities.features (address + length) with
    | error error =>
      rw [programPlan_of_unreached widths] at accepted
      cases accepted
    | ok other =>
      have reached := reached_of_ok widths
      by_cases fits : 1 + other.bytes < capabilities.maxWrite
      · obtain ⟨cuts, planned⟩ := programPlan_of_wide reached fits
        cases planned.symm.trans accepted
        rfl
      · rw [programPlan_of_narrow reached (Nat.le_of_not_lt fits)] at accepted
        cases accepted
  · intro reached
    exact programPlan_of_wide (reached_of_ok reached) wide

section Cases

variable (capabilities address length)

theorem erasePlan_cases :
    (∃ error, error ≠ .bufferTooLarge ∧ erasePlan capabilities address length = .error error) ∨
      ∃ width, Reached capabilities.features (address + length) width ∧
        erasePlan capabilities address length = .ok (width, sectors address length) := by
  by_cases misaligned : address % Opcode.sectorSize ≠ 0 ∨ length % Opcode.sectorSize ≠ 0
  · exact .inl ⟨.invalidAlignment, nofun, erasePlan_of_misaligned misaligned⟩
  have aligned : address % Opcode.sectorSize = 0 := by omega
  have whole : length % Opcode.sectorSize = 0 := by omega
  by_cases last : address + length = 0x100000000
  · have beyond : 0x100000000 ≤ address + length := Nat.le_of_eq last.symm
    exact .inl ⟨.addressOutOfBounds, nofun, erasePlan_of_beyond aligned whole beyond⟩
  rw [erasePlan_of_sectors aligned whole last]
  cases widths : addressWidthFor capabilities.features (address + length) with
  | error error => exact .inl ⟨error, ne_bufferTooLarge_of_refused widths, rfl⟩
  | ok width => exact .inr ⟨width, reached_of_ok widths, rfl⟩

theorem programPlan_cases :
    (∃ error, error ≠ .bufferTooLarge ∧
        programPlan capabilities address length = .error error ∧
        ∀ width, ¬ Reached capabilities.features (address + length) width) ∨
      ∃ width, Reached capabilities.features (address + length) width ∧
        (capabilities.maxWrite ≤ 1 + width.bytes ∧
            programPlan capabilities address length = .error .bufferTooLarge ∨
          1 + width.bytes < capabilities.maxWrite ∧
            ∃ plan, programPlan capabilities address length = .ok plan) := by
  cases widths : addressWidthFor capabilities.features (address + length) with
  | error error =>
    exact .inl ⟨error, ne_bufferTooLarge_of_refused widths, programPlan_of_unreached widths,
      (addressWidthFor_error widths).2⟩
  | ok width =>
    have reached := reached_of_ok widths
    refine .inr ⟨width, reached, ?_⟩
    by_cases wide : 1 + width.bytes < capabilities.maxWrite
    · obtain ⟨pieces, accepted⟩ := programPlan_of_wide reached wide
      exact .inr ⟨wide, _, accepted⟩
    · have narrow := Nat.le_of_not_lt wide
      exact .inl ⟨narrow, programPlan_of_narrow reached narrow⟩

end Cases

theorem wide_of_plan {pieces : List Piece}
    (accepted : programPlan capabilities address length = .ok (width, pieces)) :
    1 + width.bytes < capabilities.maxWrite := by
  rcases programPlan_cases capabilities address length with
    ⟨error, -, refused, -⟩ | ⟨other, reached, ⟨-, refused⟩ | ⟨wide, -⟩⟩
  · cases refused.symm.trans accepted
  · cases refused.symm.trans accepted
  · obtain ⟨found, planned⟩ := programPlan_of_wide reached wide
    cases planned.symm.trans accepted
    exact wide

theorem readPlan_cases (reached : Reached capabilities.features (address + length) width) :
    capabilities.maxRead = 0 ∧ readPlan capabilities address length = .error .bufferTooLarge ∨
      ∃ plan, readPlan capabilities address length = .ok plan := by
  rcases Nat.eq_zero_or_pos capabilities.maxRead with unreadable | readable
  · exact .inl ⟨unreadable, readPlan_of_unreadable reached unreadable⟩
  · exact .inr ⟨_, readPlan_of_readable reached readable⟩

end Plans

/-! ## Refusals -/

section Refusals

variable {σ : Type} {machine : Machine σ Master} {state : σ} {capabilities : Capabilities}
  {address : UInt32} {error : Error}

theorem readInto_refused {buffer : Bytes}
    (refused : readPlan capabilities address.toNat buffer.length = .error error) :
    (readInto capabilities address buffer).run machine state =
      ⟨⟨buffer, .error error⟩, state, [], []⟩ := by
  unfold readInto
  rw [refused]
  rfl

theorem read_refused {length : Nat}
    (refused : readPlan capabilities address.toNat length = .error error) :
    (read capabilities address length).run.run machine state = ⟨.error error, state, [], []⟩ := by
  unfold read
  rw [refused]
  rfl

theorem program_refused {data : Bytes}
    (refused : programPlan capabilities address.toNat data.length = .error error) :
    (program capabilities address data).run.run machine state = ⟨.error error, state, [], []⟩ := by
  unfold program
  rw [refused]
  rfl

theorem erase_refused {length : UInt32}
    (refused : erasePlan capabilities address.toNat length.toNat = .error error) :
    (erase capabilities address length).run.run machine state = ⟨.error error, state, [], []⟩ := by
  unfold erase
  rw [refused]
  rfl

end Refusals

end SpiProgrammer.Flash
