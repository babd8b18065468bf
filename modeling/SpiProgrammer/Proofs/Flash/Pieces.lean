import SpiProgrammer.Flash.Change
import SpiProgrammer.Flash.Read

/-! # The pieces of a range

Main statements: the pieces into which a range is cut follow one another without gaps from its
address to its end; none is empty, and none is larger than the size given for its address. -/
set_option autoImplicit false

namespace SpiProgrammer.Flash

open Spi

/-- The pieces follow one another from an address on, none is empty, and together they have this
length. -/
def Tiles : (address length : Nat) → List Piece → Prop
  | _, length, [] => length = 0
  | address, length, piece :: rest =>
    piece.address = address ∧ 0 < piece.length ∧ piece.length ≤ length ∧
      Tiles (address + piece.length) (length - piece.length) rest

variable {size : Nat → Nat} {address length : Nat} {pieces : List Piece} {piece : Piece}

theorem tiles_cut (positive : ∀ address, 0 < size address) (address length : Nat) :
    Tiles address length (cut size address length) := by
  fun_induction cut size address length with
  | case1 address length step nothing =>
    have some := positive address
    simp only [Tiles]
    omega
  | case2 address length step some ih =>
    exact ⟨rfl, Nat.pos_of_ne_zero some, Nat.min_le_right .., ih⟩

theorem length_le_of_mem_cut (member : piece ∈ cut size address length) :
    piece.length ≤ size piece.address := by
  fun_induction cut size address length with
  | case1 address length step nothing => cases member
  | case2 address length step some ih =>
    rcases List.mem_cons.mp member with rfl | later
    · exact Nat.min_le_left ..
    · exact ih later

theorem cut_nothing (size : Nat → Nat) (address : Nat) : cut size address 0 = [] := by
  rw [cut]
  simp

theorem length_of_mem_take_cut {size address length count : Nat}
    (short : count < (cut (fun _ => size) address length).length)
    (member : piece ∈ (cut (fun _ => size) address length).take count) : piece.length = size := by
  induction count generalizing address length with
  | zero => cases member
  | succ count ih =>
    rw [cut] at short member
    by_cases nothing : min size length = 0
    · simp only [dif_pos nothing, List.length_nil] at short
      omega
    · simp only [dif_neg nothing, List.length_cons, List.take_succ_cons, List.mem_cons]
        at short member
      rcases member with rfl | later
      · -- something is left, so the piece was not cut short
        have left : length - min size length ≠ 0 := by
          intro none
          rw [none, cut_nothing, List.length_nil] at short
          omega
        show min size length = size
        omega
      · exact ih (by omega) later

theorem Tiles.inside (tiles : Tiles address length pieces) (member : piece ∈ pieces) :
    0 < piece.length ∧ address ≤ piece.address ∧
      piece.address + piece.length ≤ address + length := by
  induction pieces generalizing address length with
  | nil => cases member
  | cons first rest ih =>
    obtain ⟨rfl, some, fits, follows⟩ := tiles
    rcases List.mem_cons.mp member with rfl | later
    · exact ⟨some, Nat.le_refl _, by omega⟩
    · obtain ⟨positive, above, below⟩ := ih follows later
      exact ⟨positive, by omega, by omega⟩

theorem Tiles.eq_nil (tiles : Tiles address 0 pieces) : pieces = [] := by
  cases pieces with
  | nil => rfl
  | cons piece rest =>
    obtain ⟨-, some, fits, -⟩ := tiles
    omega

/-! ## Plans -/

theorem addressWidthFor_ok {features : Features} {limit : Nat} {width : AddressWidth}
    (accepted : addressWidthFor features limit = .ok width) :
    limit ≤ width.size ∧ width ≠ .absent := by
  unfold addressWidthFor at accepted
  split at accepted
  · cases accepted
    exact ⟨by assumption, nofun⟩
  split at accepted
  · cases accepted
  split at accepted
  · cases accepted
    exact ⟨by omega, nofun⟩
  · cases accepted

theorem size_le (width : AddressWidth) : width.size ≤ 0x100000000 := by
  cases width <;> decide

theorem toNat_place {width : AddressWidth} {address : Nat} (below : address < width.size) :
    (UInt32.ofNat address).toNat = address :=
  UInt32.toNat_ofNat_of_lt' (Nat.lt_of_lt_of_le below (size_le width))

theorem pageRest_pos (address : Nat) : 0 < pageRest address := by
  simp only [pageRest, Opcode.pageSize]
  omega

/-- What is known of the pieces in which a range is programmed. -/
structure Programmable (capabilities : Capabilities) (address length : Nat)
    (width : AddressWidth) (pieces : List Piece) : Prop where
  present : width ≠ .absent
  reached : address + length ≤ width.size
  tiles : Tiles address length pieces
  inPage : ∀ piece ∈ pieces, piece.address % Opcode.pageSize + piece.length ≤ Opcode.pageSize
  fits : ∀ piece ∈ pieces, 1 + width.bytes + piece.length ≤ capabilities.maxWrite

theorem Programmable.below {capabilities : Capabilities} {width : AddressWidth}
    (plan : Programmable capabilities address length width pieces) (member : piece ∈ pieces) :
    piece.address < width.size := by
  have reached := plan.reached
  have inside := plan.tiles.inside member
  omega

theorem programmable_of_plan {capabilities : Capabilities} {width : AddressWidth}
    (accepted : programPlan capabilities address length = .ok (width, pieces)) :
    Programmable capabilities address length width pieces := by
  unfold programPlan at accepted
  cases widths : addressWidthFor capabilities.features (address + length) with
  | error error =>
    rw [widths] at accepted
    cases accepted
  | ok found =>
    rw [widths] at accepted
    by_cases nothing : capabilities.maxWrite - (1 + found.bytes) = 0
    · simp only [bind, Except.bind, nothing, if_true] at accepted
      cases accepted
    · simp only [bind, Except.bind, nothing, if_false] at accepted
      cases accepted
      obtain ⟨reached, present⟩ := addressWidthFor_ok widths
      let room := capabilities.maxWrite - (1 + width.bytes)
      have positive (place : Nat) : 0 < min (pageRest place) room := by
        have page := pageRest_pos place
        omega
      refine ⟨present, reached, tiles_cut positive address length, ?_, ?_⟩
      · intro piece member
        have bound := length_le_of_mem_cut member
        have page : piece.length ≤ pageRest piece.address := Nat.le_trans bound (Nat.min_le_left ..)
        simp only [pageRest, Opcode.pageSize] at page ⊢
        omega
      · intro piece member
        have bound := length_le_of_mem_cut member
        have fits : piece.length ≤ room := Nat.le_trans bound (Nat.min_le_right ..)
        omega

structure Readable (capabilities : Capabilities) (address length : Nat) (width : AddressWidth)
    (pieces : List Piece) : Prop where
  present : width ≠ .absent
  reached : address + length ≤ width.size
  tiles : Tiles address length pieces
  some : 1 ≤ capabilities.maxRead
  fits : ∀ piece ∈ pieces, piece.length ≤ capabilities.maxRead

theorem readable_of_plan {capabilities : Capabilities} {width : AddressWidth}
    (accepted : readPlan capabilities address length = .ok (width, pieces)) :
    Readable capabilities address length width pieces := by
  unfold readPlan at accepted
  cases widths : addressWidthFor capabilities.features (address + length) with
  | error error =>
    rw [widths] at accepted
    cases accepted
  | ok found =>
    rw [widths] at accepted
    by_cases nothing : capabilities.maxRead = 0
    · simp only [bind, Except.bind, nothing, if_true] at accepted
      cases accepted
    · simp only [bind, Except.bind, nothing, if_false] at accepted
      cases accepted
      obtain ⟨reached, present⟩ := addressWidthFor_ok widths
      have positive := Nat.pos_of_ne_zero nothing
      exact ⟨present, reached, tiles_cut (fun _ => positive) address length, positive,
        fun piece member => length_le_of_mem_cut member⟩

structure Erasable (address length : Nat) (width : AddressWidth) (found : List Nat) : Prop where
  aligned : address % Opcode.sectorSize = 0
  whole : length % Opcode.sectorSize = 0
  present : width ≠ .absent
  reached : address + length ≤ width.size
  sectors : found = Flash.sectors address length

theorem erasable_of_plan {capabilities : Capabilities} {width : AddressWidth} {found : List Nat}
    (accepted : erasePlan capabilities address length = .ok (width, found)) :
    Erasable address length width found := by
  unfold erasePlan at accepted
  by_cases misaligned : address % Opcode.sectorSize ≠ 0 ∨ length % Opcode.sectorSize ≠ 0
  · rw [if_pos misaligned] at accepted
    cases accepted
  rw [if_neg misaligned] at accepted
  by_cases beyond : 0x100000000 ≤ address + length
  · simp only [if_pos beyond] at accepted
    cases accepted
  simp only [if_neg beyond] at accepted
  cases widths : addressWidthFor capabilities.features (address + length) with
  | error error =>
    rw [widths] at accepted
    cases accepted
  | ok found =>
    rw [widths] at accepted
    cases accepted
    obtain ⟨reached, present⟩ := addressWidthFor_ok widths
    exact ⟨by omega, by omega, present, reached, rfl⟩

end SpiProgrammer.Flash
