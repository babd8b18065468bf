import SpiProgrammer.Proofs.Flash.Asking
import SpiProgrammer.Proofs.Flash.Containment
import SpiProgrammer.Proofs.Flash.Pace
import SpiProgrammer.Proofs.Flash.Ranges

/-! # The plan of page programs

A range is programmed by a plan that is made beforehand, and the commands that are executed are a
first part of it.  Each piece takes as much as its place allows.  From a place further on such a
step leads at least as far, so no other way to cut the range falls behind with fewer pieces.

Main statement: whatever the master answers, the page programs are those of the pieces of one plan,
in order and as far as they go; each piece carries its slice of the data inside one page and one
transaction, and no plan within these limits has fewer pieces. -/
set_option autoImplicit false

namespace SpiProgrammer.Flash

open Spi

/-! ## The fewest pieces -/

/-- A step from a place further on leads at least as far. -/
def LeadsOn (size : Nat → Nat) : Prop :=
  ∀ ⦃behind ahead : Nat⦄, behind ≤ ahead → behind + size behind ≤ ahead + size ahead

/-- Cutting off as much as each place allows stays ahead of any other tiling within the sizes. -/
theorem length_cut_le {size : Nat → Nat} (leadsOn : LeadsOn size) {other : List Piece} :
    ∀ {behind left address length : Nat}, Tiles behind left other →
      (∀ piece ∈ other, piece.length ≤ size piece.address) → behind ≤ address →
      address + length = behind + left → (cut size address length).length ≤ other.length := by
  -- on the other tiling; the cut is at least as far along with the same number of pieces
  induction other with
  | nil =>
    intro behind left address length tiles _ further stop
    have nothing : length = 0 := by
      simp only [Tiles] at tiles
      omega
    simp [nothing, cut_nothing]
  | cons piece rest ih =>
    intro behind left address length tiles bounded further stop
    obtain ⟨rfl, some, fits, follows⟩ := tiles
    rw [cut]
    by_cases nothing : min (size address) length = 0
    · rw [dif_pos nothing]
      exact Nat.zero_le _
    · rw [dif_neg nothing, List.length_cons, List.length_cons]
      have reach := leadsOn further
      have bound := bounded piece (List.mem_cons_self ..)
      have later (other : Piece) (member : other ∈ rest) : other.length ≤ size other.address :=
        bounded other (List.mem_cons_of_mem _ member)
      exact Nat.succ_le_succ (ih follows later (by omega) (by omega))

theorem programRoom_leadsOn (capabilities : Capabilities) (width : AddressWidth) :
    LeadsOn (programRoom capabilities width) := by
  intro behind ahead further
  simp only [programRoom, pageRest, Opcode.pageSize]
  omega

theorem length_le_programRoom {capabilities : Capabilities} {width : AddressWidth} {piece : Piece}
    (inPage : piece.address % Opcode.pageSize + piece.length ≤ Opcode.pageSize)
    (fits : 1 + width.bytes + piece.length ≤ capabilities.maxWrite) :
    piece.length ≤ programRoom capabilities width piece.address := by
  simp only [programRoom, pageRest, Opcode.pageSize] at inPage ⊢
  omega

/-! ## Following a plan -/

def change? (event : Master.Event) : Option Command :=
  (executed? event).bind fun executed =>
    if (pollsAfter? executed.command.opcode).isSome then some executed.command else none

theorem changes_eq (events : List Master.Event) : changes events = events.filterMap change? := by
  induction events with
  | nil => rfl
  | cons event rest ih =>
    obtain ⟨request, reply⟩ := event
    cases request with
    | delay time => exact ih
    | execute command =>
      rw [changes_cons, ih]
      by_cases change : (pollsAfter? command.opcode).isSome
      · simp [change?, executed?, change]
      · simp [change?, executed?, change]

/-- A command is followed if it is the next of those that are planned. -/
def planned? : List Command → Command → Option (List Command)
  | [], _ => none
  | next :: later, command => if command = next then some later else none

theorem foldlM_planned? {plan left commands : List Command}
    (followed : commands.foldlM planned? plan = some left) : plan = commands ++ left := by
  induction commands generalizing plan with
  | nil => exact Option.some.inj followed
  | cons command rest ih =>
    rw [List.foldlM_cons] at followed
    obtain ⟨later, step, rests⟩ := Option.bind_eq_some_iff.mp followed
    cases plan with
    | nil => cases step
    | cons next others =>
      by_cases same : command = next
      · rw [planned?, if_pos same] at step
        cases step
        rw [same, ih rests]
        rfl
      · rw [planned?, if_neg same] at step
        cases step

/-- Watches that each change of the memory is the next that is planned. -/
def following : Watch (List Command) Master :=
  .seeing change? planned?

def Unchanging : MasterRequest → Prop
  | .execute command => pollsAfter? command.opcode = none
  | .delay _ => True

theorem unchanging_serves : Serves Unchanging where
  looks := rfl
  delays _ := trivial
  enables := rfl

theorem following_unchanging (plan : List Command) (r : MasterRequest) (reply : MasterReply r)
    (unchanging : Unchanging r) : following plan ⟨r, reply⟩ = some plan := by
  cases r with
  | delay time => rfl
  | execute command =>
    have none : pollsAfter? command.opcode = none := unchanging
    simp [following, Watch.seeing, change?, executed?, none]

/-- An operation that succeeds has carried out its own commands, and what is left are those of the
others. -/
def CarriesOut (own : List Command) (operation : Operation Unit) : Prop :=
  ∀ others : List Command, operation.run.Obeys following
    (fun outcome left => (outcome = .ok () → left = others)) (own ++ others)

theorem change_carriesOut {command : Command} (change : (pollsAfter? command.opcode).isSome)
    (pause timeout : Nat) :
    CarriesOut [command] (do writeEnable; perform command; waitReady pause timeout) := by
  intro others
  have enables : writeEnable.run.Obeys following (fun _ left => left = command :: others)
      (command :: others) :=
    Dialogue.obeys_of_asks (writeEnable_asks unchanging_serves) (following_unchanging _)
  have waits : (waitReady pause timeout).run.Obeys following (fun _ left => left = others)
      others :=
    Dialogue.obeys_of_asks (waitReady_asks unchanging_serves.toWaits pause timeout)
      (following_unchanging _)
  have performs : (perform command).run.Obeys following (fun _ left => left = others)
      (command :: others) := by
    intro reply
    refine ⟨others, ?_, rfl⟩
    simp [following, Watch.seeing, change?, executed?, change, planned?]
  refine enables.step (fun _ _ _ failed => by cases failed) ?_
  rintro _ _ rfl
  refine performs.step (fun _ _ _ failed => by cases failed) ?_
  rintro _ _ rfl
  exact waits.imp fun _ _ same _ => same

theorem CarriesOut.then {own later : List Command} {first rest : Operation Unit}
    (carries : CarriesOut own first) (follows : CarriesOut later rest) :
    CarriesOut (own ++ later) (do first; rest) := by
  intro others
  rw [List.append_assoc]
  refine (carries (later ++ others)).step (fun _ _ _ failed => by cases failed) ?_
  rintro _ left done
  rw [done rfl]
  exact follows others

theorem CarriesOut.run {plan : List Command} {operation : Operation Unit}
    (carries : CarriesOut plan operation) {σ : Type} (machine : Machine σ Master) (state : σ) :
    let ran := operation.run.run machine state
    changes ran.events <+: plan ∧ (ran.value = .ok () → changes ran.events = plan) := by
  intro ran
  obtain ⟨left, followed, ends⟩ := (carries []).shown machine state
  rw [List.append_nil, ← changes_eq] at followed
  have split : plan = changes ran.events ++ left := foldlM_planned? followed
  refine ⟨⟨left, split.symm⟩, fun well => ?_⟩
  rw [ends well, List.append_nil] at split
  exact split.symm

/-! ## Pieces of the data -/

/-- The part of the data that belongs to a piece, where the data begin at `start`. -/
def Piece.slice (start : Nat) (data : Bytes) (piece : Piece) : Bytes :=
  (data.drop (piece.address - start)).take piece.length

def Piece.programming (width : AddressWidth) (start : Nat) (data : Bytes) (piece : Piece) :
    Command :=
  .write (Opcode.programPage width) (.ofNat piece.address) width (piece.slice start data)

theorem Piece.slice_drop {start step : Nat} {piece : Piece} (behind : start + step ≤ piece.address)
    (data : Bytes) : piece.slice (start + step) (data.drop step) = piece.slice start data := by
  unfold slice
  rw [List.drop_drop]
  congr 2
  omega

theorem programPieces_carriesOut {width : AddressWidth} {pieces : List Piece} :
    ∀ {start length : Nat} (data : Bytes), Tiles start length pieces →
      CarriesOut (pieces.map (Piece.programming width start data))
        (programPieces width pieces data) := by
  induction pieces with
  | nil => exact fun _ _ others _ => rfl
  | cons piece rest ih =>
    intro start length data tiles
    obtain ⟨rfl, some, fits, follows⟩ := tiles
    have change : (pollsAfter? (Opcode.programPage width)).isSome := by
      rw [pollsAfter?_programPage]
      rfl
    have own : piece.programming width piece.address data =
        .write (Opcode.programPage width) (.ofNat piece.address) width (data.take piece.length) := by
      rw [Piece.programming, Piece.slice, Nat.sub_self, List.drop_zero]
    have later : rest.map (Piece.programming width (piece.address + piece.length)
        (data.drop piece.length)) = rest.map (Piece.programming width piece.address data) := by
      refine List.map_congr_left fun other member => ?_
      rw [Piece.programming, Piece.slice_drop (follows.inside member).2.1, Piece.programming]
    have page := @change_carriesOut
      (.write (Opcode.programPage width) (.ofNat piece.address) width (data.take piece.length))
      change 10 10000
    have reported : CarriesOut (rest.map (Piece.programming width (piece.address + piece.length)
        (data.drop piece.length))) (do
          progress piece.length
          programPieces width rest (data.drop piece.length)) := ih _ follows
    rw [List.map_cons, own, ← later]
    exact page.then reported

section Plan

variable {capabilities : Capabilities} {address length : Nat} {width : AddressWidth}
  {pieces : List Piece}

/-- What is sent of a piece is whole, and goes to its own address. -/
structure Piece.Placed (width : AddressWidth) (start : Nat) (data : Bytes) (piece : Piece) :
    Prop where
  some : 0 < piece.length
  whole : (piece.slice start data).length = piece.length
  below : piece.address < width.size
  encoded : Bytes.toNatBE (width.encode (.ofNat piece.address)) = piece.address

theorem Programmable.placed {data : Bytes}
    (plan : Programmable capabilities address data.length width pieces) {piece : Piece}
    (member : piece ∈ pieces) : piece.Placed width address data := by
  obtain ⟨some, above, inside⟩ := plan.tiles.inside member
  have below := plan.below member
  have place := toNat_place below
  refine ⟨some, ?_, below, ?_⟩
  · rw [Piece.slice, List.length_take_of_le]
    rw [List.length_drop]
    omega
  · rw [width.toNatBE_encode _ (by rwa [place]), place]

theorem length_le_of_plan (reached : Reached capabilities.features (address + length) width)
    (wide : 1 + width.bytes < capabilities.maxWrite)
    (accepted : programPlan capabilities address length = .ok (width, pieces)) {other : List Piece}
    (tiles : Tiles address length other)
    (inPage : ∀ piece ∈ other, piece.address % Opcode.pageSize + piece.length ≤ Opcode.pageSize)
    (fits : ∀ piece ∈ other, 1 + width.bytes + piece.length ≤ capabilities.maxWrite) :
    pieces.length ≤ other.length := by
  rw [programPlan_eq_cut reached wide] at accepted
  cases accepted
  exact length_cut_le (programRoom_leadsOn capabilities width) tiles
    (fun piece member => length_le_programRoom (inPage piece member) (fits piece member))
    (Nat.le_refl _) rfl

end Plan

/-- For a range that is reached by a master that can send a datum behind the header, there is one
plan.  Its pieces tile the range, each with its slice of the data, within the limits of the page and
the transaction, and as few as these allow; and on every master the page programs are those of its
first pieces, and of all of them after a success. -/
theorem page_programs_follow_fewest_pieces (capabilities : Capabilities) (address : UInt32)
    (data : Bytes) {width : AddressWidth}
    (reached : Reached capabilities.features (address.toNat + data.length) width)
    (wide : 1 + width.bytes < capabilities.maxWrite) :
    ∃ pieces, Programmable capabilities address.toNat data.length width pieces ∧
      (∀ piece ∈ pieces, piece.Placed width address.toNat data) ∧
      (∀ other, Tiles address.toNat data.length other →
        (∀ piece ∈ other,
          piece.address % Opcode.pageSize + piece.length ≤ Opcode.pageSize) →
        (∀ piece ∈ other, 1 + width.bytes + piece.length ≤ capabilities.maxWrite) →
        pieces.length ≤ other.length) ∧
      ∀ (σ : Type) (machine : Machine σ Master) (state : σ),
        let ran := (program capabilities address data).run.run machine state
        let planned := pieces.map (Piece.programming width address.toNat data)
        changes ran.events <+: planned ∧ (ran.value = .ok () → changes ran.events = planned) := by
  obtain ⟨pieces, accepted⟩ := programPlan_of_wide reached wide
  have plan := programmable_of_plan accepted
  refine ⟨pieces, plan, fun piece => plan.placed, fun other => length_le_of_plan reached wide
    accepted, fun σ machine state => ?_⟩
  rw [program_of_plan accepted]
  exact (programPieces_carriesOut data plan.tiles).run machine state

/-- Three bytes over the end of a page, two of which fit a transaction: two pieces, of which the
second is not reached if the first page program fails. -/
theorem page_programs_over_page_end :
    let wired : Wired := { chip := {}, failures := [(2, .transferFailed)] }
    let ran := (program ⟨{}, 1, 6⟩ 0xFE [0x0F, 0xF0, 0x33]).run.run Wired.machine wired
    (Reached {} (0xFE + 3) .three ∧ 1 + AddressWidth.bytes .three < 6) ∧
      ∃ pieces, Programmable ⟨{}, 1, 6⟩ 0xFE 3 .three pieces ∧ pieces.length ≤ 2 ∧
        changes ran.events <+: pieces.map (Piece.programming .three 0xFE [0x0F, 0xF0, 0x33]) := by
  intro wired
  have reached : Reached {} (0xFE + 3) .three := .three (by decide)
  have wide : 1 + AddressWidth.bytes .three < 6 := by decide
  obtain ⟨pieces, plan, -, fewest, follows⟩ := page_programs_follow_fewest_pieces ⟨{}, 1, 6⟩ 0xFE
    [0x0F, 0xF0, 0x33] reached wide
  have tiles : Tiles 0xFE 3 [⟨0xFE, 2⟩, ⟨0x100, 1⟩] := by simp [Tiles]
  exact ⟨⟨reached, wide⟩, pieces, plan, fewest _ tiles (by decide) (by decide),
    (follows _ Wired.machine wired).1⟩

end SpiProgrammer.Flash
