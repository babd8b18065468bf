import Mathlib.Algebra.GroupWithZero.Nat
import SpiProgrammer.Proofs.Flash.Driving
import SpiProgrammer.Proofs.Flash.Pieces

/-! # What a failure leaves of programming and erasing

Main statements, for every master that drives a chip: after programming pieces, successfully or
not, the memory is the old one with a first part of the data programmed, which covers the pieces
reported and reaches at most through the next; and after erasing sectors it is the old one with a
first part of the sectors erased, those reported and at most the next. -/
set_option autoImplicit false

namespace SpiProgrammer.Flash

open Spi

/-! ## Nothing but the loops reports progress -/

theorem utters_perform (command : Command) : (perform command).run.Utters Notice.IsLog :=
  fun _ => trivial

theorem utters_readStatus : readStatus.run.Utters Notice.IsLog :=
  fun reply => by
    rcases reply with ⟨bytes, outcome⟩
    cases outcome <;> trivial

theorem utters_pollUntilReady (pause limit : Nat) :
    (pollUntilReady pause limit).run.Utters Notice.IsLog := by
  induction limit with
  | zero => trivial
  | succ limit ih =>
    refine Dialogue.utters_bind_except utters_readStatus fun status => ?_
    by_cases ready : status &&& Opcode.busyBit = 0
    · rw [if_pos ready]
      trivial
    rw [if_neg ready]
    by_cases pauses : pause > 0
    · rw [if_pos pauses]
      exact Dialogue.utters_bind_except (fun _ => trivial) fun _ => ih
    · rw [if_neg pauses]
      exact ih

theorem utters_waitReady (pause timeout : Nat) :
    (waitReady pause timeout).run.Utters Notice.IsLog := by
  refine Dialogue.utters_bind_except (utters_pollUntilReady pause _) fun ready => ?_
  cases ready with
  | true => trivial
  | false => exact ⟨⟨_, rfl⟩, trivial⟩

theorem utters_change (command : Command) (pause timeout : Nat) :
    (do writeEnable; perform command; waitReady pause timeout :
      Operation Unit).run.Utters Notice.IsLog :=
  Dialogue.utters_bind_except (utters_perform _) fun _ =>
    Dialogue.utters_bind_except (utters_perform _) fun _ => utters_waitReady pause timeout

section Reports

variable {σ : Type} {machine : Machine σ Master} {part rest : Operation Unit} {state next : σ}

theorem reporting_error (count : Nat) {error : Error} (logs : part.run.Utters Notice.IsLog)
    (went : part.run.answer machine state = (.error error, next)) :
    let loop := (do part; progress count; rest : Operation Unit).run
    loop.answer machine state = (.error error, next) ∧ loop.progressed machine state = [] := by
  intro loop
  refine ⟨Dialogue.answer_bind_error machine _ _ went, ?_⟩
  rw [Dialogue.progressed_bind_error went]
  exact Dialogue.progressed_of_utters logs state

theorem reporting_ok (count : Nat) (logs : part.run.Utters Notice.IsLog)
    (went : part.run.answer machine state = (.ok (), next)) :
    let loop := (do part; progress count; rest : Operation Unit).run
    loop.answer machine state = rest.run.answer machine next ∧
      loop.progressed machine state = count :: rest.run.progressed machine next := by
  intro loop
  have reports := Dialogue.answer_lift (ε := Error) machine (Dialogue.tell (.progress count)) next
  constructor
  · rw [Dialogue.answer_bind_ok machine _ _ went]
    exact Dialogue.answer_bind_ok machine _ (fun _ => rest) reports
  · rw [Dialogue.progressed_bind_ok went, Dialogue.progressed_of_utters logs state]
    exact @Dialogue.progressed_bind_ok _ _ _ _ _ machine _ (fun _ => rest) _ _ _ reports

theorem reporting_course (count : Nat) {events : List Master.Event}
    (went : part.run.course machine state = ⟨.ok (), next, events⟩) :
    (do part; progress count; rest : Operation Unit).run.course machine state =
      let later := rest.run.course machine next
      ⟨later.value, later.state, events ++ later.events⟩ := by
  have reports := Dialogue.course_lift (ε := Error) machine (Dialogue.tell (.progress count)) next
  rw [Dialogue.course_bind_ok machine _ _ went,
    Dialogue.course_bind_ok machine _ (fun _ => rest) reports]
  rfl

end Reports

/-! ## Programming -/

/-- How many bytes the first pieces of a list have. -/
def covered (pieces : List Piece) (count : Nat) : Nat :=
  ((pieces.take count).map Piece.length).sum

theorem covered_zero (pieces : List Piece) : covered pieces 0 = 0 := rfl

theorem covered_succ (piece : Piece) (rest : List Piece) (count : Nat) :
    covered (piece :: rest) (count + 1) = piece.length + covered rest count := by
  rw [covered, List.take_succ_cons, List.map_cons, List.sum_cons, covered]

theorem covered_le_succ (pieces : List Piece) (count : Nat) :
    covered pieces count ≤ covered pieces (count + 1) := by
  induction pieces generalizing count with
  | nil => simp [covered]
  | cons piece rest ih =>
    cases count with
    | zero => exact Nat.zero_le _
    | succ count =>
      rw [covered_succ, covered_succ]
      exact Nat.add_le_add_left (ih count) _

theorem Tiles.covered_all {address length : Nat} {pieces : List Piece}
    (tiles : Tiles address length pieces) : covered pieces pieces.length = length := by
  induction pieces generalizing address length with
  | nil => exact tiles.symm
  | cons piece rest ih =>
    obtain ⟨-, -, fits, follows⟩ := tiles
    rw [List.length_cons, covered_succ, ih follows]
    omega

theorem Tiles.covered_le {address length : Nat} {pieces : List Piece}
    (tiles : Tiles address length pieces) (count : Nat) : covered pieces count ≤ length := by
  induction pieces generalizing address length count with
  | nil =>
    rw [covered, List.take_nil]
    exact Nat.zero_le _
  | cons piece rest ih =>
    obtain ⟨-, -, fits, follows⟩ := tiles
    cases count with
    | zero => exact Nat.zero_le _
    | succ count =>
      have later := ih follows count
      rw [covered_succ]
      omega

theorem Tiles.covered_next {address length : Nat} {pieces : List Piece}
    (tiles : Tiles address length pieces) {count : Nat} {piece : Piece}
    (next : pieces[count]? = some piece) :
    address + covered pieces (count + 1) = piece.address + piece.length := by
  induction pieces generalizing address length count with
  | nil => cases next
  | cons first rest ih =>
    obtain ⟨rfl, -, -, follows⟩ := tiles
    cases count with
    | zero =>
      cases next
      rw [covered_succ, covered_zero, Nat.add_zero]
    | succ count =>
      have later := ih follows next
      rw [covered_succ]
      omega

section Containment

variable {σ : Type} {machine : Machine σ Master} {chip : σ → Chip} {Sound : σ → Prop}
  {width : AddressWidth}

/-- What is left when pieces have been programmed up to a place: how many of them were reported,
how many bytes were reached, and how it ended. -/
structure ProgrammedUpTo (pieces : List Piece) (start : Nat) (data : Bytes) (before after : Memory)
    (reports : List Nat) (outcome : Except Error Unit) (count reach : Nat) : Prop where
  reported : reports = (pieces.take count).map Piece.length
  atLeast : covered pieces count ≤ reach
  atMost : reach ≤ covered pieces (count + 1)
  burned : Burned start (data.take reach) before after
  finished : outcome = .ok () → count = pieces.length
  stopped : ∀ error, outcome = .error error → count < pieces.length

section Pieces

variable {piece : Piece} {rest : List Piece} {data : Bytes} {before between after : Memory}
  {reports : List Nat} {outcome : Except Error Unit} {count reach : Nat}

theorem ProgrammedUpTo.stops (within : reach ≤ piece.length)
    (burned : Burned piece.address (data.take reach) before after) (error : Error) :
    ProgrammedUpTo (piece :: rest) piece.address data before after [] (.error error) 0 reach := by
  refine ⟨rfl, Nat.zero_le _, ?_, burned, nofun, fun _ _ => Nat.succ_pos _⟩
  rw [covered_succ, covered_zero]
  omega

theorem ProgrammedUpTo.cons (fits : piece.length ≤ data.length)
    (burned : Burned piece.address (data.take piece.length) before between)
    (later : ProgrammedUpTo rest (piece.address + piece.length) (data.drop piece.length) between
      after reports outcome count reach) :
    ProgrammedUpTo (piece :: rest) piece.address data before after (piece.length :: reports) outcome
      (count + 1) (piece.length + reach) := by
  have front : (data.take piece.length).length = piece.length := List.length_take_of_le fits
  have atLeast := later.atLeast
  have atMost := later.atMost
  refine ⟨?_, ?_, ?_, ?_, ?_, ?_⟩
  · rw [later.reported, List.take_succ_cons, List.map_cons]
  · rw [covered_succ]
    omega
  · rw [covered_succ]
    omega
  · rw [List.take_add]
    exact burned.append (front.symm ▸ later.burned)
  · exact fun well => congrArg Nat.succ (later.finished well)
  · exact fun error failed => Nat.succ_lt_succ (later.stopped error failed)

end Pieces

theorem programPieces_driven (drives : Drives machine chip Sound) (present : width ≠ .absent)
    {pieces : List Piece} :
    ∀ {start : Nat} {data : Bytes} {state : σ}, Sound state →
      Tiles start data.length pieces → start + data.length ≤ width.size →
      (∀ piece ∈ pieces, piece.address % Opcode.pageSize + piece.length ≤ Opcode.pageSize) →
      let operation := (programPieces width pieces data).run
      let ran := operation.answer machine state
      Sound ran.2 ∧ ∃ count reach, ProgrammedUpTo pieces start data (chip state).memory
        (chip ran.2).memory (operation.progressed machine state) ran.1 count reach := by
  -- on the pieces; the data that are left and their address move along with them
  induction pieces with
  | nil =>
    intro start data state sound tiles reached inPage
    refine ⟨sound, 0, 0, rfl, Nat.le_refl _, Nat.le_refl _, burned_nothing _ _, fun _ => rfl, nofun⟩
  | cons piece rest ih =>
    intro start data state sound tiles reached inPage
    obtain ⟨rfl, some, fits, follows⟩ := tiles
    have place := @toNat_place width piece.address (by omega)
    have front : (data.take piece.length).length = piece.length := List.length_take_of_le fits
    have left : (data.drop piece.length).length = data.length - piece.length :=
      List.length_drop ..
    have page := programPage_driven drives sound (.ofNat piece.address) (data.take piece.length)
      present (by omega) (by rw [place, front]; exact inPage piece (List.mem_cons_self ..))
    have logs : (programPage (.ofNat piece.address) width
        (data.take piece.length)).run.Utters Notice.IsLog := utters_change _ 10 10000
    rw [place] at page
    unfold Dialogue.Ensures at page
    rcases went : (programPage (.ofNat piece.address) width (data.take piece.length)).run.answer
      machine state with ⟨outcome, next⟩
    rw [went] at page
    simp only [programPieces]
    cases outcome with
    | error error =>
      obtain ⟨stays, reach, within, burned⟩ := page
      obtain ⟨ends, reports⟩ := @reporting_error _ _ _
        (programPieces width rest (data.drop piece.length)) _ _ piece.length _ logs went
      rw [List.take_take, Nat.min_eq_left (by omega)] at burned
      rw [ends, reports]
      exact ⟨stays, 0, reach, .stops (by omega) burned error⟩
    | ok _ =>
      obtain ⟨stays, burned⟩ := page
      obtain ⟨ends, reports⟩ := @reporting_ok _ _ _
        (programPieces width rest (data.drop piece.length)) _ _ piece.length logs went
      obtain ⟨sound, count, reach, later⟩ := @ih (piece.address + piece.length)
        (data.drop piece.length) next stays (left ▸ follows) (by omega)
        fun other member => inPage other (List.mem_cons_of_mem _ member)
      rw [ends, reports]
      exact ⟨sound, count + 1, piece.length + reach, .cons fits burned later⟩

/-- What is left of programming a range, whole or not: nothing has changed outside, inside a byte
is what it was or its conjunction with its datum, and it is the latter in the pieces reported. -/
structure WriteContained (start : Nat) (data : Bytes) (pieces : List Piece) (before after : Memory)
    (reports : List Nat) (outcome : Except Error Unit) (count : Nat) : Prop where
  reported : reports = (pieces.take count).map Piece.length
  outside : ∀ place, place < start ∨ start + data.length ≤ place →
    after.get place = before.get place
  inside : ∀ index (within : index < data.length),
    after.get (start + index) = before.get (start + index) ∨
      after.get (start + index) = before.get (start + index) &&& data[index]
  done : ∀ index (within : index < data.length), index < reports.sum →
    after.get (start + index) = before.get (start + index) &&& data[index]
  /-- Behind the piece after those reported nothing has changed. -/
  behind : ∀ piece, pieces[count]? = some piece → ∀ place, piece.address + piece.length ≤ place →
    after.get place = before.get place
  complete : outcome = .ok () → reports.sum = data.length
  stopped : ∀ error, outcome = .error error → count < pieces.length

theorem ProgrammedUpTo.contained {pieces : List Piece} {start : Nat} {data : Bytes}
    {before after : Memory} {reports : List Nat} {outcome : Except Error Unit} {count reach : Nat}
    (upTo : ProgrammedUpTo pieces start data before after reports outcome count reach)
    (tiles : Tiles start data.length pieces) :
    WriteContained start data pieces before after reports outcome count := by
  obtain ⟨rfl, atLeast, atMost, burned, finished, stopped⟩ := upTo
  have whole := tiles.covered_le (count + 1)
  have taken : (data.take reach).length = reach := List.length_take_of_le (by omega)
  refine ⟨rfl, ?_, ?_, ?_, ?_, ?_, stopped⟩
  · intro place outside
    rw [burned place, Chip.burned_outside (by omega)]
  · intro index within
    rw [burned (start + index), Chip.burned_take within]
    split
    · exact .inr rfl
    · exact .inl rfl
  · intro index within reported
    have reached : index < reach := Nat.lt_of_lt_of_le reported atLeast
    rw [burned (start + index), Chip.burned_take within, if_pos reached]
  · intro piece next place behind
    have last := tiles.covered_next next
    rw [burned place, Chip.burned_outside (by omega)]
  · intro well
    rw [finished well]
    exact tiles.covered_all

/-! ## Erasing -/

/-- The addresses from `start` up to `stop` have been erased, and nothing else has changed. -/
def Wiped (start stop : Nat) (before after : Memory) : Prop :=
  ∀ address, after.get address =
    if start ≤ address ∧ address < stop then Memory.erasedByte else before.get address

theorem wiped_nothing (start : Nat) (memory : Memory) : Wiped start start memory memory := by
  intro address
  rw [if_neg (by omega)]

theorem wiped_eraseSector {start : Nat} (aligned : start % Opcode.sectorSize = 0)
    (memory : Memory) :
    Wiped start (start + Opcode.sectorSize) memory (memory.eraseSector start) := by
  intro address
  have within : Memory.sectorOf start = Memory.sectorOf address ↔
      start ≤ address ∧ address < start + Opcode.sectorSize := by
    simp only [Memory.sectorOf, Opcode.sectorSize] at aligned ⊢
    omega
  rw [Memory.get_eraseSector]
  by_cases same : Memory.sectorOf start = Memory.sectorOf address
  · rw [if_pos same, if_pos (within.mp same)]
  · rw [if_neg same, if_neg fun inside => same (within.mpr inside)]

theorem Wiped.append {start middle stop : Nat} {before between after : Memory}
    (first : Wiped start middle before between) (second : Wiped middle stop between after)
    (ordered : start ≤ middle) (later : middle ≤ stop) : Wiped start stop before after := by
  intro address
  rw [second address, first address]
  by_cases inSecond : middle ≤ address ∧ address < stop
  · rw [if_pos inSecond, if_pos (by omega)]
  rw [if_neg inSecond]
  by_cases inFirst : start ≤ address ∧ address < middle
  · rw [if_pos inFirst, if_pos (by omega)]
  · rw [if_neg inFirst, if_neg (by omega)]

theorem Wiped.cons {sector count : Nat} {before after : Memory}
    (aligned : sector % Opcode.sectorSize = 0)
    (later : Wiped (sector + Opcode.sectorSize)
      (sector + Opcode.sectorSize + count * Opcode.sectorSize) (before.eraseSector sector) after) :
    Wiped sector (sector + (count + 1) * Opcode.sectorSize) before after := by
  have first := wiped_eraseSector aligned before
  have stop : sector + Opcode.sectorSize + count * Opcode.sectorSize =
      sector + (count + 1) * Opcode.sectorSize := by
    rw [Nat.succ_mul]
    omega
  rw [← stop]
  exact first.append later (Nat.le_add_right _ _) (Nat.le_add_right _ _)

/-- The sectors follow one another from an address on. -/
def Rows : (start : Nat) → List Nat → Prop
  | _, [] => True
  | start, sector :: rest => sector = start ∧ Rows (start + Opcode.sectorSize) rest

theorem rows_sectors (address length : Nat) : Rows address (sectors address length) := by
  unfold sectors
  generalize length / Opcode.sectorSize = count
  induction count generalizing address with
  | zero => trivial
  | succ count ih =>
    rw [List.range_succ_eq_map, List.map_cons, List.map_map]
    refine ⟨by omega, ?_⟩
    have moved := ih (address + Opcode.sectorSize)
    have same : (fun index => address + index * Opcode.sectorSize) ∘ Nat.succ =
        fun index => address + Opcode.sectorSize + index * Opcode.sectorSize := by
      funext index
      simp only [Function.comp, Opcode.sectorSize]
      omega
    rw [same]
    exact moved

/-- What is left when sectors have been erased up to a place: how many of them were reported, how
many were reached, and how it ended. -/
structure ErasedUpTo (found : List Nat) (start : Nat) (before after : Memory)
    (reports : List Nat) (outcome : Except Error Unit) (count reach : Nat) : Prop where
  reported : reports = List.replicate count Opcode.sectorSize
  atLeast : count ≤ reach
  atMost : reach ≤ count + 1
  within : reach ≤ found.length
  wiped : Wiped start (start + reach * Opcode.sectorSize) before after
  finished : outcome = .ok () → count = found.length
  stopped : ∀ error, outcome = .error error → count < found.length

section Sectors

variable {sector : Nat} {rest : List Nat} {before between after : Memory} {reports : List Nat}
  {outcome : Except Error Unit} {count reach : Nat}

theorem ErasedUpTo.stops (aligned : sector % Opcode.sectorSize = 0)
    (erased : after = before ∨ after = before.eraseSector sector) (error : Error) :
    ∃ reach, ErasedUpTo (sector :: rest) sector before after [] (.error error) 0 reach := by
  rcases erased with rfl | rfl
  · refine ⟨0, rfl, Nat.le_refl _, Nat.zero_le _, Nat.zero_le _, ?_, nofun,
      fun _ _ => Nat.succ_pos _⟩
    rw [Nat.zero_mul]
    exact wiped_nothing sector after
  · refine ⟨1, rfl, Nat.zero_le _, Nat.le_refl _, Nat.succ_pos _, ?_, nofun,
      fun _ _ => Nat.succ_pos _⟩
    rw [Nat.one_mul]
    exact wiped_eraseSector aligned before

theorem ErasedUpTo.cons (aligned : sector % Opcode.sectorSize = 0)
    (erased : between = before.eraseSector sector)
    (later : ErasedUpTo rest (sector + Opcode.sectorSize) between after reports outcome count
      reach) :
    ErasedUpTo (sector :: rest) sector before after (Opcode.sectorSize :: reports) outcome
      (count + 1) (reach + 1) := by
  have atLeast := later.atLeast
  have atMost := later.atMost
  have wiped := later.wiped
  rw [erased] at wiped
  refine ⟨?_, by omega, by omega, ?_, wiped.cons aligned, ?_, ?_⟩
  · rw [later.reported, List.replicate_succ]
  · exact Nat.succ_le_succ later.within
  · exact fun well => congrArg Nat.succ (later.finished well)
  · exact fun error failed => Nat.succ_lt_succ (later.stopped error failed)

end Sectors

theorem eraseSectors_driven (drives : Drives machine chip Sound) (present : width ≠ .absent)
    {found : List Nat} :
    ∀ {start : Nat} {state : σ}, Sound state → Rows start found →
      start % Opcode.sectorSize = 0 →
      start + found.length * Opcode.sectorSize ≤ width.size →
      let operation := (eraseSectors width found).run
      let ran := operation.answer machine state
      Sound ran.2 ∧ ∃ count reach, ErasedUpTo found start (chip state).memory
        (chip ran.2).memory (operation.progressed machine state) ran.1 count reach := by
  induction found with
  | nil =>
    intro start state sound rows aligned reached
    refine ⟨sound, 0, 0, rfl, Nat.le_refl _, Nat.zero_le _, Nat.le_refl _, ?_, fun _ => rfl, nofun⟩
    rw [Nat.zero_mul]
    exact wiped_nothing _ _
  | cons sector rest ih =>
    intro start state sound rows aligned reached
    obtain ⟨rfl, follows⟩ := rows
    rw [List.length_cons, Nat.succ_mul] at reached
    have below : sector < width.size := by
      simp only [Opcode.sectorSize] at reached
      omega
    have erase := eraseSector_driven drives sound (.ofNat sector) present
      (by rwa [toNat_place below])
    have logs : (eraseSector (.ofNat sector) width).run.Utters Notice.IsLog :=
      utters_change _ 10000 1000000
    rw [toNat_place below] at erase
    unfold Dialogue.Ensures at erase
    rcases went : (eraseSector (.ofNat sector) width).run.answer machine state with ⟨outcome, next⟩
    rw [went] at erase
    simp only [eraseSectors]
    cases outcome with
    | error error =>
      obtain ⟨stays, erased⟩ := erase
      obtain ⟨ends, reports⟩ := @reporting_error _ _ _ (eraseSectors width rest) _ _
        Opcode.sectorSize _ logs went
      obtain ⟨reach, upTo⟩ := ErasedUpTo.stops aligned erased error
      rw [ends, reports]
      exact ⟨stays, 0, reach, upTo⟩
    | ok _ =>
      obtain ⟨stays, erased⟩ := erase
      obtain ⟨ends, reports⟩ := @reporting_ok _ _ _ (eraseSectors width rest) _ _
        Opcode.sectorSize logs went
      have nextAligned : (sector + Opcode.sectorSize) % Opcode.sectorSize = 0 := by
        rw [Nat.add_mod_right]
        exact aligned
      obtain ⟨sound, count, reach, later⟩ := ih stays follows nextAligned (by omega)
      rw [ends, reports]
      exact ⟨sound, count + 1, reach + 1, .cons aligned erased later⟩

/-- What is left of erasing a range, whole or not: nothing has changed outside, the sectors reported
are erased, the next is erased or is what it was, and the later ones are what they were. -/
structure EraseContained (start length : Nat) (found : List Nat) (before after : Memory)
    (reports : List Nat) (outcome : Except Error Unit) (count : Nat) : Prop where
  reported : reports = List.replicate count Opcode.sectorSize
  outside : ∀ place, place < start ∨ start + length ≤ place → after.get place = before.get place
  done : ∀ index (within : index < found.length), index < count → ∀ offset < Opcode.sectorSize,
    after.get (found[index] + offset) = Memory.erasedByte
  next : ∀ within : count < found.length,
    (∀ offset < Opcode.sectorSize,
      after.get (found[count] + offset) = before.get (found[count] + offset)) ∨
    ∀ offset < Opcode.sectorSize, after.get (found[count] + offset) = Memory.erasedByte
  behind : ∀ index (within : index < found.length), count < index → ∀ offset < Opcode.sectorSize,
    after.get (found[index] + offset) = before.get (found[index] + offset)
  complete : outcome = .ok () → count = found.length
  stopped : ∀ error, outcome = .error error → count < found.length

theorem Rows.getElem {start : Nat} {found : List Nat} (rows : Rows start found) {index : Nat}
    (within : index < found.length) : found[index] = start + index * Opcode.sectorSize := by
  induction found generalizing start index with
  | nil => cases within
  | cons sector rest ih =>
    obtain ⟨rfl, follows⟩ := rows
    cases index with
    | zero => rw [List.getElem_cons_zero, Nat.zero_mul, Nat.add_zero]
    | succ index =>
      rw [List.getElem_cons_succ, ih follows, Nat.succ_mul]
      omega

theorem ErasedUpTo.contained {found : List Nat} {start length : Nat} {before after : Memory}
    {reports : List Nat} {outcome : Except Error Unit} {count reach : Nat}
    (upTo : ErasedUpTo found start before after reports outcome count reach)
    (rows : Rows start found) (whole : found.length * Opcode.sectorSize = length) :
    EraseContained start length found before after reports outcome count := by
  obtain ⟨reported, atLeast, atMost, within, wiped, finished, stopped⟩ := upTo
  simp only [Opcode.sectorSize] at whole wiped
  refine ⟨reported, ?_, ?_, ?_, ?_, finished, stopped⟩
  · intro place outside
    rw [wiped place, if_neg (by omega)]
  · intro index bound reported offset inside
    simp only [Opcode.sectorSize] at inside
    rw [rows.getElem bound, wiped, if_pos]
    simp only [Opcode.sectorSize]
    omega
  · intro bound
    rw [rows.getElem bound]
    simp only [Opcode.sectorSize]
    by_cases reached : count < reach
    · refine .inr fun offset inside => ?_
      rw [wiped, if_pos (by omega)]
    · refine .inl fun offset inside => ?_
      rw [wiped, if_neg (by omega)]
  · intro index bound later offset inside
    simp only [Opcode.sectorSize] at inside
    rw [rows.getElem bound, wiped, if_neg]
    simp only [Opcode.sectorSize]
    omega

/-! ## Ranges -/

variable {capabilities : Capabilities}

theorem program_of_plan {address : UInt32} {data : Bytes} {pieces : List Piece}
    (accepted : programPlan capabilities address.toNat data.length = .ok (width, pieces)) :
    program capabilities address data = programPieces width pieces data := by
  unfold program
  rw [accepted]
  rfl

theorem erase_of_plan {address length : UInt32} {found : List Nat}
    (accepted : erasePlan capabilities address.toNat length.toNat = .ok (width, found)) :
    erase capabilities address length = eraseSectors width found := by
  unfold erase
  rw [accepted]
  rfl

theorem Erasable.length_found {address length : Nat} {found : List Nat}
    (erasable : Erasable address length width found) :
    found.length * Opcode.sectorSize = length := by
  have whole := erasable.whole
  rw [erasable.sectors, Flash.sectors, List.length_map, List.length_range]
  simp only [Opcode.sectorSize] at whole ⊢
  omega

theorem Erasable.below {address length sector : Nat} {found : List Nat}
    (erasable : Erasable address length width found) (member : sector ∈ found) :
    sector < width.size := by
  obtain ⟨index, within, rfl⟩ := List.mem_iff_getElem.mp member
  have rows : Rows address found := erasable.sectors ▸ rows_sectors _ _
  have whole := erasable.length_found
  have reached := erasable.reached
  rw [rows.getElem within]
  simp only [Opcode.sectorSize] at whole ⊢
  omega

theorem program_contained (drives : Drives machine chip Sound) {state : σ} (sound : Sound state)
    {address : UInt32} {data : Bytes} {pieces : List Piece}
    (accepted : programPlan capabilities address.toNat data.length = .ok (width, pieces)) :
    let operation := (program capabilities address data).run
    let ran := operation.answer machine state
    Sound ran.2 ∧ ∃ count, WriteContained address.toNat data pieces (chip state).memory
      (chip ran.2).memory (operation.progressed machine state) ran.1 count := by
  have plan := programmable_of_plan accepted
  obtain ⟨stays, count, reach, upTo⟩ :=
    programPieces_driven drives plan.present sound plan.tiles plan.reached plan.inPage
  rw [program_of_plan accepted]
  exact ⟨stays, count, upTo.contained plan.tiles⟩

theorem erase_contained (drives : Drives machine chip Sound) {state : σ} (sound : Sound state)
    {address length : UInt32} {found : List Nat}
    (accepted : erasePlan capabilities address.toNat length.toNat = .ok (width, found)) :
    let operation := (erase capabilities address length).run
    let ran := operation.answer machine state
    Sound ran.2 ∧ ∃ count, EraseContained address.toNat length.toNat found (chip state).memory
      (chip ran.2).memory (operation.progressed machine state) ran.1 count := by
  have plan := erasable_of_plan accepted
  have rows : Rows address.toNat found := plan.sectors ▸ rows_sectors _ _
  obtain ⟨stays, count, reach, upTo⟩ := eraseSectors_driven drives plan.present sound rows
    plan.aligned (plan.length_found.symm ▸ plan.reached)
  rw [erase_of_plan accepted]
  exact ⟨stays, count, upTo.contained rows plan.length_found⟩

end Containment

end SpiProgrammer.Flash
