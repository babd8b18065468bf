import SpiProgrammer.Flash.Read
import SpiProgrammer.Proofs.Flash.Discipline
import SpiProgrammer.Proofs.Flash.Ranges
import SpiProgrammer.Proofs.Flash.Success

/-! # Reading the memory piece by piece

A read command changes nothing, whole or broken off.  So the bytes of the pieces that were read are
those of the memory, whatever happens to the next; and no byte behind the piece in flight has been
touched.

Main statement: on a master that never fails a command, a range that it reaches is read as it is
stored, in consecutive pieces as large as it takes, and a range that it does not reach leaves the
buffer as it was and asks nothing of the master. -/
set_option autoImplicit false

namespace SpiProgrammer.Flash

open Spi

/-! ## Bytes in a row -/

theorem Chip.length_readMany (chip : Chip) (address length : Nat) :
    (chip.readMany address length).length = length := by
  rw [readMany, List.length_map, List.length_range]

theorem Chip.readMany_add (chip : Chip) (address first later : Nat) :
    chip.readMany address (first + later) =
      chip.readMany address first ++ chip.readMany (address + first) later := by
  rw [readMany, List.range_add, List.map_append, List.map_map]
  simp only [readMany, Function.comp_def, Nat.add_assoc]

theorem Chip.getElem?_readMany (chip : Chip) {address length index : Nat}
    (inside : address + length ≤ Memory.addressSpace) (within : index < length) :
    (chip.readMany address length)[index]? =
      some ((chip.stuck[address + index]?).getD (chip.memory.get (address + index))) := by
  have below : address + index < Memory.addressSpace := by omega
  rw [readMany, List.getElem?_map, List.getElem?_range within, Option.map_some,
    Nat.mod_eq_of_lt below, read]

/-- The bytes are those that the chip answers from an address on. -/
def Chip.Shows (chip : Chip) (address : Nat) (bytes : Bytes) : Prop :=
  ∀ index < bytes.length, bytes[index]? =
    some ((chip.stuck[address + index]?).getD (chip.memory.get (address + index)))

theorem Chip.shows_readMany (chip : Chip) {address length : Nat}
    (inside : address + length ≤ Memory.addressSpace) :
    chip.Shows address (chip.readMany address length) := by
  intro index within
  rw [length_readMany] at within
  exact chip.getElem?_readMany inside within

/-! ## One piece -/

def Piece.reading (width : AddressWidth) (piece : Piece) : Command :=
  .read (Opcode.read width) (.ofNat piece.address) width piece.length

def Executed.event (executed : Executed) : Master.Event :=
  ⟨.execute executed.command, executed.reply⟩

section Reading

variable {σ : Type} {machine : Machine σ Master} {chip : σ → Chip} {Sound : σ → Prop}
  {state : σ} {width : AddressWidth} {piece : Piece}

/-- A piece that is read is read as it is stored, and reading it changes nothing in any case. -/
theorem reading_driven (drives : Drives machine chip Sound) (sound : Sound state)
    (present : width ≠ .absent) (below : piece.address < width.size) :
    let executed := machine (.execute (piece.reading width)) state
    Sound executed.2 ∧ chip executed.2 = chip state ∧
      (executed.1.outcome = .ok () →
        executed.1.bytes = (chip state).readMany piece.address piece.length) := by
  intro executed
  obtain ⟨stays, carried⟩ := drives.executes (piece.reading width) state sound
  rcases went : machine (.execute (piece.reading width)) state with ⟨reply, next⟩
  rw [went, Piece.reading, Command.sent_read] at carried
  simp only [executed, went] at stays carried ⊢
  have place := toNat_place below
  have whole := (chip state).transfer_read (.ofNat piece.address) present (by omega) piece.length
  rw [place] at whole
  generalize chip next = after at carried
  cases carried with
  | well =>
    have reads : (Command.read (Opcode.read width) (.ofNat piece.address) width
        piece.length).readLength = piece.length := rfl
    rw [reads, whole]
    exact ⟨stays, rfl, fun _ => rfl⟩
  | failed bytes error count other =>
    refine ⟨stays, ?_, nofun⟩
    cases count with
    | zero => rfl
    | succ count => exact (chip state).transfer_read_opcode width _ other

section Steps

variable {rest : List Piece} {filled buffer bytes : Bytes} {next : σ}

theorem readPieces_cons (width : AddressWidth) (piece : Piece) (rest : List Piece)
    (filled buffer : Bytes) :
    readPieces width (piece :: rest) filled buffer =
      .ask (.execute (piece.reading width)) fun reply =>
        let filled := (Bytes.overlay (buffer.take piece.length) reply.bytes).reverse ++ filled
        match reply.outcome with
        | .error error => .done ⟨filled.reverse ++ buffer.drop piece.length, .error error⟩
        | .ok () => .say (.progress piece.length)
            (readPieces width rest filled (buffer.drop piece.length)) := rfl

theorem readPieces_error {error : Error}
    (replied : machine (.execute (piece.reading width)) state = (⟨bytes, .error error⟩, next)) :
    (readPieces width (piece :: rest) filled buffer).run machine state =
      ⟨⟨filled.reverse ++ Bytes.overlay (buffer.take piece.length) bytes ++
          buffer.drop piece.length, .error error⟩, next,
        [⟨.execute (piece.reading width), ⟨bytes, .error error⟩⟩], []⟩ := by
  rw [readPieces_cons, Dialogue.run_ask, replied]
  simp only [Dialogue.run_done, List.reverse_append, List.reverse_reverse]

theorem readPieces_ok
    (replied : machine (.execute (piece.reading width)) state = (⟨bytes, .ok ()⟩, next)) :
    let part := Bytes.overlay (buffer.take piece.length) bytes
    let later := (readPieces width rest (part.reverse ++ filled) (buffer.drop piece.length)).run
      machine next
    (readPieces width (piece :: rest) filled buffer).run machine state =
      ⟨later.value, later.state,
        ⟨.execute (piece.reading width), ⟨bytes, .ok ()⟩⟩ :: later.events,
        .progress piece.length :: later.notices⟩ := by
  intro part later
  rw [readPieces_cons, Dialogue.run_ask, replied]
  simp only [Dialogue.run_say]
  rfl

end Steps

/-! ## All pieces -/

/-- The outcome of the command that ended a run, if one did. -/
def ending : Except Error Unit → List (Except Error Unit)
  | .ok () => []
  | .error error => [.error error]

/-- How far the reading of pieces got: how many of them were read and reported, one after the other
and by one command each, and that nothing was executed after the command that failed.  Their bytes
are those of the chip; those behind the next piece are still those of the buffer. -/
structure ReadUpTo (chip : Chip) (width : AddressWidth) (pieces : List Piece) (start : Nat)
    (front buffer : Bytes) (ran : Transcript Master σ (Received Error))
    (commands : List Executed) (count : Nat) : Prop where
  executed : ran.events = commands.map Executed.event
  asked : commands.map Executed.command = (pieces.take (count + 1)).map (Piece.reading width)
  replied : (commands.map fun executed => executed.reply.outcome) =
    List.replicate count (.ok ()) ++ ending ran.value.outcome
  reported : ran.notices = (pieces.take count).map fun piece => .progress piece.length
  filled : ∃ flight : Bytes, flight.length = covered pieces (count + 1) - covered pieces count ∧
    ran.value.bytes = front ++ chip.readMany start (covered pieces count) ++ flight ++
      buffer.drop (covered pieces (count + 1))
  finished : ran.value.outcome = .ok () → count = pieces.length
  stopped : ∀ error, ran.value.outcome = .error error → count < pieces.length

section Pieces

variable {memory : Chip} {rest : List Piece} {front buffer bytes : Bytes} {next : σ}
  {later : Transcript Master σ (Received Error)} {commands : List Executed} {count : Nat}

theorem readUpTo_nil (memory : Chip) (width : AddressWidth) (start : Nat) (front buffer : Bytes)
    (state : σ) :
    ReadUpTo memory width [] start front buffer ⟨⟨front ++ buffer, .ok ()⟩, state, [], []⟩ []
      0 := by
  refine ⟨rfl, rfl, rfl, rfl, ⟨[], rfl, ?_⟩, fun _ => rfl, nofun⟩
  simp [covered, Chip.readMany]

theorem readUpTo_stops (fits : piece.length ≤ buffer.length) (error : Error) :
    ReadUpTo memory width (piece :: rest) piece.address front buffer
      ⟨⟨front ++ Bytes.overlay (buffer.take piece.length) bytes ++ buffer.drop piece.length,
        .error error⟩, next, [⟨.execute (piece.reading width), ⟨bytes, .error error⟩⟩], []⟩
      [⟨piece.reading width, ⟨bytes, .error error⟩⟩] 0 := by
  have first : covered (piece :: rest) 1 = piece.length := by
    rw [covered_succ, covered_zero, Nat.add_zero]
  refine ⟨rfl, rfl, rfl, rfl, ⟨Bytes.overlay (buffer.take piece.length) bytes, ?_, ?_⟩, nofun,
    fun _ _ => Nat.succ_pos _⟩
  · rw [Bytes.overlay_length, List.length_take_of_le fits, first, covered_zero, Nat.sub_zero]
  · simp [first, covered_zero, Chip.readMany]

theorem ReadUpTo.cons {part : Bytes} (stored : part = memory.readMany piece.address piece.length)
    (upTo : ReadUpTo memory width rest (piece.address + piece.length) (front ++ part)
      (buffer.drop piece.length) later commands count) :
    ReadUpTo memory width (piece :: rest) piece.address front buffer
      ⟨later.value, later.state,
        ⟨.execute (piece.reading width), ⟨bytes, .ok ()⟩⟩ :: later.events,
        .progress piece.length :: later.notices⟩
      (⟨piece.reading width, ⟨bytes, .ok ()⟩⟩ :: commands) (count + 1) := by
  obtain ⟨flight, inFlight, received⟩ := upTo.filled
  refine ⟨?_, ?_, ?_, ?_, ⟨flight, ?_, ?_⟩, ?_, ?_⟩
  · rw [List.map_cons, upTo.executed]
    rfl
  · rw [List.map_cons, upTo.asked, List.take_succ_cons, List.map_cons]
  · rw [List.map_cons, upTo.replied, List.replicate_succ, List.cons_append]
  · rw [upTo.reported, List.take_succ_cons, List.map_cons]
  · rw [covered_succ, covered_succ, inFlight]
    omega
  · rw [received, covered_succ, covered_succ, Chip.readMany_add, stored, List.drop_drop]
    simp only [List.append_assoc]
  · exact fun well => congrArg Nat.succ (upTo.finished well)
  · exact fun error failed => Nat.succ_lt_succ (upTo.stopped error failed)

end Pieces

theorem readPieces_driven (drives : Drives machine chip Sound) (present : width ≠ .absent)
    {pieces : List Piece} :
    ∀ {start : Nat} {buffer : Bytes} (filled : Bytes) {state : σ}, Sound state →
      Tiles start buffer.length pieces → start + buffer.length ≤ width.size →
      let ran := (readPieces width pieces filled buffer).run machine state
      Sound ran.state ∧ chip ran.state = chip state ∧ ∃ commands count,
        ReadUpTo (chip state) width pieces start filled.reverse buffer ran commands count := by
  -- on the pieces; what is left of the buffer, and its address, move along with them
  induction pieces with
  | nil =>
    intro start buffer filled state sound tiles reached
    exact ⟨sound, rfl, [], 0, readUpTo_nil ..⟩
  | cons piece rest ih =>
    intro start buffer filled state sound tiles reached
    obtain ⟨rfl, some, fits, follows⟩ := tiles
    have below : piece.address < width.size := by omega
    obtain ⟨stays, same, stored⟩ := reading_driven drives sound present below
    rcases replied : machine (.execute (piece.reading width)) state with ⟨⟨bytes, outcome⟩, next⟩
    rw [replied] at stays same stored
    cases outcome with
    | error error =>
      rw [readPieces_error replied]
      exact ⟨stays, same, _, 0, readUpTo_stops fits error⟩
    | ok _ =>
      have left : (buffer.drop piece.length).length = buffer.length - piece.length :=
        List.length_drop ..
      have part : Bytes.overlay (buffer.take piece.length) bytes =
          (chip state).readMany piece.address piece.length := by
        have received : bytes = (chip state).readMany piece.address piece.length := stored rfl
        rw [received]
        refine Bytes.overlay_whole ?_
        rw [Chip.length_readMany, List.length_take_of_le fits]
      obtain ⟨sound, unchanged, commands, count, upTo⟩ := @ih (piece.address + piece.length)
        (buffer.drop piece.length)
        ((Bytes.overlay (buffer.take piece.length) bytes).reverse ++ filled) next stays
        (left ▸ follows) (by omega)
      rw [same, List.reverse_append, List.reverse_reverse] at upTo
      rw [readPieces_ok replied]
      exact ⟨sound, unchanged.trans same, _, count + 1, upTo.cons part⟩

theorem readPieces_unfailing (drives : Drives machine chip Sound)
    (unfailing : Unfailing machine Sound) (width : AddressWidth) (pieces : List Piece) :
    ∀ (filled buffer : Bytes) {state : σ}, Sound state →
      ((readPieces width pieces filled buffer).run machine state).value.outcome = .ok () := by
  induction pieces with
  | nil => exact fun _ _ _ _ => rfl
  | cons piece rest ih =>
    intro filled buffer state sound
    have stays := (drives.executes (piece.reading width) state sound).1
    have well := unfailing (piece.reading width) state sound
    rcases replied : machine (.execute (piece.reading width)) state with ⟨⟨bytes, outcome⟩, next⟩
    rw [replied] at stays well
    cases well
    rw [readPieces_ok replied]
    exact ih _ _ stays

/-! ## Ranges -/

/-- The pieces follow one another through the range; all but the last are as large as the master
takes, and each address is sent as it is. -/
structure Chunked (width : AddressWidth) (size address length : Nat) (pieces : List Piece) :
    Prop where
  tiles : Tiles address length pieces
  full : ∀ count < pieces.length, ∀ piece ∈ pieces.take count, piece.length = size
  fits : ∀ piece ∈ pieces, piece.length ≤ size
  inside : ∀ piece ∈ pieces, piece.address + piece.length ≤ width.size
  placed : ∀ piece ∈ pieces, (UInt32.ofNat piece.address).toNat = piece.address ∧
    Bytes.toNatBE (width.encode (.ofNat piece.address)) = piece.address

theorem chunked_of_plan {capabilities : Capabilities} {address length : Nat} {pieces : List Piece}
    (accepted : readPlan capabilities address length = .ok (width, pieces)) :
    Chunked width capabilities.maxRead address length pieces := by
  have plan := readable_of_plan accepted
  have inside (piece : Piece) (member : piece ∈ pieces) :
      0 < piece.length ∧ piece.address + piece.length ≤ width.size := by
    have bounds := plan.tiles.inside member
    have reached := plan.reached
    omega
  refine ⟨plan.tiles, ?_, plan.fits, fun piece member => (inside piece member).2, ?_⟩
  · cases widths : addressWidthFor capabilities.features (address + length) with
    | error error =>
      rw [readPlan_of_unreached widths] at accepted
      cases accepted
    | ok found =>
      rw [readPlan_of_readable (reached_of_ok widths) plan.some] at accepted
      cases accepted
      exact fun count short piece member => length_of_mem_take_cut short member
  · intro piece member
    have bounds := inside piece member
    have place : (UInt32.ofNat piece.address).toNat = piece.address :=
      toNat_place (Nat.lt_of_lt_of_le (Nat.lt_add_of_pos_right bounds.1) bounds.2)
    refine ⟨place, ?_⟩
    rw [width.toNatBE_encode _ (by omega), place]

theorem Chunked.covered_eq {size address length count : Nat} {pieces : List Piece}
    (chunked : Chunked width size address length pieces) (short : count < pieces.length) :
    covered pieces count = count * size := by
  have same : (pieces.take count).map Piece.length = List.replicate count size := by
    refine List.eq_replicate_iff.mpr ⟨?_, ?_⟩
    · rw [List.length_map, List.length_take_of_le (Nat.le_of_lt short)]
    · intro length member
      obtain ⟨piece, taken, rfl⟩ := List.mem_map.mp member
      exact chunked.full count short piece taken
  rw [covered, same, List.sum_replicate_nat]

theorem readInto_of_plan {capabilities : Capabilities} {address : UInt32} {buffer : Bytes}
    {pieces : List Piece}
    (accepted : readPlan capabilities address.toNat buffer.length = .ok (width, pieces)) :
    readInto capabilities address buffer = readPieces width pieces [] buffer := by
  unfold readInto
  rw [accepted]

theorem readInto_unfailing (drives : Drives machine chip Sound)
    (unfailing : Unfailing machine Sound) (sound : Sound state) {capabilities : Capabilities}
    {address : UInt32} {buffer : Bytes} {pieces : List Piece}
    (accepted : readPlan capabilities address.toNat buffer.length = .ok (width, pieces)) :
    ((readInto capabilities address buffer).run machine state).value.outcome = .ok () := by
  rw [readInto_of_plan accepted]
  exact readPieces_unfailing drives unfailing width pieces [] buffer sound

theorem readInto_driven (drives : Drives machine chip Sound) (sound : Sound state)
    {capabilities : Capabilities} {address : UInt32} {buffer : Bytes} {pieces : List Piece}
    (accepted : readPlan capabilities address.toNat buffer.length = .ok (width, pieces)) :
    let ran := (readInto capabilities address buffer).run machine state
    Sound ran.state ∧ chip ran.state = chip state ∧ ∃ commands count,
      ReadUpTo (chip state) width pieces address.toNat [] buffer ran commands count := by
  have plan := readable_of_plan accepted
  rw [readInto_of_plan accepted]
  exact readPieces_driven drives plan.present [] sound plan.tiles plan.reached

theorem ReadUpTo.whole {memory : Chip} {pieces : List Piece} {start : Nat} {front buffer : Bytes}
    {ran : Transcript Master σ (Received Error)} {commands : List Executed} {count : Nat}
    (upTo : ReadUpTo memory width pieces start front buffer ran commands count)
    (tiles : Tiles start buffer.length pieces) (well : ran.value.outcome = .ok ()) :
    ran.value.bytes = front ++ memory.readMany start buffer.length := by
  obtain ⟨flight, inFlight, received⟩ := upTo.filled
  have all := tiles.covered_all
  have most := tiles.covered_le (count + 1)
  rw [upTo.finished well] at inFlight received most
  have behind : covered pieces (pieces.length + 1) = buffer.length := by
    rw [← all, covered, covered, List.take_length, List.take_of_length_le (Nat.le_succ _)]
  rw [behind, all, Nat.sub_self] at inFlight
  have nothing : flight = [] := List.eq_nil_of_length_eq_zero inFlight
  rw [received, nothing, all, behind, List.drop_length, List.append_nil, List.append_nil]

/-- What a reading keeps in the buffer, whole or not: the bytes of the pieces reported are those of
the chip, and behind the next piece, which was in flight when the reading failed, nothing has
changed. -/
structure ReadKept (chip : Chip) (size start : Nat) (buffer : Bytes) (pieces : List Piece)
    (received : Received Error) (reports : List Nat) (count : Nat) : Prop where
  reported : reports = (pieces.take count).map Piece.length
  length : received.bytes.length = buffer.length
  stored : chip.Shows start (received.bytes.take reports.sum)
  behind : ∀ piece, pieces[count]? = some piece → ∀ index,
    piece.address + piece.length ≤ start + index → received.bytes[index]? = buffer[index]?
  failed : ∀ error, received.outcome = .error error →
    count < pieces.length ∧ reports.sum = count * size
  complete : received.outcome = .ok () → count = pieces.length ∧ reports.sum = buffer.length

theorem ReadUpTo.kept {memory : Chip} {pieces : List Piece} {size start : Nat} {buffer : Bytes}
    {ran : Transcript Master σ (Received Error)} {commands : List Executed} {count : Nat}
    (upTo : ReadUpTo memory width pieces start [] buffer ran commands count)
    (chunked : Chunked width size start buffer.length pieces)
    (inside : start + buffer.length ≤ Memory.addressSpace) :
    ReadKept memory size start buffer pieces ran.value
      (ran.notices.filterMap Notice.progress?) count := by
  obtain ⟨flight, inFlight, received⟩ := upTo.filled
  have reported : ran.notices.filterMap Notice.progress? =
      (pieces.take count).map Piece.length := by
    rw [upTo.reported, List.filterMap_map]
    exact congrFun List.filterMap_eq_map _
  have sum : (ran.notices.filterMap Notice.progress?).sum = covered pieces count := by
    rw [reported, covered]
  have grows := covered_le_succ pieces count
  have most := chunked.tiles.covered_le (count + 1)
  have front : (memory.readMany start (covered pieces count)).length = covered pieces count :=
    memory.length_readMany ..
  rw [List.nil_append] at received
  refine ⟨reported, ?_, ?_, ?_, ?_, ?_⟩
  · rw [received]
    simp only [List.length_append, List.length_drop, front]
    omega
  · have first : ran.value.bytes.take (covered pieces count) =
        memory.readMany start (covered pieces count) := by
      rw [received, List.append_assoc, List.take_left' front]
    rw [sum, first]
    exact memory.shows_readMany (by omega)
  · intro piece next index behind
    have last := chunked.tiles.covered_next next
    have reach : (memory.readMany start (covered pieces count) ++ flight).length =
        covered pieces (count + 1) := by
      rw [List.length_append, front, inFlight]
      omega
    rw [received, List.getElem?_append_right (by omega), List.getElem?_drop, reach]
    congr 1
    omega
  · intro error failed
    have short := upTo.stopped error failed
    rw [sum]
    exact ⟨short, chunked.covered_eq short⟩
  · intro well
    have all := upTo.finished well
    rw [sum, all]
    exact ⟨rfl, chunked.tiles.covered_all⟩

theorem ReadKept.whole {memory : Chip} {pieces : List Piece} {size start : Nat} {buffer : Bytes}
    {received : Received Error} {reports : List Nat} {count : Nat}
    (kept : ReadKept memory size start buffer pieces received reports count)
    (well : received.outcome = .ok ()) : memory.Shows start received.bytes := by
  have stored := kept.stored
  rwa [(kept.complete well).2, ← kept.length, List.take_length] at stored

theorem read_eq_readInto (capabilities : Capabilities) (address : UInt32) (length : Nat) :
    (read capabilities address length).run =
      (readInto capabilities address (List.replicate length 0) >>= fun reply =>
        pure (reply.outcome.map fun _ => reply.bytes)) := by
  unfold read readInto
  rw [List.length_replicate]
  cases readPlan capabilities address.toNat length with
  | error error => rfl
  | ok plan =>
    show ((readPieces plan.1 plan.2 [] _ >>= fun reply => pure (Except.ok reply)) >>= _) = _
    rw [bind_assoc]
    congr 1
    funext reply
    obtain ⟨bytes, outcome⟩ := reply
    cases outcome <;> rfl

theorem run_read (machine : Machine σ Master) (state : σ) (capabilities : Capabilities)
    (address : UInt32) (length : Nat) :
    let ran := (readInto capabilities address (List.replicate length 0)).run machine state
    (read capabilities address length).run.run machine state =
      ⟨ran.value.outcome.map fun _ => ran.value.bytes, ran.state, ran.events, ran.notices⟩ := by
  intro ran
  rw [read_eq_readInto, Dialogue.run_bind]
  show Transcript.mk _ _ (_ ++ []) (_ ++ []) = _
  rw [List.append_nil, List.append_nil]
  rfl

theorem read_reads (drives : Drives machine chip Sound) (unfailing : Unfailing machine Sound)
    (sound : Sound state) {capabilities : Capabilities} {address : UInt32} {length : Nat}
    {pieces : List Piece}
    (accepted : readPlan capabilities address.toNat length = .ok (width, pieces)) :
    Dialogue.Ensures machine (read capabilities address length) state
      (fun bytes next => bytes = (chip state).readMany address.toNat length ∧ Sound next ∧
        chip next = chip state)
      (fun _ _ => False) := by
  have blank : (List.replicate length (0 : UInt8)).length = length := List.length_replicate ..
  have planned : readPlan capabilities address.toNat (List.replicate length (0 : UInt8)).length =
      .ok (width, pieces) := blank.symm ▸ accepted
  have well := readInto_unfailing drives unfailing sound planned
  obtain ⟨stays, same, commands, count, upTo⟩ := readInto_driven drives sound planned
  have whole := upTo.whole (readable_of_plan planned).tiles well
  rw [blank] at whole
  unfold Dialogue.Ensures Dialogue.answer
  rw [run_read, well]
  exact ⟨whole, stays, same⟩

/-- What is refused leaves the buffer as it was and asks nothing of the master: a range that is not
reached, before it is looked at how much can be read at all.  Any other range is read as it is
stored. -/
theorem read_returns_stored_bytes (drives : Drives machine chip Sound)
    (unfailing : Unfailing machine Sound) (sound : Sound state) (capabilities : Capabilities)
    (address : UInt32) (buffer : Bytes) :
    let stop := address.toNat + buffer.length
    let ran := (readInto capabilities address buffer).run machine state
    let bytes := ran.value.bytes
    (0x100000000 < stop → ran = ⟨⟨buffer, .error .addressOutOfBounds⟩, state, [], []⟩) ∧
    (0x1000000 < stop → stop ≤ 0x100000000 →
      capabilities.features.contains .fourByteAddress = false →
        ran = ⟨⟨buffer, .error .fourByteAddressUnsupported⟩, state, [], []⟩) ∧
    ∀ width, Reached capabilities.features stop width →
      (capabilities.maxRead = 0 → ran = ⟨⟨buffer, .error .bufferTooLarge⟩, state, [], []⟩) ∧
      (0 < capabilities.maxRead →
        ran.value.outcome = .ok () ∧ bytes.length = buffer.length ∧
        (∀ index < buffer.length, bytes[index]? =
          some (((chip state).stuck[address.toNat + index]?).getD
            ((chip state).memory.get (address.toNat + index)))) ∧
        chip ran.state = chip state ∧
        ∃ pieces, Chunked width capabilities.maxRead address.toNat buffer.length pieces ∧
          (ran.events.map fun event => event.request) =
            pieces.map (fun piece => .execute (piece.reading width)) ∧
          ran.notices = pieces.map fun piece => .progress piece.length) := by
  intro stop ran bytes
  refine ⟨fun beyond => ?_, fun above below missing => ?_, fun width reached => ⟨fun none => ?_,
    fun readable => ?_⟩⟩
  · exact readInto_refused (readPlan_of_unreached (addressWidthFor_of_beyond beyond))
  · exact readInto_refused
      (readPlan_of_unreached (addressWidthFor_of_unsupported above below missing))
  · exact readInto_refused (readPlan_of_unreadable reached none)
  have accepted := readPlan_of_readable reached readable
  have chunked := chunked_of_plan accepted
  have well := readInto_unfailing drives unfailing sound accepted
  obtain ⟨-, same, commands, count, upTo⟩ := readInto_driven drives sound accepted
  have whole : bytes = (chip state).readMany address.toNat buffer.length :=
    upTo.whole chunked.tiles well
  have inside : address.toNat + buffer.length ≤ Memory.addressSpace :=
    Nat.le_trans (readable_of_plan accepted).reached (size_le width)
  have all := upTo.finished well
  refine ⟨well, ?_, fun index within => ?_, same, _, chunked, ?_, ?_⟩
  · rw [whole, Chip.length_readMany]
  · rw [whole, Chip.getElem?_readMany _ inside within]
  · have asked := upTo.asked
    rw [all, List.take_of_length_le (Nat.le_succ _)] at asked
    have requests := congrArg (List.map MasterRequest.execute) asked
    rw [List.map_map, List.map_map] at requests
    rw [upTo.executed, List.map_map]
    exact requests
  · have reported := upTo.reported
    rw [all, List.take_length] at reported
    exact reported

end Reading

/-- Five bytes over the end of the first sixteen mebibytes, two to a transaction. -/
theorem read_stored_bytes_over_width_end :
    let wired : Wired := { chip := { memory := Memory.erased.set 0x1000000 0x5A } }
    let ran := (readInto ⟨.fourByteAddress, 2, 64⟩ 0xFFFFFE [1, 2, 3, 4, 5]).run Wired.machine wired
    (wired.failures = [] ∧ Reached .fourByteAddress (0xFFFFFE + 5) .four) ∧
      ran.value.outcome = .ok () ∧ ran.value.bytes[2]? = some 0x5A ∧
      ran.state.chip = wired.chip ∧ ∃ pieces, Chunked .four 2 0xFFFFFE 5 pieces ∧
        ran.notices = pieces.map fun piece => .progress piece.length := by
  intro wired
  have unfailing : wired.failures = [] := rfl
  have reached : Reached .fourByteAddress (0xFFFFFE + 5) .four := .four (by decide) (by decide) rfl
  obtain ⟨-, -, accepted⟩ := read_returns_stored_bytes Wired.drives Wired.unfailing unfailing
    ⟨.fourByteAddress, 2, 64⟩ 0xFFFFFE [1, 2, 3, 4, 5]
  obtain ⟨well, -, stored, same, pieces, chunked, -, reported⟩ :=
    (accepted .four reached).2 (by decide)
  exact ⟨⟨unfailing, reached⟩, well, stored 2 (by decide), same, pieces, chunked, reported⟩

end SpiProgrammer.Flash
