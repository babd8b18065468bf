import SpiProgrammer.Proofs.Bridge.SelectLine
import SpiProgrammer.Proofs.Bridge.Verdict

/-! # Reading frames back

A frame is read by its first two bytes and then field by field, where each field holds the code of
one of a few values.  What is read counts only if it has the very frame that was read, so that a
frame with other bytes behind its fields is no frame of any command.

Main statement: the commands that carry as much data as they can are read back from their frames,
and no other bytes are read at all; and the data of a write are read back from what it sends. -/
set_option autoImplicit false

namespace SpiProgrammer.Bridge

/-! ## Fields -/

/-- A field of a frame: the values that it can hold, each under a code of its own. -/
structure FrameField (α : Type) where
  values : List α
  code : α → UInt8
  complete : ∀ value, value ∈ values
  distinct : ∀ first second, code first = code second → first = second

namespace FrameField

variable {α : Type}

def read? (field : FrameField α) (byte : UInt8) : Option α :=
  field.values.find? fun value => field.code value == byte

theorem read?_code (field : FrameField α) (value : α) :
    field.read? (field.code value) = some value := by
  cases found : field.read? (field.code value) with
  | none =>
    have missed := List.find?_eq_none.mp found value (field.complete value)
    exact absurd BEq.rfl missed
  | some other =>
    have same : field.code other = field.code value := by
      simpa using List.find?_some found
    rw [field.distinct other value same]

end FrameField

def directionField : FrameField Direction where
  values := [.fullDuplex, .receiveOnly, .oneLineReceive, .oneLineTransmit]
  code := Direction.code
  complete := by rintro ⟨⟩ <;> decide
  distinct := by rintro ⟨⟩ ⟨⟩ <;> decide

def roleField : FrameField Role where
  values := [.slave, .master]
  code := Role.code
  complete := by rintro ⟨⟩ <;> decide
  distinct := by rintro ⟨⟩ ⟨⟩ <;> decide

def phaseField : FrameField Phase where
  values := [.firstEdge, .secondEdge]
  code := Phase.code
  complete := by rintro ⟨⟩ <;> decide
  distinct := by rintro ⟨⟩ ⟨⟩ <;> decide

def polarityField : FrameField Polarity where
  values := [.restsLow, .restsHigh]
  code := Polarity.code
  complete := by rintro ⟨⟩ <;> decide
  distinct := by rintro ⟨⟩ ⟨⟩ <;> decide

def bitOrderField : FrameField BitOrder where
  values := [.leastFirst, .mostFirst]
  code := BitOrder.code
  complete := by rintro ⟨⟩ <;> decide
  distinct := by rintro ⟨⟩ ⟨⟩ <;> decide

def wordSizeField : FrameField WordSize where
  values := [.sixteen, .eight]
  code := WordSize.code
  complete := by rintro ⟨⟩ <;> decide
  distinct := by rintro ⟨⟩ ⟨⟩ <;> decide

def selectModeField : FrameField SelectMode where
  values := [.host, .peripheral]
  code := SelectMode.code
  complete := by rintro ⟨⟩ <;> decide
  distinct := by rintro ⟨⟩ ⟨⟩ <;> decide

def selectLevelField : FrameField SelectLevel where
  values := [.low, .high]
  code := SelectLevel.code
  complete := by rintro ⟨⟩ <;> decide
  distinct := by rintro ⟨⟩ ⟨⟩ <;> decide

def prescalerField : FrameField Prescaler where
  values := Prescaler.all
  code prescaler := .ofNat prescaler.code.val
  complete prescaler := List.mem_map.mpr ⟨prescaler.code, List.mem_finRange _, rfl⟩
  distinct := by
    rintro ⟨first⟩ ⟨second⟩ same
    revert first second
    decide

/-! ## Frames -/

namespace Settings

/-- The settings that the frame holds from its third byte on. -/
def read? (frame : Bytes) : Option Settings := do
  let mode := frame.getD 3 0
  return {
    direction := ← directionField.read? (frame.getD 2 0)
    role := ← roleField.read? (mode &&& 1)
    phase := ← phaseField.read? (mode >>> 1 &&& 1)
    polarity := ← polarityField.read? (mode >>> 2 &&& 1)
    bitOrder := ← bitOrderField.read? (mode >>> 3 &&& 1)
    wordSize := ← wordSizeField.read? (frame.getD 4 0)
    selectMode := ← selectModeField.read? (frame.getD 5 0)
    prescaler := ← prescalerField.read? (frame.getD 6 0) }

theorem modeByte_bits (settings : Settings) :
    settings.modeByte &&& 1 = settings.role.code ∧
      settings.modeByte >>> 1 &&& 1 = settings.phase.code ∧
      settings.modeByte >>> 2 &&& 1 = settings.polarity.code ∧
      settings.modeByte >>> 3 &&& 1 = settings.bitOrder.code := by
  unfold modeByte
  rcases settings.role with _ | _ <;> rcases settings.phase with _ | _ <;>
    rcases settings.polarity with _ | _ <;> rcases settings.bitOrder with _ | _ <;> decide

theorem read?_frame (settings : Settings) :
    read? (Command.configure settings).frame = some settings := by
  have direction := directionField.read?_code settings.direction
  have role := roleField.read?_code settings.role
  have phase := phaseField.read?_code settings.phase
  have polarity := polarityField.read?_code settings.polarity
  have bitOrder := bitOrderField.read?_code settings.bitOrder
  have wordSize := wordSizeField.read?_code settings.wordSize
  have selectMode := selectModeField.read?_code settings.selectMode
  have prescaler := prescalerField.read?_code settings.prescaler
  obtain ⟨bit₀, bit₁, bit₂, bit₃⟩ := settings.modeByte_bits
  rw [show roleField.code = Role.code from rfl, ← bit₀] at role
  rw [show phaseField.code = Phase.code from rfl, ← bit₁] at phase
  rw [show polarityField.code = Polarity.code from rfl, ← bit₂] at polarity
  rw [show bitOrderField.code = BitOrder.code from rfl, ← bit₃] at bitOrder
  show (do
    let direction ← directionField.read? (directionField.code settings.direction)
    let role ← roleField.read? (settings.modeByte &&& 1)
    let phase ← phaseField.read? (settings.modeByte >>> 1 &&& 1)
    let polarity ← polarityField.read? (settings.modeByte >>> 2 &&& 1)
    let bitOrder ← bitOrderField.read? (settings.modeByte >>> 3 &&& 1)
    let wordSize ← wordSizeField.read? (wordSizeField.code settings.wordSize)
    let selectMode ← selectModeField.read? (selectModeField.code settings.selectMode)
    let prescaler ← prescalerField.read? (prescalerField.code settings.prescaler)
    return Settings.mk direction role phase polarity bitOrder wordSize selectMode prescaler) = _
  simp only [direction, role, phase, polarity, bitOrder, wordSize, selectMode, prescaler]
  rfl

end Settings

namespace Command

/-- The command that the frame would be of, if it has nothing else behind its fields. -/
def read? (frame : Bytes) : Option Command :=
  let length := wordAt frame 2
  if frame.getD 0 0 = probeClass then some .getVersion
  else match frame.getD 1 0 with
    | 0x03 => some .getClock
    | 0x20 => (Settings.read? frame).map .configure
    | 0x21 => some (.write length ((frame.drop 4).take (min length.toNat leadingMax)))
    | 0x22 => some (.read length)
    | 0x23 => (selectLevelField.read? (frame.getD 2 0)).map .setSelect
    | 0x02 => some .getStatus
    | 0x01 => some .close
    | _ => none

/-- The command that the bytes are the frame of. -/
def ofFrame? (bytes : Bytes) : Option Command :=
  (read? bytes).filter fun command => command.frame == bytes

/-- A write carries as many bytes as are announced, up to those that fit in its frame. -/
def Complete : Command → Prop
  | .write length leading => leading.length = min length.toNat leadingMax
  | _ => True

/-- The number of bytes that the command uses. -/
def used : Command → Nat
  | .getVersion | .getStatus => 2
  | .getClock | .setSelect _ | .close => 3
  | .read _ => 4
  | .configure _ => 7
  | .write _ leading => 4 + min leading.length leadingMax

theorem content_length_eq_used (command : Command) : command.content.length = command.used := by
  cases command <;> simp [content, used, Bytes.ofUInt16LE, Nat.min_comm]
  omega

theorem frame_unused (command : Command) {index : Nat} (unused : command.used ≤ index)
    (within : index < frameSize) : command.frame[index]? = some 0 := by
  rw [← content_length_eq_used] at unused
  rw [frame, List.getElem?_append_right unused, List.getElem?_replicate, if_pos]
  omega

theorem read?_frame {command : Command} (complete : command.Complete) :
    read? command.frame = some command := by
  cases command with
  | getVersion | getClock | getStatus | close => rfl
  | configure settings =>
    show (Settings.read? (configure settings).frame).map Command.configure = _
    rw [settings.read?_frame]
    rfl
  | setSelect level =>
    show (selectLevelField.read? (selectLevelField.code level)).map Command.setSelect = _
    rw [selectLevelField.read?_code]
    rfl
  | read length =>
    have word : wordAt (read length).frame 2 = length := Bytes.toUInt16LE_halves length
    show some (read (wordAt (read length).frame 2)) = _
    rw [word]
  | write length leading =>
    have word : wordAt (write length leading).frame 2 = length := Bytes.toUInt16LE_halves length
    have whole : leading.length ≤ leadingMax := by
      rw [complete]
      exact Nat.min_le_right _ _
    have carried : ((write length leading).frame.drop 4).take leading.length = leading := by
      show (leading.take leadingMax ++ _).take leading.length = leading
      rw [List.take_of_length_le whole]
      exact List.take_left' rfl
    show some (write (wordAt (write length leading).frame 2)
      (((write length leading).frame.drop 4).take
        (min (wordAt (write length leading).frame 2).toNat leadingMax))) = _
    rw [word, ← complete, carried]

/-- What is read of a frame carries what can be announced and fits, whatever the frame is. -/
theorem complete_of_read? {frame : Bytes} {command : Command} (size : frame.length = frameSize)
    (reads : read? frame = some command) : command.Complete := by
  unfold read? at reads
  split at reads
  · cases reads
    trivial
  split at reads
  -- a write carries what was cut from the frame to the right length, the others carry nothing
  case h_3 =>
    cases reads
    have room : leadingMax ≤ (frame.drop 4).length := by
      rw [List.length_drop, size]
      decide
    show ((frame.drop 4).take (min (wordAt frame 2).toNat leadingMax)).length = _
    rw [List.length_take]
    exact Nat.min_eq_left (Nat.le_trans (Nat.min_le_right _ _) room)
  case h_2 | h_5 =>
    obtain ⟨_, -, rfl⟩ := Option.map_eq_some_iff.mp reads
    trivial
  case h_8 => cases reads
  all_goals
    cases reads
    trivial

theorem ofFrame?_eq_some {bytes : Bytes} {command : Command} :
    ofFrame? bytes = some command ↔ command.Complete ∧ bytes = command.frame := by
  rw [ofFrame?, Option.filter_eq_some_iff, beq_iff_eq]
  constructor
  · rintro ⟨reads, rfl⟩
    exact ⟨complete_of_read? command.frame_length reads, rfl⟩
  · rintro ⟨complete, rfl⟩
    exact ⟨read?_frame complete, rfl⟩

theorem eq_of_frame_eq {first second : Command} (whole : first.Complete)
    (whole' : second.Complete) (same : first.frame = second.frame) : first = second := by
  have reads : ofFrame? first.frame = some first := ofFrame?_eq_some.mpr ⟨whole, rfl⟩
  have readsToo : ofFrame? first.frame = some second := ofFrame?_eq_some.mpr ⟨whole', same⟩
  exact Option.some.inj (reads.symm.trans readsToo)

theorem complete_write_iff {length : UInt16} {leading : Bytes} :
    (write length leading).Complete ↔
      ∃ data : Bytes, data.length = length.toNat ∧ leading = data.take leadingMax := by
  constructor
  · intro complete
    have carried : leading.length = min length.toNat leadingMax := complete
    refine ⟨leading ++ List.replicate (length.toNat - leading.length) 0, ?_, ?_⟩
    · rw [List.length_append, List.length_replicate]
      omega
    · rcases Nat.le_total length.toNat leadingMax with all | more
      · rw [show length.toNat - leading.length = 0 by omega, List.replicate_zero, List.append_nil,
          List.take_of_length_le (by omega)]
      · rw [List.take_left' (by omega)]
  · rintro ⟨data, announced, rfl⟩
    show (data.take leadingMax).length = _
    rw [List.length_take, announced, Nat.min_comm]

end Command

/-! ## Writes -/

/-- What is sent to write the data. -/
def writeTransfers (data : Bytes) : List Bytes :=
  (Command.write (.ofNat data.length) (data.take leadingMax)).frame ::
    if leadingMax < data.length then [data.drop leadingMax] else []

/-- The data that the transfers write: what the frame carries, and behind it the bytes that it
announces beyond that. -/
def writtenData? (sent : List Bytes) : Option Bytes :=
  match sent with
  | [] => none
  | frame :: rest =>
    match Command.ofFrame? frame, rest with
    | some (.write length leading), [] =>
      if length.toNat ≤ leadingMax then some leading else none
    | some (.write length leading), [raw] =>
      if leadingMax < length.toNat ∧ raw.length = length.toNat - leadingMax
      then some (leading ++ raw) else none
    | _, _ => none

section Announced

variable {data : Bytes} (fits : data.length ≤ transferMax)
include fits

theorem announced_length : (UInt16.ofNat data.length).toNat = data.length := by
  rw [UInt16.toNat_ofNat']
  exact Nat.mod_eq_of_lt (Nat.lt_succ_of_le fits)

theorem ofFrame?_write :
    Command.ofFrame? (Command.write (.ofNat data.length) (data.take leadingMax)).frame =
      some (.write (.ofNat data.length) (data.take leadingMax)) :=
  Command.ofFrame?_eq_some.mpr
    ⟨Command.complete_write_iff.mpr ⟨data, (announced_length fits).symm, rfl⟩, rfl⟩

theorem writtenData?_writeTransfers : writtenData? (writeTransfers data) = some data := by
  have reads := ofFrame?_write fits
  have announced := announced_length fits
  unfold writeTransfers
  by_cases long : leadingMax < data.length
  · rw [if_pos long]
    simp only [writtenData?, reads, announced, long, true_and, List.length_drop, if_true,
      List.take_append_drop]
  · rw [if_neg long]
    simp only [writtenData?, reads, announced, Nat.le_of_not_lt long, if_true]
    rw [List.take_of_length_le (Nat.le_of_not_lt long)]

end Announced

theorem writeTransfers_eq {length : UInt16} {data : Bytes} (announced : data.length = length.toNat) :
    writeTransfers data = (Command.write length (data.take leadingMax)).frame ::
      if leadingMax < length.toNat then [data.drop leadingMax] else [] := by
  rw [writeTransfers, announced, UInt16.ofNat_toNat]

/-- Nothing but what is sent to write the data is read as these data. -/
theorem writtenData?_eq_some {sent : List Bytes} {data : Bytes} :
    writtenData? sent = some data ↔ data.length ≤ transferMax ∧ sent = writeTransfers data := by
  refine ⟨fun reads => ?_, fun ⟨fits, same⟩ => same ▸ writtenData?_writeTransfers fits⟩
  unfold writtenData? at reads
  split at reads
  · cases reads
  split at reads
  · rename_i length leading isWrite
    obtain ⟨complete, rfl⟩ := Command.ofFrame?_eq_some.mp isWrite
    have carried : leading.length = min length.toNat leadingMax := complete
    have bound : length.toNat < 65536 := length.toNat_lt
    obtain ⟨within, same⟩ := Option.ite_none_right_eq_some.mp reads
    obtain rfl := Option.some.inj same
    have announced : leading.length = length.toNat := by omega
    refine ⟨by rw [announced, transferMax]; omega, ?_⟩
    rw [writeTransfers_eq announced, if_neg (Nat.not_lt_of_le within),
      List.take_of_length_le (by omega)]
  · rename_i length leading raw isWrite
    obtain ⟨complete, rfl⟩ := Command.ofFrame?_eq_some.mp isWrite
    have carried : leading.length = min length.toNat leadingMax := complete
    have bound : length.toNat < 65536 := length.toNat_lt
    obtain ⟨⟨beyond, follows⟩, same⟩ := Option.ite_none_right_eq_some.mp reads
    obtain rfl := Option.some.inj same
    have full : leading.length = leadingMax := by omega
    have announced : (leading ++ raw).length = length.toNat := by
      rw [List.length_append]
      omega
    refine ⟨by rw [announced, transferMax]; omega, ?_⟩
    rw [writeTransfers_eq announced, if_pos beyond, List.take_left' full, List.drop_left' full]
  · cases reads

/-! ### Writing on a link -/

/-- Steps without answers that fail have sent something that did not go out whole. -/
theorem GoThrough.ok_of_exact {steps : List Step} {events : List Link.Event}
    {outcome : Except Error (List Bytes)} (through : GoThrough steps events outcome)
    (silent : ∀ step ∈ steps, step.answer = none) (exact : ∀ event ∈ events, Exact event) :
    ∃ replies, outcome = .ok replies := by
  induction through with
  | done => exact ⟨[], rfl⟩
  | stops later fails =>
    obtain ⟨sent, unsent, rfl⟩ := fails.unsent (silent _ List.mem_cons_self)
    exact absurd (exact _ List.mem_cons_self) unsent
  | goesOn well through ih =>
    obtain ⟨replies, rfl⟩ := ih (fun step member => silent step (List.mem_cons_of_mem _ member))
      fun event member => exact event (List.mem_append_right _ member)
    exact ⟨_, rfl⟩

theorem wholly_silent {steps : List Step} {replies : List Bytes}
    (accept : List.Forall₂ Step.Accepts steps replies)
    (silent : ∀ step ∈ steps, step.answer = none) :
    wholly steps replies = (steps.map fun step => step.transfer.bytes).map sentWholly := by
  induction accept with
  | nil => rfl
  | @cons step reply steps replies accepts accept ih =>
    have none : step.answer = none := silent step List.mem_cons_self
    rw [wholly, ih fun other member => silent other (List.mem_cons_of_mem _ member), Step.wholly,
      none]
    rfl

theorem writeSteps_silent (data : Bytes) : ∀ step ∈ writeSteps data, step.answer = none := by
  unfold writeSteps
  split <;> simp [announceStep, restStep]

theorem map_bytes_writeSteps (data : Bytes) :
    (writeSteps data).map (fun step => step.transfer.bytes) = writeTransfers data := by
  unfold writeSteps writeTransfers
  split <;> rfl

theorem sentBytes_map_sentWholly (sent : List Bytes) : sentBytes (sent.map sentWholly) = sent := by
  induction sent with
  | nil => rfl
  | cons bytes sent ih => exact congrArg (bytes :: ·) ih

/-- The events of a write that wrote the data. -/
structure Wrote (data : Bytes) (events : List Link.Event) : Prop where
  sent : events = (writeTransfers data).map sentWholly
  reads : writtenData? (sentBytes events) = some data
  /-- a second transfer is made only if the frame cannot carry all data, and is as long as is
  announced -/
  rest : ∃ frame raw, sentBytes events = frame :: raw ∧ (raw = [] ↔ data.length ≤ leadingMax) ∧
    raw.flatten.length = (wordAt frame 2).toNat - leadingMax

theorem wrote_transfers {data : Bytes} (fits : data.length ≤ transferMax) :
    Wrote data ((writeTransfers data).map sentWholly) where
  sent := rfl
  reads := by rw [sentBytes_map_sentWholly, writtenData?_writeTransfers fits]
  rest := by
    rw [sentBytes_map_sentWholly]
    refine ⟨_, _, rfl, ?_⟩
    rw [Command.announced_write fits]
    by_cases long : leadingMax < data.length
    · rw [if_pos long, List.flatten_singleton, List.length_drop]
      exact ⟨⟨nofun, fun short => absurd long (Nat.not_lt_of_le short)⟩, rfl⟩
    · have short : data.length ≤ leadingMax := Nat.le_of_not_lt long
      rw [if_neg long]
      exact ⟨⟨fun _ => short, fun _ => rfl⟩, (Nat.sub_eq_zero_of_le short).symm⟩

section Write

variable {σ : Type} (machine : Machine σ Link) (state : σ) {data : Bytes}

theorem write_ok_iff (fits : data.length ≤ transferMax) :
    let ran := (write data).run.run machine state
    (ran.value = .ok () ↔ ∀ event ∈ ran.events, Exact event) ∧
      (ran.value = .ok () → Wrote data ran.events) := by
  intro ran
  obtain ⟨outcome, through, ends⟩ := write_takes fits σ machine state
  have value : ran.value = outcome.map fun _ => () := ends
  have went : GoThrough (writeSteps data) ran.events outcome := through
  have whole (replies : List Bytes) (well : outcome = .ok replies) : Wrote data ran.events := by
    obtain ⟨accept, same⟩ := went.accepts replies well
    rw [same, wholly_silent accept (writeSteps_silent data), map_bytes_writeSteps]
    exact wrote_transfers fits
  refine ⟨⟨fun well => ?_, fun exact => ?_⟩, fun well => ?_⟩
  · cases outcome with
    | error error => cases value.symm.trans well
    | ok replies =>
      obtain ⟨accept, same⟩ := went.accepts replies rfl
      rw [same]
      exact exact_of_wholly accept
  · obtain ⟨replies, rfl⟩ := went.ok_of_exact (writeSteps_silent data) exact
    exact value
  · cases outcome with
    | error error => cases value.symm.trans well
    | ok replies => exact whole replies rfl

theorem run_write_tooLong (long : transferMax < data.length) :
    (write data).run.run machine state =
      ⟨.error (.transferTooLong data.length), state, [], []⟩ := by
  unfold write
  rw [if_pos long]
  rfl

end Write

/-- Frames lose nothing.  Bytes are read as a command exactly if they are its frame and it carries
as much data as it can, so two such commands never share a frame; behind what it uses a frame is
zero.  Likewise data are read exactly from the transfers that write them.  A write that is not too
long is a success exactly if all it sends goes out whole, and then it has made these transfers; a
longer one sends nothing. -/
theorem frames_lose_nothing :
    (∀ bytes command, Command.ofFrame? bytes = some command ↔
      command.Complete ∧ bytes = command.frame) ∧
    (∀ first second : Command, first.Complete → second.Complete → first.frame = second.frame →
      first = second) ∧
    (∀ (command : Command) (index : Nat), command.used ≤ index → index < frameSize →
      command.frame[index]? = some 0) ∧
    (∀ sent data, writtenData? sent = some data ↔
      data.length ≤ transferMax ∧ sent = writeTransfers data) ∧
    ∀ (σ : Type) (machine : Machine σ Link) (state : σ) (data : Bytes),
      let ran := (write data).run.run machine state
      (data.length ≤ transferMax →
        (ran.value = .ok () ↔ ∀ event ∈ ran.events, Exact event) ∧
          (ran.value = .ok () → Wrote data ran.events)) ∧
      (transferMax < data.length →
        ran = ⟨.error (.transferTooLong data.length), state, [], []⟩) := by
  refine ⟨fun _ _ => Command.ofFrame?_eq_some, fun _ _ => Command.eq_of_frame_eq,
    fun command _ => command.frame_unused, fun _ _ => writtenData?_eq_some,
    fun σ machine state data => ⟨?_, ?_⟩⟩
  · exact write_ok_iff machine state
  · exact run_write_tooLong machine state

end SpiProgrammer.Bridge
