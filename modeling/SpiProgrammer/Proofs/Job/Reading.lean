import SpiProgrammer.Files.Directory
import SpiProgrammer.Job.Inspect
import SpiProgrammer.Proofs.Job.Write
import SpiProgrammer.Proofs.Session.Reading

/-! # Reading the chip into a file

Main statement: over a session, whatever faults strike its transfers, a reading keeps what it has
reported and nothing else; and the file is not touched before the whole range has been read, and
then holds it. -/
set_option autoImplicit false

namespace SpiProgrammer

theorem Directory.machine_create (directory : Directory) (path : String) (contents : Bytes) :
    let created := machine (.create path contents) directory
    (created.1 = .ok () ∧ created.2.read path = .ok contents) ∨
      ∃ fault, created = (.error fault, directory) := by
  simp only [machine]
  cases done : directory.create path contents with
  | error fault => exact .inr ⟨fault, rfl⟩
  | ok after => exact .inl ⟨rfl, read_of_create done⟩

namespace Job

open Bridge (Emulator Peer)

section Sessions

variable {τ : Type} (files : Machine τ Files) (store : τ) (peer : Peer)

def transferred (event : Bridge.Link.Event) : (Bridge.Link.both Files).Event :=
  ⟨.inl event.request, event.reply⟩

theorem onChip_throughLeft {α : Type} (operation : Spi.Operation α) :
    ((onChip operation).run.throughLeft Session.serve).course (Peer.machine.both files)
        (peer, store) =
      let inner := (Session.onLink operation.run).run Peer.machine peer
      ⟨inner.value.mapError .chip, (inner.state, store), inner.events.map transferred⟩ := by
  have alone : (attempt operation).throughLeft Session.serve =
      (Session.onLink operation.run).onLeft := Dialogue.onLeft_throughLeft _ _
  have maps : (onChip operation).run.throughLeft Session.serve =
      ((attempt operation).throughLeft Session.serve >>= fun outcome =>
        pure (outcome.mapError Failure.chip)) := Dialogue.through_bind _ (attempt operation) _
  rw [maps, alone, Dialogue.course_bind]
  simp only [Dialogue.course_pure, List.append_nil]
  simp only [Dialogue.course, Dialogue.run_onLeft]
  rfl

theorem onLink_read (address : UInt32) (length : Nat) :
    let ran := (Session.onLink (Flash.readInto Session.capabilities address
      (List.replicate length 0))).run Peer.machine peer
    (Session.onLink (Flash.read Session.capabilities address length).run).run Peer.machine peer =
      ⟨ran.value.outcome.map fun _ => ran.value.bytes, ran.state, ran.events, ran.notices⟩ := by
  intro ran
  rw [Flash.read_eq_readInto, Session.onLink, Dialogue.through_bind, Dialogue.run_bind]
  show Transcript.mk _ _ (_ ++ []) (_ ++ []) = _
  rw [List.append_nil, List.append_nil]
  rfl

theorem createFile_throughLeft (path : String) (contents : Bytes) (text : String) :
    ((do createFile path contents; say text : Job Unit).run.throughLeft Session.serve).course
        (Peer.machine.both files) (peer, store) =
      let created := files (.create path contents) store
      ⟨created.1.mapError .file, (peer, created.2),
        [⟨.inr (.create path contents), created.1⟩]⟩ := by
  have created : ((createFile path contents).run.through (Dialogue.serveLeft Session.serve)).course
      (Peer.machine.both files) (peer, store) =
      let created := files (.create path contents) store
      ⟨created.1.mapError .file, (peer, created.2),
        [⟨.inr (.create path contents), created.1⟩]⟩ := rfl
  rw [ExceptT.run_bind, Dialogue.throughLeft, Dialogue.through_bind, Dialogue.course_bind, created]
  rcases files (.create path contents) store with ⟨reply, after⟩
  cases reply <;> rfl

/-- The file is created once the range has been read into a blank buffer, and only then. -/
theorem read_course (path : String) (address length : UInt32) :
    let inner := (Session.onLink (Flash.readInto Session.capabilities address
      (List.replicate length.toNat 0))).run Peer.machine peer
    let created := files (.create path inner.value.bytes) store
    let course := ((read Session.capabilities path address length).run.throughLeft
      Session.serve).course (Peer.machine.both files) (peer, store)
    (∀ error, inner.value.outcome = .error error →
      course = ⟨.error (.chip error), (inner.state, store), inner.events.map transferred⟩) ∧
    (inner.value.outcome = .ok () →
      course = ⟨created.1.mapError .file, (inner.state, created.2),
        inner.events.map transferred ++ [⟨.inr (.create path inner.value.bytes), created.1⟩]⟩) := by
  have reads := onChip_throughLeft files store peer
    (Flash.read Session.capabilities address length.toNat)
  rw [onLink_read] at reads
  rcases went : (Session.onLink (Flash.readInto Session.capabilities address
    (List.replicate length.toNat 0))).run Peer.machine peer with
    ⟨⟨bytes, outcome⟩, next, events, notices⟩
  rw [went, Dialogue.throughLeft] at reads
  unfold read
  rw [ExceptT.run_bind, Dialogue.throughLeft, Dialogue.through_bind, Dialogue.course_bind, reads]
  intro inner created course
  refine ⟨fun error failed => ?_, fun well => ?_⟩
  · obtain rfl : outcome = .error error := failed
    show Course.mk _ _ (_ ++ []) = _
    rw [List.append_nil]
    rfl
  · obtain rfl : outcome = .ok () := well
    have creates := createFile_throughLeft files store next path bytes
      ("Wrote " ++ toString bytes.length ++ " bytes to " ++ Text.quoted path)
    exact congrArg (fun later : Course _ _ (Except Failure Unit) =>
      Course.mk later.value later.state (events.map transferred ++ later.events)) creates

end Sessions

/-- Over an emulated bridge in step, in which `start` leaves it, whatever its faults and statuses, a
reading that is accepted keeps what it has reported, however it ends, and comes to no command after
one that fails.  Reading into a file asks nothing of the files unless the whole range has been read;
then it creates the file with what was read.  So a directory is left as it was, or holds it. -/
theorem failed_read_keeps_what_it_reported {emulator : Emulator} (inStep : emulator.InStep)
    (address : UInt32) :
    (∀ (buffer : Bytes) (width : Spi.AddressWidth) (pieces : List Flash.Piece),
      Flash.readPlan Session.capabilities address.toNat buffer.length = .ok (width, pieces) →
      let ran := (Session.onLink (Flash.readInto Session.capabilities address buffer)).run
        Peer.machine (.emulated emulator)
      ∃ after count, ran.state = .emulated after ∧ after.InStep ∧ after.chip = emulator.chip ∧
        Flash.ReadKept emulator.chip Bridge.transferMax address.toNat buffer pieces ran.value
          (ran.notices.filterMap Notice.progress?) count ∧
        Session.ComesTo emulator ((pieces.take (count + 1)).map (Flash.Piece.reading width)) count
          ran) ∧
    (∀ (path : String) (length : UInt32) {τ : Type} (files : Machine τ Files) (store : τ),
      let inner := (Session.onLink (Flash.readInto Session.capabilities address
        (List.replicate length.toNat 0))).run Peer.machine (.emulated emulator)
      let ran := ((read Session.capabilities path address length).run.throughLeft
        Session.serve).run (Peer.machine.both files) (.emulated emulator, store)
      let contents := inner.value.bytes
      let created := files (.create path contents) store
      (∀ error, inner.value.outcome = .error error → ran.value = .error (.chip error) ∧
        ran.events = inner.events.map transferred ∧ ran.state = (inner.state, store)) ∧
      (inner.value.outcome = .ok () → contents.length = length.toNat ∧
        emulator.chip.Shows address.toNat contents ∧ ran.value = created.1.mapError .file ∧
        ran.events = inner.events.map transferred ++
          [⟨.inr (.create path contents), created.1⟩] ∧
        ran.state = (inner.state, created.2))) ∧
    (∀ (path : String) (length : UInt32) (directory : Directory),
      let ran := ((read Session.capabilities path address length).run.throughLeft
        Session.serve).run (Peer.machine.both Directory.machine) (.emulated emulator, directory)
      (∀ failure, ran.value = .error failure → ran.state.2 = directory) ∧
      (ran.value = .ok () → ∃ contents, ran.state.2.read path = .ok contents ∧
        contents.length = length.toNat ∧ emulator.chip.Shows address.toNat contents)) := by
  have filed {τ : Type} (files : Machine τ Files) (store : τ) (path : String) (length : UInt32) :=
    read_course files store (.emulated emulator) path address length
  refine ⟨fun buffer width pieces accepted => Session.readInto_kept inStep accepted, ?_, ?_⟩
  · intro path length τ files store inner ran contents created
    obtain ⟨stopped, filed⟩ := filed files store path length
    refine ⟨fun error failed => Dialogue.run_of_course (stopped error failed), fun well => ?_⟩
    obtain ⟨whole, shown⟩ := Session.readInto_whole inStep well
    rw [List.length_replicate] at whole
    exact ⟨whole, shown, Dialogue.run_of_course (filed well)⟩
  · intro path length directory ran
    obtain ⟨stopped, filed⟩ := filed Directory.machine directory path length
    cases ended : ((Session.onLink (Flash.readInto Session.capabilities address
      (List.replicate length.toNat 0))).run Peer.machine (.emulated emulator)).value.outcome with
    | error error =>
      obtain ⟨value, -, state⟩ := Dialogue.run_of_course (stopped error ended)
      have failed : ran.value = .error (.chip error) := value
      rw [failed]
      exact ⟨fun _ _ => congrArg Prod.snd state, nofun⟩
    | ok _ =>
      obtain ⟨whole, shown⟩ := Session.readInto_whole inStep ended
      rw [List.length_replicate] at whole
      obtain ⟨value, -, state⟩ := Dialogue.run_of_course (filed ended)
      simp only [ran, value, state]
      rcases Directory.machine_create directory path _ with ⟨created, held⟩ | ⟨fault, refused⟩
      · rw [created]
        exact ⟨nofun, fun _ => ⟨_, held, whole, shown⟩⟩
      · rw [refused]
        exact ⟨fun _ _ => rfl, nofun⟩

/-- The answer to the second of two reads comes one byte short. -/
theorem read_kept_over_short_answer :
    let emulator : Emulator := { faults := [⟨0x22, 2, .replyIsShort⟩] }
    let buffer : Bytes := List.replicate 70000 0x5A
    let pieces := Flash.cut (fun _ => Bridge.transferMax) 0x1000 70000
    let ran := (Session.onLink (Flash.readInto Session.capabilities 0x1000 buffer)).run
      Peer.machine (.emulated emulator)
    (emulator.InStep ∧
      Flash.readPlan Session.capabilities 0x1000 buffer.length = .ok (.three, pieces)) ∧
      ∃ after count, ran.state = .emulated after ∧ after.InStep ∧ after.chip = emulator.chip ∧
        Flash.ReadKept emulator.chip Bridge.transferMax 0x1000 buffer pieces ran.value
          (ran.notices.filterMap Notice.progress?) count ∧
        Session.ComesTo emulator ((pieces.take (count + 1)).map (Flash.Piece.reading .three)) count
          ran := by
  intro emulator buffer pieces
  have inStep : emulator.InStep := ⟨rfl, rfl⟩
  have reached : Flash.Reached .fourByteAddress (0x1000 + 70000) .three := .three (by decide)
  have accepted : Flash.readPlan Session.capabilities 0x1000 buffer.length =
      .ok (.three, pieces) := by
    rw [List.length_replicate]
    exact Flash.readPlan_of_readable reached (by decide)
  exact ⟨⟨inStep, accepted⟩,
    (failed_read_keeps_what_it_reported inStep 0x1000).1 buffer .three pieces accepted⟩

end Job

end SpiProgrammer
