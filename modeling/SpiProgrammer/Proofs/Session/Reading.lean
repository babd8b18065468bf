import SpiProgrammer.Proofs.Flash.Reading
import SpiProgrammer.Proofs.Session.Containment

/-! # Reading over a session

What is received goes into the buffer before it is looked at, so that a fault may leave anything in
the part of the piece in flight.  Main statement: whatever faults strike the transfers of an open
session, a reading keeps the pieces that it has reported, leaves what is behind the next as it was,
and transfers nothing but what these pieces and the next take. -/
set_option autoImplicit false

namespace SpiProgrammer

namespace Session

open Bridge (Emulator Peer)

theorem run_execute_cons {σ : Type} (machine : Machine σ Bridge.Link) (command : Spi.Command)
    (rest : List Spi.Command) (state : σ) :
    ((command :: rest).mapM execute).run machine state =
      let first := (execute command).run machine state
      let others := (rest.mapM execute).run machine first.state
      ⟨first.value :: others.value, others.state, first.events ++ others.events,
        first.notices ++ others.notices⟩ := by
  rw [List.mapM_cons, Dialogue.run_bind]
  simp only [Dialogue.run_bind, Dialogue.pure_eq, Dialogue.run_done, List.append_nil]

/-- An operation whose commands are known transfers what these take when they are executed one
after the other, and nothing else. -/
theorem onLink_transfers {α : Type} (d : Dialogue Spi.Master α) :
    ∀ {emulator : Emulator} {commands : List Flash.Executed},
      (d.run served emulator).events = commands.map Flash.Executed.event →
      let ran := (onLink d).run Emulator.machine emulator
      let alone := ((commands.map Flash.Executed.command).mapM execute).run Emulator.machine
        emulator
      alone.value = commands.map Flash.Executed.reply ∧ ran.events = alone.events ∧
        ran.state = alone.state := by
  induction d with
  | done value =>
    intro emulator commands asked
    obtain rfl : commands = [] := List.map_eq_nil_iff.mp asked.symm
    exact ⟨rfl, rfl, rfl⟩
  | say notice rest ih =>
    intro emulator commands asked
    rw [Dialogue.run_say] at asked
    obtain ⟨replies, events, state⟩ := ih asked
    rw [onLink, Dialogue.through, Dialogue.run_say]
    exact ⟨replies, events, state⟩
  | ask r next ih =>
    intro emulator commands asked
    rw [Dialogue.run_ask] at asked
    cases commands with
    | nil => cases asked
    | cons executed rest =>
      obtain ⟨first, later⟩ := List.cons.inj asked
      cases r with
      | delay time => cases congrArg Interface.Event.request first
      | execute command =>
        have same : ⟨command, (served (.execute command) emulator).1⟩ = executed :=
          Option.some.inj (congrArg Flash.executed? first)
        subst same
        obtain ⟨replies, events, state⟩ := ih _ later
        have one := Dialogue.run_bind Emulator.machine (execute command)
          (fun reply => onLink (next reply)) emulator
        rw [List.map_cons, run_execute_cons]
        intro ran alone
        have split : ran = _ := one
        rw [split]
        exact ⟨congrArg _ replies, congrArg _ events, state⟩

def executeAll (emulator : Emulator) (commands : List Spi.Command) :
    Transcript Bridge.Link Peer (List (Received Spi.Error)) :=
  (commands.mapM execute).run Peer.machine (.emulated emulator)

/-- The run comes to these commands and to nothing else; `count` of them succeed, and then the one
fails with which the run does. -/
structure ComesTo (emulator : Emulator) (commands : List Spi.Command) (count : Nat)
    (ran : Transcript Bridge.Link Peer (Received Spi.Error)) : Prop where
  events : ran.events = (executeAll emulator commands).events
  state : ran.state = (executeAll emulator commands).state
  outcomes : (executeAll emulator commands).value.map Received.outcome =
    List.replicate count (.ok ()) ++ Flash.ending ran.value.outcome

theorem readInto_kept {emulator : Emulator} (inStep : emulator.InStep) {address : UInt32}
    {buffer : Bytes} {width : Spi.AddressWidth} {pieces : List Flash.Piece}
    (accepted : Flash.readPlan capabilities address.toNat buffer.length = .ok (width, pieces)) :
    let ran := (onLink (Flash.readInto capabilities address buffer)).run Peer.machine
      (.emulated emulator)
    ∃ after count, ran.state = .emulated after ∧ after.InStep ∧ after.chip = emulator.chip ∧
      Flash.ReadKept emulator.chip Bridge.transferMax address.toNat buffer pieces ran.value
        (ran.notices.filterMap Notice.progress?) count ∧
      ComesTo emulator ((pieces.take (count + 1)).map (Flash.Piece.reading width)) count ran := by
  intro ran
  obtain ⟨stays, same, commands, count, upTo⟩ := Flash.readInto_driven served_drives inStep accepted
  obtain ⟨value, state, reports⟩ := onLink_run Notice.progress? progress_blind
    (Flash.readInto capabilities address buffer) emulator
  have inside : address.toNat + buffer.length ≤ Flash.Memory.addressSpace :=
    Nat.le_trans (Flash.readable_of_plan accepted).reached (Flash.size_le width)
  have kept := upTo.kept (Flash.chunked_of_plan accepted) inside
  obtain ⟨replies, events, last⟩ := onLink_transfers _ upTo.executed
  rw [upTo.asked] at replies events last
  refine ⟨_, count, state, stays, same, ?_, ?_, ?_, ?_⟩
  · simp only [ran, value, reports]
    exact kept
  · simp only [ran, executeAll, Emulator.run_emulated]
    exact events
  · simp only [ran, executeAll, Emulator.run_emulated]
    exact congrArg Peer.emulated last
  · rw [value]
    simp only [executeAll, Emulator.run_emulated, replies, List.map_map]
    exact upTo.replied

theorem readInto_whole {emulator : Emulator} (inStep : emulator.InStep) {address : UInt32}
    {buffer : Bytes}
    (well : ((onLink (Flash.readInto capabilities address buffer)).run Peer.machine
      (.emulated emulator)).value.outcome = .ok ()) :
    let received := ((onLink (Flash.readInto capabilities address buffer)).run Peer.machine
      (.emulated emulator)).value
    received.bytes.length = buffer.length ∧
      emulator.chip.Shows address.toNat received.bytes := by
  cases planned : Flash.readPlan capabilities address.toNat buffer.length with
  | error error =>
    rw [Flash.readInto, planned] at well
    cases well
  | ok plan =>
    obtain ⟨after, count, -, -, -, kept, -⟩ := readInto_kept inStep planned
    exact ⟨kept.length, kept.whole well⟩

end Session

end SpiProgrammer
