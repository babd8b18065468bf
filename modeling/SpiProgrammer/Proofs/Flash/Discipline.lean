import Mathlib.Data.List.Induction
import SpiProgrammer.Flash.Change
import SpiProgrammer.Flash.Read
import SpiProgrammer.Proofs.Dialogue.Watching

/-! # The order of commands that change the chip

A change is enabled first and waited for afterwards.  The commands of a run are followed by a
`Phase`, which says what may come next; a run that keeps to its phases is `Disciplined`, and its
outcome tells how it ended.

Programming and erasing keep to the phases whatever the master answers: each step is shown to lead
from its phase to the next, and loops over pieces, sectors and polls by induction. -/
set_option autoImplicit false

namespace SpiProgrammer.Flash

open Spi

/-! ## Commands that change memory, and the status -/

/-- A command together with what came of it. -/
structure Executed where
  command : Command
  reply : Received Error

def executed? : Master.Event → Option Executed
  | ⟨.execute command, reply⟩ => some ⟨command, reply⟩
  | ⟨.delay _, _⟩ => none

/-- How often the status is read at most after a change of memory; no limit for other commands. -/
def pollsAfter? (opcode : UInt8) : Option Nat :=
  if opcode = Opcode.programPage .three ∨ opcode = Opcode.programPage .four then some 1000
  else if opcode = Opcode.eraseSector .three ∨ opcode = Opcode.eraseSector .four then some 100
  else if opcode = Opcode.eraseChip then some 200
  else none

theorem pollsAfter?_programPage (width : AddressWidth) :
    pollsAfter? (Opcode.programPage width) = some 1000 := by
  cases width <;> rfl

theorem pollsAfter?_eraseSector (width : AddressWidth) :
    pollsAfter? (Opcode.eraseSector width) = some 100 := by
  cases width <;> rfl

theorem pollsAfter?_eraseChip : pollsAfter? Opcode.eraseChip = some 200 := rfl

def statusCommand : Command :=
  .readRegister Opcode.readStatus 1

/-- The status byte that a reply shows; a byte that did not arrive counts as zero. -/
def Executed.shown (executed : Executed) : UInt8 :=
  (Bytes.overlay [0] executed.reply.bytes).headD 0

/-- The status that a command observed, if it is a status read that succeeded. -/
def Executed.observed? (executed : Executed) : Option UInt8 :=
  match executed.reply.outcome with
  | .ok () => if executed.command.opcode = Opcode.readStatus then some executed.shown else none
  | .error _ => none

def Executed.Enables (executed : Executed) : Prop :=
  executed.command = .simple Opcode.writeEnable ∧ executed.reply.outcome = .ok ()

def lastStatus? (commands : List Executed) : Option UInt8 :=
  (commands.filterMap Executed.observed?).getLast?

theorem lastStatus?_snoc (earlier : List Executed) (executed : Executed) :
    lastStatus? (earlier ++ [executed]) = executed.observed?.or (lastStatus? earlier) := by
  unfold lastStatus?
  cases shown : executed.observed? <;> simp [shown]

def Busy (status : UInt8) : Prop :=
  status &&& Opcode.busyBit ≠ 0

instance (status : UInt8) : Decidable (Busy status) :=
  inferInstanceAs (Decidable (_ ≠ _))

/-! ## The discipline -/

section Discipline

variable {α ε : Type} (report : Error → ε) (outcome : Except ε α)

/-- What follows a change: the status is read until it shows the chip ready or cannot be read, and
`limit` times at most; if the chip is busy to the last, nothing follows and the run reports it. -/
inductive Waited : (limit : Nat) → List Executed → Prop
  | exhausted : outcome = .error (report .stillBusy) → Waited 0 []
  | failed {limit : Nat} {status : Executed} {error : Error} : status.command = statusCommand →
      status.reply.outcome = .error error → Waited (limit + 1) [status]
  | ready {limit : Nat} {status : Executed} {rest : List Executed} :
      status.command = statusCommand → status.reply.outcome = .ok () → ¬ Busy status.shown →
      Waited (limit + 1) (status :: rest)
  | busy {limit : Nat} {status : Executed} {rest : List Executed} :
      status.command = statusCommand → status.reply.outcome = .ok () → Busy status.shown →
      Waited limit rest → Waited (limit + 1) (status :: rest)

/-- A run that enables every change right before it, waits for it right after it, ends with the
first command that fails, and meanwhile executes nothing while the chip was last seen busy. -/
structure Disciplined (commands : List Executed) : Prop where
  enabled : ∀ before change after, commands = before ++ change :: after →
    (pollsAfter? change.command.opcode).isSome → ∃ earlier enable : _,
      before = earlier ++ [enable] ∧ Executed.Enables enable
  awaited : ∀ before change after limit, commands = before ++ change :: after →
    pollsAfter? change.command.opcode = some limit → change.reply.outcome = .ok () →
    Waited report outcome limit after
  stops : ∀ before failing after error, commands = before ++ failing :: after →
    failing.reply.outcome = .error error → after = [] ∧ outcome = .error (report error)
  patient : ∀ before next after status, commands = before ++ next :: after →
    lastStatus? before = some status → Busy status → next.command = statusCommand

end Discipline

/-! ## Phases of a run -/

/-- Where a run stands: nothing going on, a change enabled, or a change made and the status still
to be read, `polls` times after the next.  A failed command and a chip that stays busy end it. -/
inductive Phase where
  | idle
  | enabled
  | waiting (polls : Nat)
  | ended (error : Error)
deriving DecidableEq

namespace Phase

def wait : (polls : Nat) → Phase
  | 0 => .ended .stillBusy
  | polls + 1 => .waiting polls

/-- The commands that may come next. -/
def Allows : Phase → Command → Prop
  | .idle, command => pollsAfter? command.opcode = none ∧ command.opcode ≠ Opcode.readStatus
  | .enabled, command => (pollsAfter? command.opcode).isSome
  | .waiting _, command => command = statusCommand
  | .ended _, _ => False

instance : (phase : Phase) → (command : Command) → Decidable (phase.Allows command)
  | .idle, _ => inferInstanceAs (Decidable (_ ∧ _))
  | .enabled, _ => inferInstanceAs (Decidable (_ = _))
  | .waiting _, _ => inferInstanceAs (Decidable (_ = _))
  | .ended _, _ => inferInstanceAs (Decidable False)

def onward : Phase → Executed → Phase
  | .idle, executed => if executed.command = .simple Opcode.writeEnable then .enabled else .idle
  | .enabled, executed => wait ((pollsAfter? executed.command.opcode).getD 0)
  | .waiting polls, executed => if Busy executed.shown then wait polls else .idle
  | .ended error, _ => .ended error

def following (phase : Phase) (executed : Executed) : Phase :=
  match executed.reply.outcome with
  | .ok () => phase.onward executed
  | .error error => .ended error

def next? (phase : Phase) (executed : Executed) : Option Phase :=
  if phase.Allows executed.command then some (phase.following executed) else none

def after? (phase : Phase) (commands : List Executed) : Option Phase :=
  commands.foldlM next? phase

theorem next?_eq_some {phase next : Phase} {executed : Executed} :
    phase.next? executed = some next ↔
      phase.Allows executed.command ∧ phase.following executed = next := by
  simp [next?]

theorem following_ok {phase : Phase} {executed : Executed}
    (well : executed.reply.outcome = .ok ()) :
    phase.following executed = phase.onward executed := by
  rw [following, well]

theorem following_error {phase : Phase} {executed : Executed} {error : Error}
    (failed : executed.reply.outcome = .error error) : phase.following executed = .ended error := by
  rw [following, failed]

theorem after?_append (phase : Phase) (before after : List Executed) :
    phase.after? (before ++ after) = (phase.after? before).bind fun next => next.after? after :=
  List.foldlM_append

theorem after?_cons {phase last : Phase} {first : Executed} {rest : List Executed} :
    phase.after? (first :: rest) = some last ↔
      phase.Allows first.command ∧ (phase.following first).after? rest = some last := by
  show ((phase.next? first).bind fun next => next.after? rest) = some last ↔ _
  simp only [Option.bind_eq_some_iff, next?_eq_some]
  exact ⟨fun ⟨_, ⟨allows, rfl⟩, follows⟩ => ⟨allows, follows⟩,
    fun ⟨allows, follows⟩ => ⟨_, ⟨allows, rfl⟩, follows⟩⟩

theorem after?_ended {error : Error} {commands : List Executed} {last : Phase}
    (follows : (ended error).after? commands = some last) :
    commands = [] ∧ last = .ended error := by
  cases commands with
  | nil => exact ⟨rfl, (Option.some.inj follows).symm⟩
  | cons first rest => exact (after?_cons.mp follows).1.elim

theorem after?_cut {phase last : Phase} {before after : List Executed} {executed : Executed}
    (follows : phase.after? (before ++ executed :: after) = some last) :
    ∃ here, phase.after? before = some here ∧ here.Allows executed.command ∧
      (here.following executed).after? after = some last := by
  rw [after?_append] at follows
  obtain ⟨here, reached, follows⟩ := Option.bind_eq_some_iff.mp follows
  exact ⟨here, reached, after?_cons.mp follows⟩

theorem wait_ne_enabled (polls : Nat) : wait polls ≠ .enabled := by
  cases polls <;> exact nofun

theorem allows_change {phase : Phase} {command : Command} (allows : phase.Allows command)
    (changes : (pollsAfter? command.opcode).isSome) : phase = .enabled := by
  cases phase with
  | ended error => exact allows.elim
  | waiting polls =>
    rw [show command = statusCommand from allows] at changes
    cases changes
  | idle =>
    rw [allows.1] at changes
    cases changes
  | enabled => rfl

theorem following_enabled {phase : Phase} {executed : Executed}
    (enabled : phase.following executed = .enabled) : executed.Enables := by
  cases outcome : executed.reply.outcome with
  | error error =>
    rw [following_error outcome] at enabled
    cases enabled
  | ok _ =>
    rw [following_ok outcome] at enabled
    cases phase with
    | ended error => cases enabled
    | enabled => exact absurd enabled (wait_ne_enabled _)
    | waiting polls =>
      simp only [onward] at enabled
      split at enabled
      · exact absurd enabled (wait_ne_enabled polls)
      · cases enabled
    | idle =>
      simp only [onward] at enabled
      split at enabled
      · next enables => exact ⟨enables, outcome⟩
      · cases enabled

theorem after?_enabled {before : List Executed} (reached : idle.after? before = some .enabled) :
    ∃ earlier enable, before = earlier ++ [enable] ∧ Executed.Enables enable := by
  -- the phase is read off the last command, so the list is taken apart from its end
  induction before using List.reverseRecOn with
  | nil => cases reached
  | append_singleton earlier enable _ =>
    obtain ⟨here, -, -, reached⟩ := after?_cut reached
    exact ⟨earlier, enable, rfl, following_enabled (Option.some.inj reached)⟩

/-- Nothing is allowed here but reading the status. -/
def Patient (phase : Phase) : Prop :=
  (∃ polls, phase = .waiting polls) ∨ ∃ error, phase = .ended error

theorem Patient.allows {phase : Phase} (patient : phase.Patient) {command : Command}
    (allows : phase.Allows command) : command = statusCommand := by
  rcases patient with ⟨polls, rfl⟩ | ⟨error, rfl⟩
  · exact allows
  · exact allows.elim

theorem wait_patient (polls : Nat) : (wait polls).Patient := by
  cases polls with
  | zero => exact .inr ⟨_, rfl⟩
  | succ polls => exact .inl ⟨polls, rfl⟩

theorem allows_status {phase : Phase} {command : Command} (allows : phase.Allows command)
    (status : command.opcode = Opcode.readStatus) : ∃ polls, phase = .waiting polls := by
  cases phase with
  | ended error => exact allows.elim
  | waiting polls => exact ⟨polls, rfl⟩
  | idle => exact absurd status allows.2
  | enabled =>
    have none : pollsAfter? command.opcode = none := by
      rw [status]
      decide
    rw [Allows, none] at allows
    cases allows

/-- Where the chip was last seen busy, it is waited for. -/
theorem after?_busy {before : List Executed} {phase : Phase} {status : UInt8}
    (reached : idle.after? before = some phase) (last : lastStatus? before = some status)
    (busy : Busy status) : phase.Patient := by
  induction before using List.reverseRecOn generalizing phase with
  | nil => cases last
  | append_singleton earlier executed ih =>
    obtain ⟨here, before, allowed, reached⟩ := after?_cut reached
    cases Option.some.inj reached
    rw [lastStatus?_snoc] at last
    cases outcome : executed.reply.outcome with
    | error error => exact .inr ⟨error, following_error outcome⟩
    | ok _ =>
      rw [following_ok outcome]
      by_cases shows : executed.command.opcode = Opcode.readStatus
      · obtain ⟨polls, rfl⟩ := allows_status allowed shows
        have shown : executed.shown = status := by
          simpa [Executed.observed?, outcome, shows] using last
        rw [onward, shown, if_pos busy]
        exact wait_patient polls
      · -- the chip was busy before this command, but then it was the status that was read
        have unseen : executed.observed? = none := by simp [Executed.observed?, outcome, shows]
        rw [unseen, Option.none_or] at last
        have same := (ih before last).allows allowed
        rw [same] at shows
        exact absurd rfl shows

end Phase

/-! ## Runs that keep to the phases -/

section Runs

variable {α ε : Type} {report : Error → ε} {outcome : Except ε α}

/-- The outcome fits the phase in which the run ended: an ended run reports its error, and a run
does not stop half way through a change. -/
def Settled (report : Error → ε) : Except ε α → Phase → Prop
  | .ok _, last => last = .idle
  | .error failure, last => last = .idle ∨ ∃ error, last = .ended error ∧ failure = report error

theorem Settled.of_ended {error : Error} (settled : Settled report outcome (.ended error)) :
    outcome = .error (report error) := by
  cases outcome with
  | ok value => cases settled
  | error failure =>
    rcases settled with idle | ⟨_, ended, rfl⟩
    · cases idle
    · cases ended
      rfl

theorem Settled.ne_waiting {polls : Nat} : ¬ Settled report outcome (.waiting polls) := by
  cases outcome with
  | ok value => exact nofun
  | error failure =>
    rintro (idle | ⟨_, ended, _⟩)
    · cases idle
    · cases ended

theorem waited_of_phases {limit : Nat} {commands : List Executed} {last : Phase}
    (follows : (Phase.wait limit).after? commands = some last)
    (settled : Settled report outcome last) : Waited report outcome limit commands := by
  induction limit generalizing commands with
  | zero =>
    obtain ⟨rfl, rfl⟩ := Phase.after?_ended follows
    exact .exhausted settled.of_ended
  | succ polls ih =>
    cases commands with
    | nil =>
      cases Option.some.inj follows
      exact absurd settled Settled.ne_waiting
    | cons status rest =>
      obtain ⟨isStatus, follows⟩ := Phase.after?_cons.mp follows
      cases result : status.reply.outcome with
      | error error =>
        rw [Phase.following_error result] at follows
        obtain ⟨rfl, -⟩ := Phase.after?_ended follows
        exact .failed isStatus result
      | ok _ =>
        rw [Phase.following_ok result, Phase.wait, Phase.onward] at follows
        by_cases busy : Busy status.shown
        · rw [if_pos busy] at follows
          exact .busy isStatus result busy (ih follows)
        · exact .ready isStatus result busy

theorem disciplined_of_phases {commands : List Executed} {last : Phase}
    (follows : Phase.idle.after? commands = some last) (settled : Settled report outcome last) :
    Disciplined report outcome commands where
  enabled := by
    rintro before change after rfl changes
    obtain ⟨here, reached, allowed, -⟩ := Phase.after?_cut follows
    rw [Phase.allows_change allowed changes] at reached
    exact Phase.after?_enabled reached
  awaited := by
    rintro before change after limit rfl changes well
    obtain ⟨here, -, allowed, follows⟩ := Phase.after?_cut follows
    rw [Phase.allows_change allowed (changes ▸ rfl), Phase.following_ok well, Phase.onward,
      changes] at follows
    exact waited_of_phases follows settled
  stops := by
    rintro before failing after error rfl failed
    obtain ⟨here, -, -, follows⟩ := Phase.after?_cut follows
    rw [Phase.following_error failed] at follows
    obtain ⟨none, rfl⟩ := Phase.after?_ended follows
    exact ⟨none, settled.of_ended⟩
  patient := by
    rintro before next after status rfl last busy
    obtain ⟨here, reached, allowed, -⟩ := Phase.after?_cut follows
    exact (Phase.after?_busy reached last busy).allows allowed

end Runs

/-! ## Operations keep to the phases -/

/-- Watches the commands; letting time pass is no command. -/
def Phase.watch : Watch Phase Master :=
  .seeing executed? Phase.next?

def executed (events : List Master.Event) : List Executed :=
  events.filterMap executed?

theorem Phase.after?_watch (phase : Phase) (events : List Master.Event) :
    Phase.watch.after? phase events = phase.after? (executed events) :=
  Watch.after?_seeing _ _ _ _

theorem disciplined_of_obeys {α σ : Type} (machine : Machine σ Master) (state : σ)
    {operation : Operation α} (obeys : operation.run.Obeys Phase.watch (Settled id) .idle) :
    let ran := operation.run.run machine state
    Disciplined id ran.value (executed ran.events) := by
  intro ran
  obtain ⟨last, follows, settled⟩ := obeys.shown machine state
  exact disciplined_of_phases follows settled

/-- A success leads to one phase, and a failure ends the run. -/
def Leads {α : Type} (next : α → Phase) : Except Error α → Phase → Prop
  | .ok value, last => last = next value
  | .error error, last => last = .ended error

theorem Leads.settled {α : Type} {outcome : Except Error α} {last : Phase}
    (leads : Leads (fun _ => .idle) outcome last) : Settled id outcome last := by
  cases outcome with
  | ok value => exact leads
  | error error => exact .inr ⟨error, leads, rfl⟩

section Operations

variable {α β : Type}

theorem leads_step {x : Operation α} {f : α → Operation β} {phase : Phase} {between : α → Phase}
    {Ends : Except Error β → Phase → Prop} (first : x.run.Obeys Phase.watch (Leads between) phase)
    (failed : ∀ error, Ends (.error error) (.ended error))
    (second : ∀ value, (f value).run.Obeys Phase.watch Ends (between value)) :
    (x >>= f).run.Obeys Phase.watch Ends phase := by
  refine first.step ?_ ?_
  · rintro error last rfl
    exact failed error
  · rintro value last rfl
    exact second value

theorem leads_bind {x : Operation α} {f : α → Operation β} {phase : Phase} {between : α → Phase}
    {next : β → Phase} (first : x.run.Obeys Phase.watch (Leads between) phase)
    (second : ∀ value, (f value).run.Obeys Phase.watch (Leads next) (between value)) :
    (x >>= f).run.Obeys Phase.watch (Leads next) phase :=
  leads_step first (fun _ => rfl) second

theorem execute_obeys {command : Command} {phase : Phase}
    {Ends : Received Error → Phase → Prop} (allows : phase.Allows command)
    (ends : ∀ reply, Ends reply (phase.following ⟨command, reply⟩)) :
    (execute command).Obeys Phase.watch Ends phase :=
  fun reply => ⟨_, if_pos allows, ends reply⟩

theorem perform_obeys {command : Command} {phase next : Phase} (allows : phase.Allows command)
    (onward : ∀ executed : Executed, executed.command = command → phase.onward executed = next) :
    (perform command).run.Obeys Phase.watch (Leads fun _ => next) phase := by
  refine Dialogue.obeys_bind (execute_obeys allows fun reply => ?_)
  show Leads _ reply.outcome _
  cases result : reply.outcome with
  | error error => exact Phase.following_error result
  | ok _ => exact (Phase.following_ok result).trans (onward _ rfl)

theorem allows_read {address : UInt32} {length : Nat} (width : AddressWidth) :
    Phase.idle.Allows (.read (Opcode.read width) address width length) := by
  cases width <;> exact ⟨rfl, nofun⟩

theorem onward_read {opcode : UInt8} {address : UInt32} {width : AddressWidth} {length : Nat}
    {reply : Received Error} :
    Phase.idle.onward ⟨.read opcode address width length, reply⟩ = .idle := by
  refine if_neg fun same => ?_
  cases congrArg Command.address same

theorem writeEnable_obeys :
    writeEnable.run.Obeys Phase.watch (Leads fun _ => .enabled) .idle := by
  refine perform_obeys ⟨by decide, by decide⟩ ?_
  rintro executed enables
  rw [Phase.onward, if_pos enables]

theorem change_obeys {command : Command} {limit : Nat}
    (changes : pollsAfter? command.opcode = some limit) :
    (perform command).run.Obeys Phase.watch (Leads fun _ => .wait limit) .enabled := by
  refine perform_obeys (by rw [Phase.Allows, changes]; rfl) ?_
  rintro executed rfl
  rw [Phase.onward, changes]
  rfl

theorem readStatus_obeys (polls : Nat) :
    readStatus.run.Obeys Phase.watch
      (Leads fun status => if Busy status then .wait polls else .idle) (.waiting polls) := by
  unfold readStatus readRegister
  rw [ExceptT.run_bind]
  refine Dialogue.obeys_bind (Dialogue.obeys_bind (execute_obeys rfl fun reply => ?_))
  cases result : reply.outcome with
  | error error => exact Phase.following_error result
  | ok _ => exact Phase.following_ok result

theorem pollUntilReady_obeys (pause limit : Nat) :
    (pollUntilReady pause limit).run.Obeys Phase.watch
      (Leads fun ready => if ready then .idle else .ended .stillBusy) (.wait limit) := by
  -- `wait 0` has ended already, which is what the loop reports when it has run out of polls
  induction limit with
  | zero => rfl
  | succ polls ih =>
    unfold pollUntilReady
    refine leads_bind (readStatus_obeys polls) fun status => ?_
    by_cases busy : Busy status
    · rw [if_pos busy, if_neg busy]
      by_cases paused : pause > 0
      · rw [if_pos paused]
        exact fun _ => ⟨_, rfl, ih⟩
      · rw [if_neg paused]
        exact ih
    · rw [if_neg busy, if_pos (not_not.mp busy)]
      rfl

theorem waitReady_obeys {pause timeout limit : Nat} (polls : pollLimit pause timeout = limit) :
    (waitReady pause timeout).run.Obeys Phase.watch (Leads fun _ => .idle) (.wait limit) := by
  subst polls
  refine leads_bind (pollUntilReady_obeys pause _) fun ready => ?_
  cases ready <;> rfl

theorem changing_obeys {command : Command} {pause timeout limit : Nat}
    (changes : pollsAfter? command.opcode = some limit) (polls : pollLimit pause timeout = limit) :
    (do writeEnable; perform command; waitReady pause timeout : Operation Unit).run.Obeys
      Phase.watch (Leads fun _ => .idle) .idle := by
  refine leads_bind writeEnable_obeys fun _ => ?_
  refine leads_bind (change_obeys changes) fun _ => ?_
  exact waitReady_obeys polls

theorem programPage_obeys (address : UInt32) (width : AddressWidth) (data : Bytes) :
    (programPage address width data).run.Obeys Phase.watch (Leads fun _ => .idle) .idle :=
  changing_obeys (pollsAfter?_programPage width) rfl

theorem eraseSector_obeys (address : UInt32) (width : AddressWidth) :
    (eraseSector address width).run.Obeys Phase.watch (Leads fun _ => .idle) .idle :=
  changing_obeys (pollsAfter?_eraseSector width) rfl

theorem eraseChip_obeys : eraseChip.run.Obeys Phase.watch (Leads fun _ => .idle) .idle :=
  changing_obeys pollsAfter?_eraseChip rfl

theorem programPieces_obeys (width : AddressWidth) (pieces : List Piece) (data : Bytes) :
    (programPieces width pieces data).run.Obeys Phase.watch (Leads fun _ => .idle) .idle := by
  induction pieces generalizing data with
  | nil => rfl
  | cons piece rest ih =>
    exact leads_bind (programPage_obeys _ width _) fun _ => ih _

theorem eraseSectors_obeys (width : AddressWidth) (found : List Nat) :
    (eraseSectors width found).run.Obeys Phase.watch (Leads fun _ => .idle) .idle := by
  induction found with
  | nil => rfl
  | cons sector rest ih =>
    exact leads_bind (eraseSector_obeys _ width) fun _ => ih

theorem readPieces_obeys (width : AddressWidth) (pieces : List Piece) (filled buffer : Bytes) :
    (readPieces width pieces filled buffer).Obeys Phase.watch
      (fun reply last => Leads (fun _ => .idle) reply.outcome last) .idle := by
  induction pieces generalizing filled buffer with
  | nil => rfl
  | cons piece rest ih =>
    refine Dialogue.obeys_bind (execute_obeys (allows_read width) fun reply => ?_)
    obtain ⟨bytes, outcome⟩ := reply
    cases outcome with
    | error error => rfl
    | ok _ =>
      -- a read is no change, so the next piece starts from the same phase
      rw [Phase.following_ok rfl, onward_read]
      exact ih _ _

/-- A plan that is refused ends an operation before its first command. -/
theorem planned_obeys {γ : Type} {plan : Except Error γ} {f : γ → Operation α}
    (carried : ∀ made, (f made).run.Obeys Phase.watch (Settled id) .idle) :
    (do f (← plan) : Operation α).run.Obeys Phase.watch (Settled id) .idle := by
  cases plan with
  | error error => exact .inl rfl
  | ok made => exact carried made

theorem program_obeys (capabilities : Capabilities) (address : UInt32) (data : Bytes) :
    (program capabilities address data).run.Obeys Phase.watch (Settled id) .idle :=
  planned_obeys fun (width, pieces) =>
    (programPieces_obeys width pieces data).imp fun _ _ leads => leads.settled

theorem erase_obeys (capabilities : Capabilities) (address length : UInt32) :
    (erase capabilities address length).run.Obeys Phase.watch (Settled id) .idle :=
  planned_obeys fun (width, found) =>
    (eraseSectors_obeys width found).imp fun _ _ leads => leads.settled

theorem read_obeys (capabilities : Capabilities) (address : UInt32) (length : Nat) :
    (read capabilities address length).run.Obeys Phase.watch (Settled id) .idle := by
  refine planned_obeys fun (width, pieces) => ?_
  refine Dialogue.obeys_lift ((readPieces_obeys width pieces [] _).imp ?_)
  rintro ⟨bytes, outcome⟩ last leads
  cases outcome with
  | error error => exact leads.settled
  | ok _ => exact leads

end Operations

end SpiProgrammer.Flash
