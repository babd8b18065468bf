import SpiProgrammer.Proofs.Bridge.Frames
import SpiProgrammer.Session.Basic

/-! # A session closes the bridge once

Opening a session never closes the bridge, and nothing that is done with it does.  Giving it up
sends the frame that closes the bridge and nothing else, whatever is answered: closing gives it up
and the drop that follows finds it closed, and a drop alone gives it up as well. -/
set_option autoImplicit false

namespace SpiProgrammer.Session

open Bridge

/-! ## Opening and using a session -/

theorem checkVersion_quiet : Quiet checkVersion.run := by
  refine (query_quiet plain_getVersion).andThen fun version => ?_
  refine Quiet.noting ?_ _ _
  split <;> rfl

theorem settleClock_quiet (wanted : Nat) : Quiet (settleClock wanted).run := by
  unfold settleClock
  split
  · rfl
  have clock : Quiet inputClock.run := (query_quiet plain_getClock).andThen fun _ => rfl
  refine clock.andThen fun input => ?_
  dsimp only
  split <;> rfl

theorem start_quiet (frequency : Nat) : Quiet (start frequency).run := by
  refine Quiet.andThen ?_ fun _ => ?_
  · cases checkFrequency frequency <;> rfl
  refine checkVersion_quiet.andThen fun version => ?_
  refine (settleClock_quiet frequency).andThen fun clock => ?_
  exact (query_quiet (plain_configure _)).andThen fun _ => rfl

theorem execute_quiet (command : Spi.Command) : Quiet (execute command) := by
  refine (transact_quiet command.sent command.readLength).bind fun received => ?_
  cases received.outcome <;> rfl

theorem serve_quiet (r : Spi.MasterRequest) : Quiet (serve r) := by
  cases r with
  | execute command => exact execute_quiet command
  | delay microseconds => rfl

/-- What can be asked of an open session. -/
inductive UseRequest where
  | transact (data : Bytes) (length : Nat)
  | master (r : Spi.MasterRequest)

@[reducible]
def UseReply : UseRequest → Type
  | .transact _ _ => Received Error
  | .master r => Spi.MasterReply r

@[reducible]
def Use : Interface where
  Request := UseRequest
  Reply := UseReply

def serveUse : (r : UseRequest) → Dialogue Link (UseReply r)
  | .transact data length => transact data length
  | .master r => serve r

theorem use_quiet {α : Type} (use : Dialogue Use α) : Quiet (use.through serveUse) := by
  refine Dialogue.obeys_through ?_ use false rfl
  rintro (⟨data, length⟩ | r) _ rfl
  · exact transact_quiet data length
  · exact serve_quiet r

/-! ## Giving a session up -/

/-- Keeps all that is sent, in order. -/
def keep? (sent : List Sending) (sending : Sending) : Option (List Sending) :=
  some (sent ++ [sending])

theorem foldlM_keep? (sent later : List Sending) :
    later.foldlM keep? sent = some (sent ++ later) := by
  induction later generalizing sent with
  | nil => rw [List.append_nil]; rfl
  | cons sending rest ih =>
    rw [List.foldlM_cons, List.append_cons]
    exact ih _

theorem finish_closes (sent : List Sending) : finish.Obeys (.seeing Link.sending? keep?)
    (fun _ last => ∃ whole, last = sent ++ [⟨Command.close.frame, whole⟩]) sent := by
  have closes := @query_obeys Unit _ keep? sent
    (fun whole => sent ++ [⟨Command.close.frame, whole⟩]) .close acknowledgement fun _ => rfl
  unfold finish
  refine Dialogue.obeys_bind ?_
  show (close.run >>= _).Obeys _ _ sent
  refine Dialogue.obeys_bind (closes.imp ?_)
  rintro (error | _) last closed <;> exact closed

theorem drop_eq (session : Session) : ({ session } : Owned).drop = finish := by
  simp [Owned.drop, Owned.shutDown]

/-- The drop at the end of closing finds the session given up. -/
theorem close_eq (session : Session) : ({ session } : Owned).close = finish := by
  simp [Owned.close, Owned.drop, Owned.shutDown]

/-! ## A whole life -/

inductive Ending where
  | closed
  | dropped

def Owned.giveUp (owned : Owned) : Ending → Dialogue Link Unit
  | .closed => owned.close
  | .dropped => owned.drop

def spend {α : Type} (session : Session) (use : Dialogue Use α) (ending : Ending) :
    Dialogue Link α := do
  let value ← use.through serveUse
  let owned : Owned := { session }
  owned.giveUp ending
  return value

def live {α : Type} (frequency : Nat) (use : Session → Dialogue Use α) (ending : Ending) :
    Exchange α := do
  let session ← start frequency
  liftM (spend session (use session) ending : Dialogue Link α)

/-- What was sent ends with the frame that closes the bridge, and that is the only such frame. -/
structure ClosedOnce (before all : List Sending) : Prop where
  last : ∃ whole, all = before ++ [⟨Command.close.frame, whole⟩]
  once : (frames false all).count Command.close.frame = 1

theorem stayOpen_append {first second : List Sending}
    (before : first.foldlM stayOpen? false = some false)
    (after : second.foldlM stayOpen? false = some false) :
    (first ++ second).foldlM stayOpen? false = some false := by
  rw [List.foldlM_append, before]
  exact after

theorem closedOnce_of_stayOpen {before : List Sending}
    (stays : before.foldlM stayOpen? false = some false) (whole : Bool) :
    ClosedOnce before (before ++ [⟨Command.close.frame, whole⟩]) where
  last := ⟨whole, rfl⟩
  once := by
    obtain ⟨never, joins⟩ := frames_of_stayOpen? stays
    rw [joins, List.count_append, List.count_eq_zero_of_not_mem never, Nat.zero_add]
    exact List.count_singleton_self (a := Command.close.frame)

def sendings (events : List Link.Event) : List Sending :=
  events.filterMap Link.sending?

section Runs

variable {α σ : Type} (machine : Machine σ Link) (state : σ)

theorem sendings_of_quiet {d : Dialogue Link α} (quiet : Quiet d) :
    (sendings (d.run machine state).events).foldlM stayOpen? false = some false := by
  obtain ⟨last, follows, rfl⟩ := quiet.shown machine state
  exact follows

theorem sendings_of_finish : ∃ whole,
    sendings (finish.run machine state).events = [⟨Command.close.frame, whole⟩] := by
  obtain ⟨last, follows, whole, rfl⟩ := (finish_closes []).shown machine state
  rw [foldlM_keep?] at follows
  exact ⟨whole, Option.some.inj follows⟩

theorem giveUp_eq (session : Session) (ending : Ending) :
    ({ session } : Owned).giveUp ending = finish := by
  cases ending with
  | closed => exact close_eq session
  | dropped => exact drop_eq session

theorem course_spend (session : Session) (use : Dialogue Use α) (ending : Ending) :
    (spend session use ending).course machine state =
      let used := (use.through serveUse).course machine state
      let finished := finish.course machine used.state
      ⟨used.value, finished.state, used.events ++ finished.events⟩ := by
  have ends : spend session use ending = do
      let value ← use.through serveUse
      finish
      return value := by
    unfold spend
    simp only [giveUp_eq]
  rw [ends]
  simp only [Dialogue.course_bind, Dialogue.course_pure, List.append_nil]

/-- If opening fails, the bridge is not closed; if it succeeds, the session is used and then closed
once, which changes nothing of what its use gave. -/
theorem live_closes_once (frequency : Nat) (use : Session → Dialogue Use α) (ending : Ending) :
    let opened := (start frequency).run.run machine state
    let ran := (live frequency use ending).run.run machine state
    match opened.value with
    | .error error =>
      ran.value = .error error ∧ Command.close.frame ∉ frames false (sendings ran.events)
    | .ok session =>
      let used := ((use session).through serveUse).run machine opened.state
      ran.value = .ok used.value ∧
        ClosedOnce (sendings (opened.events ++ used.events)) (sendings ran.events) := by
  intro opened ran
  have opening := sendings_of_quiet machine state (start_quiet frequency)
  have went : (start frequency).run.course machine state =
    ⟨opened.value, opened.state, opened.events⟩ := rfl
  have all : (live frequency use ending).run.course machine state =
    ⟨ran.value, ran.state, ran.events⟩ := rfl
  unfold live at all
  cases outcome : opened.value with
  | error error =>
    rw [outcome] at went
    rw [Dialogue.course_bind_error _ _ _ went] at all
    obtain ⟨value, -, events⟩ := Course.mk.inj all
    rw [← value, ← events]
    exact ⟨rfl, (frames_of_stayOpen? opening).1⟩
  | ok session =>
    rw [outcome] at went
    rw [Dialogue.course_bind_ok _ _ _ went, Dialogue.course_lift, course_spend] at all
    obtain ⟨value, -, events⟩ := Course.mk.inj all
    rw [← value, ← events]
    refine ⟨rfl, ?_⟩
    obtain ⟨whole, closes⟩ := sendings_of_finish machine
      (((use session).through serveUse).run machine opened.state).state
    have stays := stayOpen_append opening
      (sendings_of_quiet machine opened.state (use_quiet (use session)))
    have ends := closedOnce_of_stayOpen stays whole
    rw [← closes] at ends
    simp only [sendings, List.filterMap_append, List.append_assoc] at ends ⊢
    exact ends

end Runs

end SpiProgrammer.Session
