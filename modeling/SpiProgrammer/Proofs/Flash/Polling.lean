import Mathlib.Algebra.GroupWithZero.Nat
import Mathlib.Logic.Function.Iterate
import SpiProgrammer.Proofs.Flash.Asking
import SpiProgrammer.Proofs.Dialogue.Course

/-! # How the chip is polled

What a master would show of the status, look after look, is a sequence that does not depend on how
often the status is read.  Polling goes along it: each look that shows the chip busy leads, after
its pause, to the next one.

Main statement: the first look of another kind decides how polling ends, if it comes before the
number of looks that the two times allow is used up, and otherwise that number is used up; nothing
else is executed, and the pauses take no longer than the time allowed or one pause. -/
set_option autoImplicit false

namespace SpiProgrammer.Flash

open Spi

/-! ## Looks at the status -/

structure ShowsBusy (reply : Received Error) : Prop where
  read : reply.outcome = .ok ()
  busy : Busy (Executed.shown ⟨statusCommand, reply⟩)

structure ShowsReady (reply : Received Error) : Prop where
  read : reply.outcome = .ok ()
  ready : ¬ Busy (Executed.shown ⟨statusCommand, reply⟩)

section Looks

variable {σ : Type} (machine : Machine σ Master) (pause : Nat)

def afterLook (state : σ) : σ :=
  let next := (machine (.execute statusCommand) state).2
  if pause > 0 then (machine (.delay pause) next).2 else next

/-- What each look at the status gives, if a pause follows every one before it. -/
def looks (state : σ) (index : Nat) : Received Error :=
  (machine (.execute statusCommand) ((afterLook machine pause)^[index] state)).1

end Looks

def lookEvent (reply : Received Error) : Master.Event :=
  ⟨.execute statusCommand, reply⟩

def pauseEvents (pause : Nat) : List Master.Event :=
  if pause > 0 then [⟨.delay pause, ()⟩] else []

/-- The first `count` looks, each with its pause. -/
def busyEvents (shown : Nat → Received Error) (pause count : Nat) : List Master.Event :=
  (List.range count).flatMap fun index => lookEvent (shown index) :: pauseEvents pause

theorem busyEvents_succ (shown : Nat → Received Error) (pause count : Nat) :
    busyEvents shown pause (count + 1) =
      busyEvents shown pause count ++ lookEvent (shown count) :: pauseEvents pause := by
  simp [busyEvents, List.range_succ]

def timeAsked (events : List Master.Event) : Nat :=
  (events.map fun event =>
    match event.request with
    | .delay time => time
    | .execute _ => 0).sum

theorem executed_append (first later : List Master.Event) :
    executed (first ++ later) = executed first ++ executed later :=
  List.filterMap_append

theorem timeAsked_append (first later : List Master.Event) :
    timeAsked (first ++ later) = timeAsked first + timeAsked later := by
  simp [timeAsked]

theorem length_executed_busyEvents (shown : Nat → Received Error) (pause count : Nat) :
    (executed (busyEvents shown pause count)).length = count := by
  induction count with
  | zero => rfl
  | succ count ih =>
    have one : (executed (lookEvent (shown count) :: pauseEvents pause)).length = 1 := by
      unfold pauseEvents
      split <;> rfl
    rw [busyEvents_succ, executed_append, List.length_append, ih, one]

theorem timeAsked_busyEvents (shown : Nat → Received Error) (pause count : Nat) :
    timeAsked (busyEvents shown pause count) = count * pause := by
  induction count with
  | zero => exact (Nat.zero_mul pause).symm
  | succ count ih =>
    have one : timeAsked (lookEvent (shown count) :: pauseEvents pause) = pause := by
      unfold pauseEvents
      split
      · simp [timeAsked, lookEvent]
      · simp [timeAsked, lookEvent]
        omega
    rw [busyEvents_succ, timeAsked_append, ih, one, Nat.succ_mul]

/-! ## How often the status is read -/

/-- As many pauses as there are looks take no longer than the time allowed, or one pause. -/
theorem pollLimit_mul_le (pause timeout : Nat) :
    pollLimit pause timeout * pause ≤ max timeout pause := by
  have within : timeout / max pause 1 * pause ≤ timeout :=
    Nat.le_trans (Nat.mul_le_mul_left _ (Nat.le_max_left ..)) (Nat.div_mul_le_self ..)
  unfold pollLimit
  rcases Nat.le_total (timeout / max pause 1) 1 with few | many
  · rw [Nat.max_eq_right few, Nat.one_mul]
    exact Nat.le_max_right ..
  · rw [Nat.max_eq_left many]
    exact Nat.le_trans within (Nat.le_max_left ..)

/-! ## One look -/

section Polling

variable {σ : Type} {machine : Machine σ Master} {pause : Nat} {state : σ}

theorem readStatus_course {reply : Received Error} {next : σ}
    (answered : machine (.execute statusCommand) state = (reply, next)) :
    readStatus.run.course machine state =
      ⟨reply.outcome.map fun _ => Executed.shown ⟨statusCommand, reply⟩, next,
        [lookEvent reply]⟩ := by
  have asks : (readRegister Opcode.readStatus 1).run.course machine state =
      let answer := machine (.execute statusCommand) state
      ⟨answer.1.outcome.map fun _ => Bytes.overlay (List.replicate 1 0) answer.1.bytes, answer.2,
        [lookEvent answer.1]⟩ := rfl
  obtain ⟨bytes, outcome⟩ := reply
  rw [answered] at asks
  unfold readStatus
  cases outcome with
  | error error => exact Dialogue.course_bind_error machine _ _ asks
  | ok _ => exact Dialogue.course_bind_ok machine _ _ asks

variable {limit : Nat}

theorem pollUntilReady_busy (busy : ShowsBusy (machine (.execute statusCommand) state).1) :
    (pollUntilReady pause (limit + 1)).run.course machine state =
      let later := (pollUntilReady pause limit).run.course machine (afterLook machine pause state)
      ⟨later.value, later.state, lookEvent (machine (.execute statusCommand) state).1 ::
        pauseEvents pause ++ later.events⟩ := by
  unfold afterLook pauseEvents
  rcases answered : machine (.execute statusCommand) state with ⟨reply, next⟩
  have looked := readStatus_course answered
  rw [answered] at busy
  rw [busy.read] at looked
  rw [pollUntilReady, Dialogue.course_bind_ok machine _ _ looked, if_neg busy.busy]
  by_cases pauses : pause > 0
  · rw [if_pos pauses, if_pos pauses, if_pos pauses,
      Dialogue.course_bind_ok machine _ _ (Dialogue.course_lift machine _ _)]
    rfl
  · rw [if_neg pauses, if_neg pauses, if_neg pauses]

theorem pollUntilReady_last (last : ¬ ShowsBusy (machine (.execute statusCommand) state).1) :
    let reply := (machine (.execute statusCommand) state).1
    let ran := (pollUntilReady pause (limit + 1)).run.course machine state
    ran.value = (reply.outcome.map fun _ => true) ∧ ran.events = [lookEvent reply] := by
  rcases answered : machine (.execute statusCommand) state with ⟨reply, next⟩
  have looked := readStatus_course answered
  rw [answered] at last
  rw [pollUntilReady]
  cases outcome : reply.outcome with
  | error error =>
    rw [outcome] at looked
    rw [Dialogue.course_bind_error machine _ _ looked]
    exact ⟨by rw [outcome]; rfl, rfl⟩
  | ok _ =>
    have ready : Executed.shown ⟨statusCommand, reply⟩ &&& Opcode.busyBit = 0 :=
      not_not.mp fun busy => last ⟨outcome, busy⟩
    rw [outcome] at looked
    rw [Dialogue.course_bind_ok machine _ _ looked, if_pos ready]
    exact ⟨by rw [outcome]; rfl, rfl⟩

/-! ## Many looks -/

theorem pollUntilReady_skip {count : Nat}
    (busy : ∀ index < count, ShowsBusy (looks machine pause state index)) :
    ∀ left, (pollUntilReady pause (count + left)).run.course machine state =
      let later := (pollUntilReady pause left).run.course machine
        ((afterLook machine pause)^[count] state)
      ⟨later.value, later.state,
        busyEvents (looks machine pause state) pause count ++ later.events⟩ := by
  -- on the looks skipped: the last of them is the first of those behind the others
  induction count with
  | zero =>
    intro left
    rw [Nat.zero_add]
    rfl
  | succ count ih =>
    intro left
    have first := ih (fun index below => busy index (Nat.lt_succ_of_lt below)) (left + 1)
    rw [pollUntilReady_busy (busy count (Nat.lt_succ_self count))] at first
    rw [Nat.succ_add_eq_add_succ, first, busyEvents_succ, Function.iterate_succ_apply']
    simp only [List.append_assoc]
    rfl

theorem waitReady_course {timeout : Nat} {ready : Except Error Bool} {last : σ}
    {events : List Master.Event}
    (polled : (pollUntilReady pause (pollLimit pause timeout)).run.course machine state =
      ⟨ready, last, events⟩) :
    (waitReady pause timeout).run.course machine state =
      ⟨ready.bind fun shown => if shown then .ok () else .error .stillBusy, last, events⟩ := by
  unfold waitReady
  cases ready with
  | error error => exact Dialogue.course_bind_error machine _ _ polled
  | ok shown =>
    rw [Dialogue.course_bind_ok machine _ _ polled]
    cases shown with
    | true => simp [Except.bind]
    | false =>
      show Course.mk _ _ (events ++ []) = _
      rw [List.append_nil]
      rfl

/-! ## The end of polling -/

/-- The looks of a run: `count` that showed the chip busy, each with its pause, and the last one if
there is another. -/
structure Polled (shown : Nat → Received Error) (pause count : Nat) (last : Option (Received Error))
    (events : List Master.Event) : Prop where
  events_eq : events = busyEvents shown pause count ++ last.toList.map lookEvent
  reads : (executed events).length = count + last.toList.length
  delays : timeAsked events = count * pause

theorem polled_of_events {shown : Nat → Received Error} {count : Nat}
    {last : Option (Received Error)} {events : List Master.Event}
    (same : events = busyEvents shown pause count ++ last.toList.map lookEvent) :
    Polled shown pause count last events where
  events_eq := same
  reads := by
    have rest : (executed (last.toList.map lookEvent)).length = last.toList.length := by
      cases last <;> rfl
    rw [same, executed_append, List.length_append, length_executed_busyEvents, rest]
  delays := by
    have rest : timeAsked (last.toList.map lookEvent) = 0 := by
      cases last <;> rfl
    rw [same, timeAsked_append, timeAsked_busyEvents, rest, Nat.add_zero]

section Ends

variable {timeout count : Nat}
  (busy : ∀ index < count, ShowsBusy (looks machine pause state index))
include busy

theorem waitReady_last (below : count < pollLimit pause timeout)
    (last : ¬ ShowsBusy (looks machine pause state count)) :
    let ran := (waitReady pause timeout).run.course machine state
    ran.value = (looks machine pause state count).outcome ∧
      Polled (looks machine pause state) pause count (some (looks machine pause state count))
        ran.events := by
  obtain ⟨left, limit⟩ := Nat.exists_eq_add_of_lt below
  have skipped := pollUntilReady_skip busy (left + 1)
  rw [← Nat.add_assoc, ← limit] at skipped
  have ends := @pollUntilReady_last σ machine pause _ left last
  have decides (outcome : Except Error Unit) : ((outcome.map fun _ => true).bind fun shown =>
      if shown then .ok () else .error .stillBusy) = outcome := by
    cases outcome <;> rfl
  rw [waitReady_course skipped, ends.1, ends.2]
  exact ⟨decides _, polled_of_events rfl⟩

theorem waitReady_exhausted (all : count = pollLimit pause timeout) :
    let ran := (waitReady pause timeout).run.course machine state
    ran.value = .error .stillBusy ∧
      Polled (looks machine pause state) pause count none ran.events := by
  have skipped := pollUntilReady_skip busy 0
  rw [Nat.add_zero, all] at skipped
  rw [waitReady_course skipped, ← all]
  exact ⟨rfl, polled_of_events rfl⟩

end Ends

theorem busy_or_first (shown : Nat → Received Error) (limit : Nat) :
    (∀ index < limit, ShowsBusy (shown index)) ∨
      ∃ count < limit, (∀ index < count, ShowsBusy (shown index)) ∧ ¬ ShowsBusy (shown count) := by
  induction limit with
  | zero => exact .inl nofun
  | succ limit ih =>
    rcases ih with all | ⟨count, below, busy, other⟩
    · by_cases next : ShowsBusy (shown limit)
      · refine .inl fun index below => ?_
        rcases Nat.lt_succ_iff_lt_or_eq.mp below with before | rfl
        · exact all index before
        · exact next
      · exact .inr ⟨limit, Nat.lt_succ_self limit, all, next⟩
    · exact .inr ⟨count, Nat.lt_succ_of_lt below, busy, other⟩

end Polling

def StatusOnly : MasterRequest → Prop
  | .execute command => command = statusCommand
  | .delay _ => True

theorem statusOnly_waits : Waits StatusOnly where
  looks := rfl
  delays _ := trivial

/-- The status is read until a look does not show the chip busy, and its outcome is that of the
wait; if none of the looks allowed is such, the wait fails.  Nothing but the status is read, and a
pause is asked for behind each busy look alone. -/
theorem waitReady_polls_exactly {σ : Type} (machine : Machine σ Master) (state : σ)
    (pause timeout : Nat) :
    let limit := max 1 (timeout / max 1 pause)
    let shown := looks machine pause state
    let ran := (waitReady pause timeout).run.run machine state
    0 < max 1 pause ∧
      (ran.value = .ok () ↔
        ∃ count < limit, (∀ index < count, ShowsBusy (shown index)) ∧ ShowsReady (shown count)) ∧
      (∀ count < limit, (∀ index < count, ShowsBusy (shown index)) →
        ¬ ShowsBusy (shown count) →
          ran.value = (shown count).outcome ∧
            Polled shown pause count (some (shown count)) ran.events) ∧
      ((∀ index < limit, ShowsBusy (shown index)) →
        ran.value = .error .stillBusy ∧ Polled shown pause limit none ran.events) ∧
      (∀ made ∈ executed ran.events, made.command = statusCommand) ∧
      timeAsked ran.events ≤ max timeout pause := by
  intro limit shown ran
  have same : limit = pollLimit pause timeout := by
    simp only [limit, pollLimit, Nat.max_comm]
  have ends (count : Nat) (below : count < limit) (busy : ∀ index < count, ShowsBusy (shown index))
      (last : ¬ ShowsBusy (shown count)) : ran.value = (shown count).outcome ∧
        Polled shown pause count (some (shown count)) ran.events :=
    waitReady_last busy (same ▸ below) last
  have exhausts (busy : ∀ index < limit, ShowsBusy (shown index)) :
      ran.value = .error .stillBusy ∧ Polled shown pause limit none ran.events :=
    waitReady_exhausted busy same
  have bounded (count : Nat) (within : count ≤ limit) : count * pause ≤ max timeout pause :=
    Nat.le_trans (Nat.mul_le_mul_right pause (same ▸ within)) (pollLimit_mul_le pause timeout)
  have statuses : ∀ made ∈ executed ran.events, made.command = statusCommand :=
    executed_of_asks (waitReady_asks statusOnly_waits pause timeout) machine state
  refine ⟨Nat.le_max_left .., ?_, ends, exhausts, statuses, ?_⟩
  · constructor
    · intro well
      rcases busy_or_first shown limit with all | ⟨count, below, busy, other⟩
      · rw [(exhausts all).1] at well
        cases well
      · have read := (ends count below busy other).1.symm.trans well
        exact ⟨count, below, busy, read, fun shows => other ⟨read, shows⟩⟩
    · rintro ⟨count, below, busy, ready⟩
      exact (ends count below busy fun shows => ready.ready shows.busy).1.trans ready.read
  · rcases busy_or_first shown limit with all | ⟨count, below, busy, other⟩
    · rw [(exhausts all).2.delays]
      exact bounded limit (Nat.le_refl _)
    · rw [(ends count below busy other).2.delays]
      exact bounded count (Nat.le_of_lt below)

end SpiProgrammer.Flash
