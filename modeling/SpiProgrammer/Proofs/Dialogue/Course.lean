import SpiProgrammer.Dialogue.Run

/-! # The course of a dialogue

What a run comes to once notices are left out: `answer` is its value together with the state it
leaves the machine in, and `course` adds the requests made on the way.  Both are computed along
the dialogue, one equation for each way in which dialogues are put together; a dialogue that may
fail goes on exactly where the part before it has succeeded. -/
set_option autoImplicit false

namespace SpiProgrammer

/-- Value, state and events of a run. -/
structure Course (I : Interface) (σ α : Type) where
  value : α
  state : σ
  events : List I.Event

/-- Asked these requests one after the other, the machine gives these replies and is left like
this. -/
def Machine.Answers {I : Interface} {σ : Type} (machine : Machine σ I) :
    σ → List I.Event → σ → Prop
  | state, [], last => state = last
  | state, event :: rest, last =>
    ∃ next, machine event.request state = (event.reply, next) ∧ machine.Answers next rest last

namespace Dialogue

variable {I : Interface} {α β ε σ : Type}

def course (machine : Machine σ I) (d : Dialogue I α) (state : σ) : Course I σ α :=
  let transcript := d.run machine state
  ⟨transcript.value, transcript.state, transcript.events⟩

def answer (machine : Machine σ I) (d : Dialogue I α) (state : σ) : α × σ :=
  let transcript := d.run machine state
  (transcript.value, transcript.state)

@[simp]
theorem course_pure (machine : Machine σ I) (value : α) (state : σ) :
    (pure value : Dialogue I α).course machine state = ⟨value, state, []⟩ := rfl

@[simp]
theorem course_log (machine : Machine σ I) (level : Log.Level) (text : String) (state : σ) :
    (log level text).course machine state = ⟨(), state, []⟩ := rfl

@[simp]
theorem course_request (machine : Machine σ I) (r : I.Request) (state : σ) :
    (request r).course machine state =
      ⟨(machine r state).1, (machine r state).2, [⟨r, (machine r state).1⟩]⟩ := rfl

theorem course_request_of {machine : Machine σ I} {r : I.Request} {state next : σ}
    {reply : I.Reply r} (answered : machine r state = (reply, next)) :
    (request r).course machine state = ⟨reply, next, [⟨r, reply⟩]⟩ := by
  rw [course_request, answered]

theorem course_bind (machine : Machine σ I) (d : Dialogue I α) (f : α → Dialogue I β)
    (state : σ) :
    (d >>= f).course machine state =
      let first := d.course machine state
      let second := (f first.value).course machine first.state
      ⟨second.value, second.state, first.events ++ second.events⟩ := by
  simp only [course, run_bind]

@[simp]
theorem course_map (machine : Machine σ I) (f : α → β) (d : Dialogue I α) (state : σ) :
    (f <$> d).course machine state =
      ⟨f (d.course machine state).value, (d.course machine state).state,
        (d.course machine state).events⟩ := by
  rw [map_eq_pure_bind, course_bind]
  simp

@[simp]
theorem answer_pure (machine : Machine σ I) (value : α) (state : σ) :
    (pure value : Dialogue I α).answer machine state = (value, state) := rfl

theorem answer_bind (machine : Machine σ I) (d : Dialogue I α) (f : α → Dialogue I β)
    (state : σ) :
    (d >>= f).answer machine state =
      (f (d.answer machine state).1).answer machine (d.answer machine state).2 := by
  simp only [answer, run_bind]

theorem answer_of_course {machine : Machine σ I} {d : Dialogue I α} {state next : σ} {value : α}
    {events : List I.Event} (ran : d.course machine state = ⟨value, next, events⟩) :
    d.answer machine state = (value, next) := by
  show ((d.course machine state).value, (d.course machine state).state) = _
  rw [ran]

theorem run_of_course {machine : Machine σ I} {d : Dialogue I α} {state next : σ} {value : α}
    {events : List I.Event} (course : d.course machine state = ⟨value, next, events⟩) :
    let ran := d.run machine state
    ran.value = value ∧ ran.events = events ∧ ran.state = next :=
  ⟨congrArg Course.value course, congrArg Course.events course, congrArg Course.state course⟩

/-! ## Dialogues that may fail -/

variable (machine : Machine σ I) (x : ExceptT ε (Dialogue I) α)
  (f : α → ExceptT ε (Dialogue I) β)

theorem answer_lift (d : Dialogue I α) (state : σ) :
    (liftM d : ExceptT ε (Dialogue I) α).run.answer machine state =
      (.ok (d.answer machine state).1, (d.answer machine state).2) := by
  show (d >>= fun value => pure (Except.ok value)).answer machine state = _
  rw [answer_bind, answer_pure]

theorem course_lift (d : Dialogue I α) (state : σ) :
    (liftM d : ExceptT ε (Dialogue I) α).run.course machine state =
      let inner := d.course machine state
      ⟨.ok inner.value, inner.state, inner.events⟩ := by
  show (d >>= fun value => pure (Except.ok value)).course machine state = _
  rw [course_bind]
  simp only [course_pure, List.append_nil]

theorem answer_bind_ok {state next : σ} {value : α}
    (went : x.run.answer machine state = (.ok value, next)) :
    (x >>= f).run.answer machine state = (f value).run.answer machine next := by
  rw [ExceptT.run_bind, answer_bind, went]

theorem answer_bind_error {state next : σ} {error : ε}
    (failed : x.run.answer machine state = (.error error, next)) :
    (x >>= f).run.answer machine state = (.error error, next) := by
  rw [ExceptT.run_bind, answer_bind, failed]
  rfl

theorem course_bind_ok {state next : σ} {value : α} {events : List I.Event}
    (went : x.run.course machine state = ⟨.ok value, next, events⟩) :
    (x >>= f).run.course machine state =
      let rest := (f value).run.course machine next
      ⟨rest.value, rest.state, events ++ rest.events⟩ := by
  rw [ExceptT.run_bind, course_bind, went]

theorem course_bind_error {state next : σ} {error : ε} {events : List I.Event}
    (failed : x.run.course machine state = ⟨.error error, next, events⟩) :
    (x >>= f).run.course machine state = ⟨.error error, next, events⟩ := by
  rw [ExceptT.run_bind, course_bind, failed]
  simp

/-! ## Dialogues that may break off -/

variable (y : OptionT (Dialogue I) α) (g : α → OptionT (Dialogue I) β)

theorem course_bind_some {state next : σ} {value : α} {events : List I.Event}
    (went : y.run.course machine state = ⟨some value, next, events⟩) :
    (y >>= g).run.course machine state =
      let rest := (g value).run.course machine next
      ⟨rest.value, rest.state, events ++ rest.events⟩ := by
  rw [OptionT.run_bind]
  show (y.run >>= _).course machine state = _
  rw [course_bind, went]
  rfl

theorem course_bind_none {state next : σ} {events : List I.Event}
    (broken : y.run.course machine state = ⟨none, next, events⟩) :
    (y >>= g).run.course machine state = ⟨none, next, events⟩ := by
  rw [OptionT.run_bind]
  show (y.run >>= _).course machine state = _
  rw [course_bind, broken]
  simp

end Dialogue

end SpiProgrammer
