import SpiProgrammer.Dialogue

/-! # Running a dialogue

A machine answers requests from a state, so quantifying over machines and states is quantifying
over every behaviour of the other side, however it depends on the past.

Main statements: a transcript records every request with its reply and every notice in the order
in which they were made, and the transcript of two dialogues one after the other is that of the
first followed by that of the second. -/
set_option autoImplicit false

namespace SpiProgrammer

/-- Something that answers requests from a state. -/
abbrev Machine (σ : Type) (I : Interface) : Type :=
  (r : I.Request) → σ → I.Reply r × σ

/-- Two machines side by side, each with its own state. -/
def Machine.both {σ τ : Type} {I J : Interface} (first : Machine σ I) (second : Machine τ J) :
    Machine (σ × τ) (I.both J)
  | .inl r, (s, t) => let (reply, s) := first r s; (reply, (s, t))
  | .inr r, (s, t) => let (reply, t) := second r t; (reply, (s, t))

/-- A finished run: the value, the state in which the machine was left, all requests with their
replies, and all notices, each in order. -/
structure Transcript (I : Interface) (σ α : Type) where
  value : α
  state : σ
  events : List I.Event
  notices : List Notice

namespace Dialogue

variable {I : Interface} {α β σ : Type}

/-- The lists hold what happened so far, the latest first. -/
def runFrom (machine : Machine σ I) :
    Dialogue I α → σ → List I.Event → List Notice → Transcript I σ α
  | .done value, state, events, notices => ⟨value, state, events.reverse, notices.reverse⟩
  | .say notice rest, state, events, notices =>
    rest.runFrom machine state events (notice :: notices)
  | .ask r next, state, events, notices =>
    let answer := machine r state
    (next answer.1).runFrom machine answer.2 (⟨r, answer.1⟩ :: events) notices

def run (machine : Machine σ I) (d : Dialogue I α) (state : σ) : Transcript I σ α :=
  d.runFrom machine state [] []

/-- What happened before stands in front of what happens in the run itself. -/
theorem runFrom_eq (machine : Machine σ I) (d : Dialogue I α) :
    ∀ (state : σ) (events : List I.Event) (notices : List Notice),
      d.runFrom machine state events notices =
        ⟨(d.run machine state).value, (d.run machine state).state,
          events.reverse ++ (d.run machine state).events,
          notices.reverse ++ (d.run machine state).notices⟩ := by
  induction d with
  | done value => intro state events notices; simp [run, runFrom]
  | say notice rest ih =>
    intro state events notices
    rw [run, runFrom, runFrom, ih state events (notice :: notices), ih state [] [notice]]
    simp
  | ask request next ih =>
    intro state events notices
    have step := ih (machine request state).1 (machine request state).2
    rw [run, runFrom, runFrom, step (⟨request, _⟩ :: events) notices, step [⟨request, _⟩] []]
    simp

theorem run_done (machine : Machine σ I) (value : α) (state : σ) :
    (Dialogue.done value : Dialogue I α).run machine state = ⟨value, state, [], []⟩ := rfl

theorem run_say (machine : Machine σ I) (notice : Notice) (rest : Dialogue I α) (state : σ) :
    (Dialogue.say notice rest).run machine state =
      { rest.run machine state with notices := notice :: (rest.run machine state).notices } := by
  rw [run, runFrom, runFrom_eq]
  simp

theorem run_ask (machine : Machine σ I) (r : I.Request) (next : I.Reply r → Dialogue I α)
    (state : σ) :
    (Dialogue.ask r next).run machine state =
      let answer := machine r state
      let rest := (next answer.1).run machine answer.2
      { rest with events := ⟨r, answer.1⟩ :: rest.events } := by
  rw [run, runFrom, runFrom_eq]
  simp

theorem run_bind (machine : Machine σ I) (d : Dialogue I α) (f : α → Dialogue I β) :
    ∀ state : σ, (d >>= f).run machine state =
      let first := d.run machine state
      let second := (f first.value).run machine first.state
      ⟨second.value, second.state, first.events ++ second.events,
        first.notices ++ second.notices⟩ := by
  induction d with
  | done value => intro state; simp [done_bind, run_done]
  | say notice rest ih =>
    intro state
    rw [say_bind, run_say, run_say, ih state]
    simp
  | ask request next ih =>
    intro state
    rw [ask_bind, run_ask, run_ask]
    simp only [ih]
    simp

end Dialogue

end SpiProgrammer
