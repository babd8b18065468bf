import SpiProgrammer.Proofs.Dialogue.Layers

/-! # What a dialogue ensures

A dialogue that may fail ensures one thing where it succeeds and another where it fails.  What it
reports as progress on the way is a list of counts.  Main statements: both are put together along
the dialogue, and a property of the state that every reply keeps is kept by the whole. -/
set_option autoImplicit false

namespace SpiProgrammer.Dialogue

variable {I : Interface} {α β ε σ : Type} {machine : Machine σ I}

/-- From a state, the dialogue ends well in one of these ways or fails in one of those. -/
def Ensures (machine : Machine σ I) (x : ExceptT ε (Dialogue I) α) (state : σ)
    (Well : α → σ → Prop) (Failed : ε → σ → Prop) : Prop :=
  match x.run.answer machine state with
  | (.ok value, next) => Well value next
  | (.error error, next) => Failed error next

section Ensures

variable {x : ExceptT ε (Dialogue I) α} {f : α → ExceptT ε (Dialogue I) β} {state : σ}
  {Well Better : α → σ → Prop} {Then : β → σ → Prop} {Failed Worse : ε → σ → Prop}

theorem Ensures.imp (ensures : Ensures machine x state Well Failed)
    (well : ∀ value next, Well value next → Better value next)
    (failed : ∀ error next, Failed error next → Worse error next) :
    Ensures machine x state Better Worse := by
  unfold Ensures at ensures ⊢
  rcases went : x.run.answer machine state with ⟨outcome, next⟩
  rw [went] at ensures
  cases outcome with
  | ok value => exact well value next ensures
  | error error => exact failed error next ensures

/-- Two parts, the second of which takes place only where the first succeeds. -/
theorem Ensures.step (first : Ensures machine x state Well Failed)
    (failed : ∀ error next, Failed error next → Worse error next)
    (second : ∀ value next, Well value next → Ensures machine (f value) next Then Worse) :
    Ensures machine (x >>= f) state Then Worse := by
  unfold Ensures at first ⊢
  rcases went : x.run.answer machine state with ⟨outcome, next⟩
  rw [went] at first
  cases outcome with
  | ok value =>
    rw [answer_bind_ok _ _ _ went]
    exact second value next first
  | error error =>
    rw [answer_bind_error _ _ _ went]
    exact failed error next first

theorem Ensures.bind (first : Ensures machine x state Well Failed)
    (second : ∀ value next, Well value next → Ensures machine (f value) next Then Failed) :
    Ensures machine (x >>= f) state Then Failed :=
  first.step (fun _ _ failed => failed) second

theorem Ensures.surely (first : Ensures machine x state Well fun _ _ => False)
    (second : ∀ value next, Well value next → Ensures machine (f value) next Then Failed) :
    Ensures machine (x >>= f) state Then Failed :=
  first.step (fun _ _ failed => failed.elim) second

theorem ensures_pure {value : α} (well : Well value state) :
    Ensures machine (pure value : ExceptT ε (Dialogue I) α) state Well Failed :=
  well

theorem ensures_throw {error : ε} (failed : Failed error state) :
    Ensures machine (throw error : ExceptT ε (Dialogue I) α) state Well Failed :=
  failed

theorem ensures_lift {d : Dialogue I α}
    (ensures : Ensures machine (f (d.answer machine state).1) (d.answer machine state).2 Then
      Failed) :
    Ensures machine (liftM d >>= f) state Then Failed := by
  unfold Ensures at ensures ⊢
  rw [answer_bind_ok _ _ _ (answer_lift machine d state)]
  exact ensures

theorem Ensures.and (first : Ensures machine x state Well Failed)
    (second : Ensures machine x state Better Worse) :
    Ensures machine x state (fun value next => Well value next ∧ Better value next)
      (fun error next => Failed error next ∧ Worse error next) := by
  unfold Ensures at first second ⊢
  rcases went : x.run.answer machine state with ⟨outcome, next⟩
  rw [went] at first second
  cases outcome <;> exact ⟨first, second⟩

abbrev Succeeds (machine : Machine σ I) (x : ExceptT ε (Dialogue I) α) (state : σ) : Prop :=
  Ensures machine x state (fun _ _ => True) (fun _ _ => False)

theorem Ensures.succeeding (ensures : Ensures machine x state Well Failed)
    (succeeds : Succeeds machine x state) :
    Ensures machine x state Well fun _ _ => False :=
  (ensures.and succeeds).imp (fun _ _ both => both.1) fun _ _ both => both.2

theorem succeeds_of_value {value : α} (well : (x.run.run machine state).value = .ok value) :
    Succeeds machine x state := by
  have answer : x.run.answer machine state = (.ok value, (x.run.run machine state).state) :=
    Prod.ext well rfl
  unfold Succeeds Ensures
  rw [answer]
  trivial

theorem Succeeds.value_eq {x : ExceptT ε (Dialogue I) Unit} (succeeds : Succeeds machine x state) :
    (x.run.run machine state).value = .ok () := by
  unfold Succeeds Ensures at succeeds
  have answer : x.run.answer machine state =
      ((x.run.run machine state).value, (x.run.run machine state).state) := rfl
  rw [answer] at succeeds
  cases outcome : (x.run.run machine state).value with
  | ok _ => rfl
  | error error =>
    rw [outcome] at succeeds
    exact succeeds.elim

end Ensures

theorem answer_keeps_of_asks {P : I.Request → Prop} {Kept : σ → Prop}
    (keeps : ∀ r state, P r → Kept state → Kept (machine r state).2) {d : Dialogue I α}
    (asks : d.Asks P) : ∀ state, Kept state → Kept (d.answer machine state).2 := by
  induction d with
  | done value => exact fun state kept => kept
  | say notice rest ih =>
    intro state kept
    show Kept ((say notice rest).run machine state).state
    rw [run_say]
    exact ih asks state kept
  | ask r next ih =>
    intro state kept
    show Kept ((ask r next).run machine state).state
    rw [run_ask]
    exact ih _ (asks.2 _) _ (keeps r state asks.1 kept)

theorem answer_keeps {Kept : σ → Prop} (keeps : ∀ r state, Kept state → Kept (machine r state).2)
    (d : Dialogue I α) : ∀ state, Kept state → Kept (d.answer machine state).2 :=
  answer_keeps_of_asks (fun r state _ => keeps r state) (d.asks_any fun _ => trivial)

/-! ## Progress -/

/-- The counts that are reported as progress, in order. -/
def progressed (machine : Machine σ I) (d : Dialogue I α) (state : σ) : List Nat :=
  (d.run machine state).notices.filterMap Notice.progress?

theorem progressed_bind (d : Dialogue I α) (f : α → Dialogue I β) (state : σ) :
    (d >>= f).progressed machine state = d.progressed machine state ++
      (f (d.answer machine state).1).progressed machine (d.answer machine state).2 := by
  unfold progressed answer
  rw [run_bind, List.filterMap_append]

theorem progressed_of_utters {d : Dialogue I α} (logs : d.Utters Notice.IsLog) (state : σ) :
    d.progressed machine state = [] := by
  refine List.filterMap_eq_nil_iff.mpr fun notice member => ?_
  obtain ⟨record, rfl⟩ := notices_of_utters machine logs state notice member
  rfl

section Progress

variable {x : ExceptT ε (Dialogue I) α} {f : α → ExceptT ε (Dialogue I) β} {state next : σ}

theorem progressed_bind_ok {value : α} (went : x.run.answer machine state = (.ok value, next)) :
    (x >>= f).run.progressed machine state =
      x.run.progressed machine state ++ (f value).run.progressed machine next := by
  rw [ExceptT.run_bind, progressed_bind, went]

theorem progressed_bind_error {error : ε}
    (went : x.run.answer machine state = (.error error, next)) :
    (x >>= f).run.progressed machine state = x.run.progressed machine state := by
  rw [ExceptT.run_bind, progressed_bind, went]
  exact List.append_nil _

end Progress

end SpiProgrammer.Dialogue
