import SpiProgrammer.Proofs.Dialogue.Layers

/-! # Watching a dialogue

A watch goes from phase to phase with the events of a dialogue and objects to what its phase does
not allow.  `Obeys` is computed along the dialogue, over every reply, so a dialogue that obeys is
never objected to, whichever machine answers it (`Obeys.run`).

A part of a dialogue is watched from the phase in which the part before it ended; through a layer,
and beside a second interface, a dialogue is watched by what its parts do. -/
set_option autoImplicit false

namespace SpiProgrammer

variable {I J : Interface} {α β ε κ φ σ : Type}

/-- The event as one of the first of two interfaces, if it is one. -/
def Interface.Event.left? : (I.both J).Event → Option I.Event
  | ⟨.inl r, reply⟩ => some ⟨r, reply⟩
  | ⟨.inr _, _⟩ => none

/-- The phase after an event, if the event is allowed. -/
abbrev Watch (φ : Type) (I : Interface) : Type :=
  φ → I.Event → Option φ

namespace Watch

def after? (watch : Watch φ I) (phase : φ) (events : List I.Event) : Option φ :=
  events.foldlM watch phase

theorem after?_cons (watch : Watch φ I) (phase : φ) (event : I.Event) (rest : List I.Event) :
    watch.after? phase (event :: rest) = (watch phase event).bind fun next =>
      watch.after? next rest := rfl

/-- Watches what `view` shows of the events and allows all others. -/
def seeing (view : I.Event → Option κ) (next? : φ → κ → Option φ) : Watch φ I :=
  fun phase event =>
    match view event with
    | some seen => next? phase seen
    | none => some phase

theorem after?_seeing (view : I.Event → Option κ) (next? : φ → κ → Option φ) (phase : φ)
    (events : List I.Event) :
    (seeing view next?).after? phase events = (events.filterMap view).foldlM next? phase := by
  induction events generalizing phase with
  | nil => rfl
  | cons event rest ih =>
    rw [after?_cons]
    cases shown : view event with
    | none => simp only [seeing, shown, Option.bind_some, List.filterMap_cons, ih]
    | some seen =>
      simp only [seeing, shown, List.filterMap_cons, List.foldlM_cons]
      exact Option.bind_congr fun next _ => ih next

/-- Watches the first of two interfaces and allows everything on the second. -/
def left (watch : Watch φ I) : Watch φ (I.both J) :=
  seeing Interface.Event.left? watch

theorem after?_left (watch : Watch φ I) (phase : φ) (events : List (I.both J).Event) :
    watch.left.after? phase events =
      watch.after? phase (events.filterMap Interface.Event.left?) :=
  after?_seeing _ _ _ _

end Watch

namespace Dialogue

/-- Whatever is answered, the watch allows every event and the dialogue ends in a phase that fits
its value. -/
def Obeys (watch : Watch φ I) (Ends : α → φ → Prop) : Dialogue I α → φ → Prop
  | .done value, phase => Ends value phase
  | .say _ rest, phase => rest.Obeys watch Ends phase
  | .ask r next, phase =>
    ∀ reply, ∃ after, watch phase ⟨r, reply⟩ = some after ∧ (next reply).Obeys watch Ends after

variable {watch : Watch φ I} {phase : φ}

theorem Obeys.run {Ends : α → φ → Prop} {d : Dialogue I α} (obeys : d.Obeys watch Ends phase)
    (machine : Machine σ I) (state : σ) :
    ∃ last, watch.after? phase (d.run machine state).events = some last ∧
      Ends (d.run machine state).value last := by
  induction d generalizing phase state with
  | done value => exact ⟨phase, rfl, obeys⟩
  | say notice rest ih =>
    rw [run_say]
    exact ih obeys state
  | ask r next ih =>
    obtain ⟨between, allowed, obeys⟩ := obeys (machine r state).1
    obtain ⟨last, follows, ends⟩ := ih _ obeys (machine r state).2
    rw [run_ask]
    refine ⟨last, ?_, ends⟩
    rw [Watch.after?_cons, allowed]
    exact follows

theorem Obeys.shown {view : I.Event → Option κ} {next? : φ → κ → Option φ} {Ends : α → φ → Prop}
    {d : Dialogue I α} (obeys : d.Obeys (.seeing view next?) Ends phase) (machine : Machine σ I)
    (state : σ) :
    ∃ last, ((d.run machine state).events.filterMap view).foldlM next? phase = some last ∧
      Ends (d.run machine state).value last := by
  obtain ⟨last, follows, ends⟩ := obeys.run machine state
  rw [Watch.after?_seeing] at follows
  exact ⟨last, follows, ends⟩

theorem Obeys.imp {Ends Later : α → φ → Prop} {d : Dialogue I α}
    (obeys : d.Obeys watch Ends phase) (weaker : ∀ value last, Ends value last → Later value last) :
    d.Obeys watch Later phase := by
  induction d generalizing phase with
  | done value => exact weaker value phase obeys
  | say notice rest ih => exact ih obeys
  | ask r next ih =>
    intro reply
    obtain ⟨between, allowed, obeys⟩ := obeys reply
    exact ⟨between, allowed, ih reply obeys⟩

theorem obeys_bind {Ends : β → φ → Prop} {d : Dialogue I α} {f : α → Dialogue I β}
    (obeys : d.Obeys watch (fun value last => (f value).Obeys watch Ends last) phase) :
    (d >>= f).Obeys watch Ends phase := by
  induction d generalizing phase with
  | done value => exact obeys
  | say notice rest ih => exact ih obeys
  | ask r next ih =>
    intro reply
    obtain ⟨between, allowed, obeys⟩ := obeys reply
    exact ⟨between, allowed, ih reply obeys⟩

theorem Obeys.step {Between : Except ε α → φ → Prop} {Ends : Except ε β → φ → Prop}
    {x : ExceptT ε (Dialogue I) α} {f : α → ExceptT ε (Dialogue I) β}
    (first : x.run.Obeys watch Between phase)
    (failed : ∀ error last, Between (.error error) last → Ends (.error error) last)
    (second : ∀ value last, Between (.ok value) last → (f value).run.Obeys watch Ends last) :
    (x >>= f).run.Obeys watch Ends phase := by
  rw [ExceptT.run_bind]
  refine obeys_bind (first.imp ?_)
  rintro (error | value) last between
  · exact failed error last between
  · exact second value last between

theorem obeys_lift {Ends : Except ε β → φ → Prop} {d : Dialogue I α}
    {f : α → ExceptT ε (Dialogue I) β}
    (obeys : d.Obeys watch (fun value last => (f value).run.Obeys watch Ends last) phase) :
    (liftM d >>= f : ExceptT ε (Dialogue I) β).run.Obeys watch Ends phase := by
  show ((d >>= fun value => pure (Except.ok value)) >>= _).Obeys watch Ends phase
  rw [bind_assoc]
  exact obeys_bind obeys

/-- A phase in which every request is served is kept by a dialogue over the layer. -/
theorem obeys_through {watch : Watch φ J} {Kept : φ → Prop}
    {serve : (r : I.Request) → Dialogue J (I.Reply r)}
    (serves : ∀ r phase, Kept phase → (serve r).Obeys watch (fun _ => Kept) phase)
    (d : Dialogue I α) :
    ∀ phase, Kept phase → (d.through serve).Obeys watch (fun _ => Kept) phase := by
  induction d with
  | done value => exact fun phase kept => kept
  | say notice rest ih => exact ih
  | ask r next ih =>
    intro phase kept
    exact obeys_bind ((serves r phase kept).imp fun reply last still => ih reply last still)

theorem obeys_onLeft {Ends : α → φ → Prop} {d : Dialogue I α} (obeys : d.Obeys watch Ends phase) :
    (d.onLeft (J := J)).Obeys watch.left Ends phase := by
  induction d generalizing phase with
  | done value => exact obeys
  | say notice rest ih => exact ih obeys
  | ask r next ih =>
    intro reply
    obtain ⟨between, allowed, obeys⟩ := obeys reply
    exact ⟨between, allowed, ih reply obeys⟩

theorem obeys_onRight {Ends : α → φ → Prop} {d : Dialogue J α}
    (ends : ∀ value, Ends value phase) : (d.onRight (I := I)).Obeys watch.left Ends phase := by
  induction d with
  | done value => exact ends value
  | say notice rest ih => exact ih
  | ask r next ih => exact fun reply => ⟨phase, rfl, ih reply⟩

theorem obeys_of_asks {P : I.Request → Prop} {d : Dialogue I α} (asks : d.Asks P)
    (unseen : ∀ r reply, P r → watch phase ⟨r, reply⟩ = some phase) :
    d.Obeys watch (fun _ last => last = phase) phase := by
  induction d with
  | done value => rfl
  | say notice rest ih => exact ih asks
  | ask r next ih => exact fun reply => ⟨phase, unseen r reply asks.1, ih reply (asks.2 reply)⟩

theorem obeys_throughLeft {K : Interface} {watch : Watch φ J} {Kept : φ → Prop}
    {serve : (r : I.Request) → Dialogue J (I.Reply r)}
    (serves : ∀ r phase, Kept phase → (serve r).Obeys watch (fun _ => Kept) phase)
    (d : Dialogue (I.both K) α) (phase : φ) (kept : Kept phase) :
    (d.throughLeft serve).Obeys watch.left (fun _ => Kept) phase := by
  refine obeys_through ?_ d phase kept
  rintro (r | r) phase kept
  · exact obeys_onLeft (serves r phase kept)
  · exact fun _ => ⟨phase, rfl, kept⟩

/-! ### Layers that may break off -/

/-- A layer that breaks off gives no value, and then something is the case. -/
def Unless (broken : Prop) (Ends : α → φ → Prop) : Option α → φ → Prop
  | some value, last => Ends value last
  | none, _ => broken

theorem Unless.some {broken : Prop} {Ends : α → φ → Prop} {outcome : Option α} {last : φ}
    (ends : Unless broken Ends outcome last) (whole : ¬ broken) :
    ∃ value, outcome = some value ∧ Ends value last := by
  cases outcome with
  | none => exact absurd ends whole
  | some value => exact ⟨value, rfl, ends⟩

/-- Every answer of the layer leads its own watch where the answer leads the watch above. -/
def Carries (above : Watch φ I) (below : Watch φ J) (broken : Prop)
    (serve : (r : I.Request) → Dialogue J (Option (I.Reply r))) : Prop :=
  ∀ r phase, (∀ reply, ∃ next, above phase ⟨r, reply⟩ = some next) →
    (serve r).Obeys below (Unless broken fun reply last => above phase ⟨r, reply⟩ = some last) phase

variable {above : Watch φ I} {below : Watch φ J} {broken : Prop}
  {serve : (r : I.Request) → Dialogue J (Option (I.Reply r))}

theorem Carries.through? (carries : Carries above below broken serve) {Ends : α → φ → Prop}
    {d : Dialogue I α} (obeys : d.Obeys above Ends phase) :
    (d.through? serve).Obeys below (Unless broken Ends) phase := by
  induction d generalizing phase with
  | done value => exact obeys
  | say notice rest ih => exact ih obeys
  | ask r next ih =>
    have allowed (reply : I.Reply r) : ∃ after, above phase ⟨r, reply⟩ = some after :=
      (obeys reply).imp fun _ both => both.1
    rw [Dialogue.through?]
    -- the layer may break off, or answer and have led its watch where the answer leads the other
    refine obeys_bind ((carries r phase allowed).imp ?_)
    rintro (_ | reply) last led
    · exact led
    · obtain ⟨after, leads, obeys⟩ := obeys reply
      cases led.symm.trans leads
      exact ih reply obeys

theorem Carries.left {K : Interface} (carries : Carries above below broken serve) :
    Carries (I := I.both K) (J := J.both K) above.left below.left broken (serveLeft? serve) := by
  rintro (r | r) phase allowed
  · exact obeys_onLeft (carries r phase allowed)
  · exact fun _ => ⟨phase, rfl, rfl⟩

end Dialogue

end SpiProgrammer
