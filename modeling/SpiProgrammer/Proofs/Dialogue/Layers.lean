import SpiProgrammer.Proofs.Dialogue.Course

/-! # Dialogues over layers

A layer that answers the requests of one interface by dialogues with the next turns a machine of
the lower interface into one of the upper.  Running a dialogue through the layer is running it on
that machine: value and state agree, and so do the notices as far as the layer itself says none
of the kind that is looked at.

What a dialogue asks and utters in any run, whoever answers, is stated on the dialogue itself by
`Asks` and `Utters`. -/
set_option autoImplicit false

namespace SpiProgrammer

variable {I J : Interface} {α β ε κ σ τ : Type}

def Machine.serving (machine : Machine σ J) (serve : (r : I.Request) → Dialogue J (I.Reply r)) :
    Machine σ I :=
  fun r state => (serve r).answer machine state

def Notice.IsLog (notice : Notice) : Prop :=
  ∃ record, notice = .log record

namespace Dialogue

def Utters (P : Notice → Prop) : Dialogue I α → Prop
  | .done _ => True
  | .say notice rest => P notice ∧ rest.Utters P
  | .ask _ next => ∀ reply, (next reply).Utters P

def Asks (P : I.Request → Prop) : Dialogue I α → Prop
  | .done _ => True
  | .say _ rest => rest.Asks P
  | .ask r next => P r ∧ ∀ reply, (next reply).Asks P

theorem utters_bind {P : Notice → Prop} {d : Dialogue I α} {f : α → Dialogue I β}
    (first : d.Utters P) (second : ∀ value, (f value).Utters P) : (d >>= f).Utters P := by
  induction d with
  | done value => exact second value
  | say notice rest ih => exact ⟨first.1, ih first.2⟩
  | ask r next ih => exact fun reply => ih reply (first reply)

theorem asks_bind {P : I.Request → Prop} {d : Dialogue I α} {f : α → Dialogue I β}
    (first : d.Asks P) (second : ∀ value, (f value).Asks P) : (d >>= f).Asks P := by
  induction d with
  | done value => exact second value
  | say notice rest ih => exact ih first
  | ask r next ih => exact ⟨first.1, fun reply => ih reply (first.2 reply)⟩

theorem Utters.imp {P Q : Notice → Prop} {d : Dialogue I α} (utters : d.Utters P)
    (weaker : ∀ notice, P notice → Q notice) : d.Utters Q := by
  induction d with
  | done value => trivial
  | say notice rest ih => exact ⟨weaker notice utters.1, ih utters.2⟩
  | ask r next ih => exact fun reply => ih reply (utters reply)

theorem utters_bind_except {P : Notice → Prop} {x : ExceptT ε (Dialogue I) α}
    {f : α → ExceptT ε (Dialogue I) β} (first : x.run.Utters P)
    (second : ∀ value, (f value).run.Utters P) : (x >>= f).run.Utters P := by
  rw [ExceptT.run_bind]
  refine utters_bind first fun outcome => ?_
  cases outcome with
  | ok value => exact second value
  | error error => trivial

theorem asks_bind_except {P : I.Request → Prop} {x : ExceptT ε (Dialogue I) α}
    {f : α → ExceptT ε (Dialogue I) β} (first : x.run.Asks P)
    (second : ∀ value, (f value).run.Asks P) : (x >>= f).run.Asks P := by
  rw [ExceptT.run_bind]
  refine asks_bind first fun outcome => ?_
  cases outcome with
  | ok value => exact second value
  | error error => trivial

theorem notices_of_utters {P : Notice → Prop} (machine : Machine σ I) {d : Dialogue I α}
    (utters : d.Utters P) : ∀ state : σ, ∀ notice ∈ (d.run machine state).notices, P notice := by
  induction d with
  | done value => simp [run_done]
  | say said rest ih =>
    intro state notice member
    rw [run_say] at member
    rcases List.mem_cons.mp member with same | later
    · exact same ▸ utters.1
    · exact ih utters.2 state notice later
  | ask r next ih =>
    intro state notice member
    rw [run_ask] at member
    exact ih _ (utters _) _ notice member

theorem events_of_asks {P : I.Request → Prop} (machine : Machine σ I) {d : Dialogue I α}
    (asks : d.Asks P) : ∀ state : σ, ∀ event ∈ (d.run machine state).events, P event.request := by
  induction d with
  | done value => simp [run_done]
  | say notice rest ih =>
    intro state event member
    rw [run_say] at member
    exact ih asks state event member
  | ask r next ih =>
    intro state event member
    rw [run_ask] at member
    rcases List.mem_cons.mp member with same | later
    · exact same ▸ asks.1
    · exact ih _ (asks.2 _) _ event later

theorem Asks.imp {P Q : I.Request → Prop} {d : Dialogue I α} (asks : d.Asks P)
    (weaker : ∀ r, P r → Q r) : d.Asks Q := by
  induction d with
  | done value => trivial
  | say notice rest ih => exact ih asks
  | ask r next ih => exact ⟨weaker r asks.1, fun reply => ih reply (asks.2 reply)⟩

theorem asks_through {P : J.Request → Prop} {Q : I.Request → Prop}
    {serve : (r : I.Request) → Dialogue J (I.Reply r)} (serves : ∀ r, Q r → (serve r).Asks P)
    {d : Dialogue I α} (asks : d.Asks Q) : (d.through serve).Asks P := by
  induction d with
  | done value => trivial
  | say notice rest ih => exact ih asks
  | ask r next ih => exact asks_bind (serves r asks.1) fun reply => ih reply (asks.2 reply)

theorem asks_through? {P : J.Request → Prop} {Q : I.Request → Prop}
    {serve : (r : I.Request) → Dialogue J (Option (I.Reply r))}
    (serves : ∀ r, Q r → (serve r).Asks P) {d : Dialogue I α} (asks : d.Asks Q) :
    (d.through? serve).Asks P := by
  induction d with
  | done value => trivial
  | say notice rest ih => exact ih asks
  | ask r next ih =>
    rw [through?]
    refine asks_bind (serves r asks.1) fun answer => ?_
    cases answer with
    | none => trivial
    | some reply => exact ih reply (asks.2 reply)

/-! ## Running through a layer -/

theorem answer_through (machine : Machine σ J) (serve : (r : I.Request) → Dialogue J (I.Reply r))
    (d : Dialogue I α) :
    ∀ state : σ, (d.through serve).answer machine state =
      d.answer (machine.serving serve) state := by
  induction d with
  | done value => intro state; rfl
  | say notice rest ih =>
    intro state
    have rest := ih state
    simp only [answer, through, run_say] at rest ⊢
    exact rest
  | ask r next ih =>
    intro state
    have rest := ih (machine.serving serve r state).1 (machine.serving serve r state).2
    show ((serve r) >>= fun reply => (next reply).through serve).answer machine state = _
    rw [answer_bind]
    simp only [answer, run_ask] at rest ⊢
    exact rest

/-- Notices are looked at through `view`; what the layer itself says is not seen there. -/
theorem notices_through (machine : Machine σ J)
    (serve : (r : I.Request) → Dialogue J (I.Reply r)) (view : Notice → Option κ)
    (unseen : ∀ r, (serve r).Utters fun notice => view notice = none) (d : Dialogue I α) :
    ∀ state : σ, ((d.through serve).run machine state).notices.filterMap view =
      (d.run (machine.serving serve) state).notices.filterMap view := by
  induction d with
  | done value => intro state; rfl
  | say notice rest ih =>
    intro state
    rw [through, run_say, run_say]
    simp only [List.filterMap_cons, ih state]
  | ask r next ih =>
    intro state
    have silent : ((serve r).run machine state).notices.filterMap view = [] :=
      List.filterMap_eq_nil_iff.mpr (notices_of_utters machine (unseen r) state)
    have rest := ih (machine.serving serve r state).1 (machine.serving serve r state).2
    show ((serve r >>= fun reply => (next reply).through serve).run machine state).notices.filterMap
      view = _
    rw [run_bind, run_ask]
    simp only [List.filterMap_append, silent, List.nil_append]
    exact rest

/-! ## Machines that answer alike -/

theorem asks_any {P : I.Request → Prop} (every : ∀ r, P r) (d : Dialogue I α) : d.Asks P := by
  induction d with
  | done value => trivial
  | say notice rest ih => exact ih
  | ask r next ih => exact ⟨every r, ih⟩

/-- Machines that give the same replies from related states are told apart by no dialogue that asks
nothing else. -/
theorem run_related {first : Machine σ I} {second : Machine τ I} (Related : σ → τ → Prop)
    {P : I.Request → Prop}
    (alike : ∀ r, P r → ∀ left right, Related left right →
      (first r left).1 = (second r right).1 ∧ Related (first r left).2 (second r right).2)
    {d : Dialogue I α} (asks : d.Asks P) :
    ∀ left right, Related left right →
      (d.run first left).value = (d.run second right).value ∧
      Related (d.run first left).state (d.run second right).state ∧
      (d.run first left).events = (d.run second right).events ∧
      (d.run first left).notices = (d.run second right).notices := by
  induction d with
  | done value =>
    intro left right related
    exact ⟨rfl, related, rfl, rfl⟩
  | say notice rest ih =>
    intro left right related
    obtain ⟨value, state, events, notices⟩ := ih asks left right related
    rw [run_say, run_say]
    exact ⟨value, state, events, congrArg _ notices⟩
  | ask r next ih =>
    intro left right related
    have answers := alike r asks.1 left right related
    rw [run_ask, run_ask]
    rcases leftAnswer : first r left with ⟨reply, nextLeft⟩
    rcases rightAnswer : second r right with ⟨other, nextRight⟩
    rw [leftAnswer, rightAnswer] at answers
    obtain ⟨same, follows⟩ := answers
    simp only at same
    subst same
    obtain ⟨value, state, events, notices⟩ := ih reply (asks.2 reply) nextLeft nextRight follows
    exact ⟨value, state, congrArg _ events, notices⟩

/-! ## One of two interfaces -/

theorem onLeft_ask (r : I.Request) (next : I.Reply r → Dialogue I α) :
    (Dialogue.ask r next).onLeft (J := J) =
      Dialogue.ask (I := I.both J) (.inl r) fun reply => (next reply).onLeft := rfl

theorem asks_onLeft {P : (I.both J).Request → Prop} {d : Dialogue I α}
    (asks : d.Asks fun r => P (.inl r)) : (d.onLeft (J := J)).Asks P := by
  induction d with
  | done value => trivial
  | say notice rest ih => exact ih asks
  | ask r next ih => exact ⟨asks.1, fun reply => ih reply (asks.2 reply)⟩

theorem asks_throughLeft {K : Interface} {P : (J.both K).Request → Prop}
    {Q : (I.both K).Request → Prop} {serve : (r : I.Request) → Dialogue J (I.Reply r)}
    (serves : ∀ r, Q (.inl r) → (serve r).Asks fun r => P (.inl r))
    (others : ∀ r, Q (.inr r) → P (.inr r)) {d : Dialogue (I.both K) α} (asks : d.Asks Q) :
    (d.throughLeft serve).Asks P := by
  refine asks_through ?_ asks
  rintro (r | r) asked
  · exact asks_onLeft (serves r asked)
  · exact ⟨others r asked, fun _ => trivial⟩

theorem asks_throughLeft? {K : Interface} {P : (J.both K).Request → Prop}
    {Q : (I.both K).Request → Prop} {serve : (r : I.Request) → Dialogue J (Option (I.Reply r))}
    (serves : ∀ r, Q (.inl r) → (serve r).Asks fun r => P (.inl r))
    (others : ∀ r, Q (.inr r) → P (.inr r)) {d : Dialogue (I.both K) α} (asks : d.Asks Q) :
    (d.throughLeft? serve).Asks P := by
  refine asks_through? ?_ asks
  rintro (r | r) asked
  · exact asks_onLeft (serves r asked)
  · exact ⟨others r asked, fun _ => trivial⟩

/-- What is asked of the first interface alone is served as it would be without the second. -/
theorem onLeft_throughLeft {K : Interface} (serve : (r : I.Request) → Dialogue J (I.Reply r))
    (d : Dialogue I α) : (d.onLeft (J := K)).throughLeft serve = (d.through serve).onLeft := by
  induction d with
  | done value => rfl
  | say notice rest ih => exact congrArg (Dialogue.say notice) ih
  | ask r next ih =>
    have served := through_bind (fun r => Dialogue.request (I := J.both K) (.inl r)) (serve r)
      fun reply => (next reply).through serve
    show ((serve r).onLeft >>= fun reply => ((next reply).onLeft (J := K)).throughLeft serve) =
      (serve r >>= fun reply => (next reply).through serve).onLeft
    rw [funext ih]
    exact served.symm

theorem run_onLeft (first : Machine σ I) (second : Machine τ J) (d : Dialogue I α) :
    ∀ (left : σ) (right : τ), (d.onLeft (J := J)).run (first.both second) (left, right) =
      let inner := d.run first left
      ⟨inner.value, (inner.state, right),
        inner.events.map fun event => ⟨.inl event.request, event.reply⟩, inner.notices⟩ := by
  induction d with
  | done value => intro left right; rfl
  | say notice rest ih =>
    intro left right
    show (Dialogue.say notice rest.onLeft).run _ _ = _
    rw [run_say, run_say, ih left right]
  | ask r next ih =>
    intro left right
    rw [onLeft_ask, run_ask, run_ask]
    simp only [Machine.both]
    rw [ih]
    simp

end Dialogue

end SpiProgrammer
