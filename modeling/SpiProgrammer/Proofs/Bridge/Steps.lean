import SpiProgrammer.Bridge.Transaction
import SpiProgrammer.Proofs.Dialogue.Course

/-! # Exchanges step by step

A step is one transfer out and, where one is due, an answer of a fixed length.  `Step.Goes` says
which events a step can consist of and how it then ends, and `GoThrough` does so for a list of
steps, each of which is taken only if those before it went well.

Main statements: whoever answers, each request to the bridge is such a step or list of steps,
and the transfers made by a list of steps are those of a first part of the list, each once. -/
set_option autoImplicit false

namespace SpiProgrammer.Bridge

/-- What goes out in one transfer: the frame of a command, or data that belong to the frame
before. -/
inductive Transfer where
  | frame (command : Command)
  | rest (data : Bytes)
deriving DecidableEq

namespace Transfer

def bytes : Transfer → Bytes
  | .frame command => command.frame
  | .rest data => data

def name : Transfer → String
  | .frame command => command.name
  | .rest _ => "write SPI data"

end Transfer

structure Step where
  transfer : Transfer
  /-- The length of the answer, where one is due. -/
  answer : Option Nat := none
  /-- The failure that an answer of the right length tells of. -/
  failure? : Bytes → Option Error := fun _ => none

/-- The events of one step and its end, which after a success is what was received. -/
inductive Step.Goes (step : Step) : List Link.Event → Except Error Bytes → Prop
  | sendFails (error : Error) :
    step.Goes [⟨.send step.transfer.bytes, .error error⟩] (.error error)
  | sendsOther (count : Nat) (other : count ≠ step.transfer.bytes.length) :
    step.Goes [⟨.send step.transfer.bytes, .ok count⟩]
      (.error (.shortTransfer step.transfer.name step.transfer.bytes.length count))
  | sends (silent : step.answer = none) :
    step.Goes [⟨.send step.transfer.bytes, .ok step.transfer.bytes.length⟩] (.ok [])
  | answerFails (length : Nat) (due : step.answer = some length) (error : Error) :
    step.Goes [⟨.send step.transfer.bytes, .ok step.transfer.bytes.length⟩,
      ⟨.receive length, .error error⟩] (.error error)
  | answersOther (length : Nat) (due : step.answer = some length) (reply : Bytes)
    (other : reply.length ≠ length) :
    step.Goes [⟨.send step.transfer.bytes, .ok step.transfer.bytes.length⟩,
      ⟨.receive length, .ok reply⟩]
      (.error (.shortTransfer step.transfer.name length reply.length))
  | answersFailure (length : Nat) (due : step.answer = some length) (reply : Bytes)
    (exact : reply.length = length) (error : Error) (tells : step.failure? reply = some error) :
    step.Goes [⟨.send step.transfer.bytes, .ok step.transfer.bytes.length⟩,
      ⟨.receive length, .ok reply⟩] (.error error)
  | answers (length : Nat) (due : step.answer = some length) (reply : Bytes)
    (exact : reply.length = length) (well : step.failure? reply = none) :
    step.Goes [⟨.send step.transfer.bytes, .ok step.transfer.bytes.length⟩,
      ⟨.receive length, .ok reply⟩] (.ok reply)

/-- The end of a step once the answer's content is looked at. -/
def Step.judge (step : Step) (reply : Bytes) : Except Error Bytes :=
  match step.failure? reply with
  | some error => .error error
  | none => .ok reply

theorem Step.judged_goes (step : Step) {length : Nat} (due : step.answer = some length)
    {events : List Link.Event} {outcome : Except Error Bytes}
    (goes : Step.Goes { step with failure? := fun _ => none } events outcome) :
    step.Goes events (outcome.bind step.judge) := by
  cases goes with
  | sendFails error => exact .sendFails error
  | sendsOther count other => exact .sendsOther count other
  | sends silent => simp [due] at silent
  | answerFails other given error =>
    have same : step.answer = some other := given
    exact .answerFails other same error
  | answersOther other given reply apart =>
    have same : step.answer = some other := given
    exact .answersOther other same reply apart
  | answersFailure other given reply exact error tells => cases tells
  | answers other given reply exact well =>
    have same : step.answer = some other := given
    simp only [Except.bind, Step.judge]
    cases looked : step.failure? reply with
    | none => exact .answers other same reply exact looked
    | some error => exact .answersFailure other same reply exact error looked

/-- The events of a list of steps and their end: what each step received, or the failure of the
first that fails, behind which no step is taken. -/
inductive GoThrough : List Step → List Link.Event → Except Error (List Bytes) → Prop
  | done : GoThrough [] [] (.ok [])
  | stops {step : Step} {events : List Link.Event} {error : Error} (later : List Step)
    (fails : step.Goes events (.error error)) : GoThrough (step :: later) events (.error error)
  | goesOn {step : Step} {later : List Step} {events rest : List Link.Event} {reply : Bytes}
    {outcome : Except Error (List Bytes)} (well : step.Goes events (.ok reply))
    (through : GoThrough later rest outcome) :
    GoThrough (step :: later) (events ++ rest) (outcome.map (reply :: ·))

def sentBytes (events : List Link.Event) : List Bytes :=
  events.filterMap fun event =>
    match event with
    | ⟨.send bytes, _⟩ => some bytes
    | ⟨.receive _, _⟩ => none

theorem sentBytes_append (events later : List Link.Event) :
    sentBytes (events ++ later) = sentBytes events ++ sentBytes later :=
  List.filterMap_append

theorem Step.Goes.sentBytes_eq {step : Step} {events : List Link.Event}
    {outcome : Except Error Bytes} (goes : step.Goes events outcome) :
    sentBytes events = [step.transfer.bytes] := by
  cases goes <;> rfl

/-- A step is a transfer out, and answers to it once it went out whole. -/
theorem Step.Goes.sends_first {step : Step} {events : List Link.Event}
    {outcome : Except Error Bytes} (goes : step.Goes events outcome) :
    ∃ sent answers, events = ⟨.send step.transfer.bytes, sent⟩ :: answers ∧
      (∀ event ∈ answers, ∃ length got, event = ⟨.receive length, got⟩) ∧
      (sent = .ok step.transfer.bytes.length ∨ answers = [] ∧ ∃ error, outcome = .error error) := by
  cases goes with
  | sendFails error => exact ⟨_, [], rfl, nofun, .inr ⟨rfl, error, rfl⟩⟩
  | sendsOther count other => exact ⟨_, [], rfl, nofun, .inr ⟨rfl, _, rfl⟩⟩
  | sends silent => exact ⟨_, [], rfl, nofun, .inl rfl⟩
  | _ => exact ⟨_, [_], rfl, by simp, .inl rfl⟩

section Sending

variable {step : Step} {events before after : List Link.Event} {outcome : Except Error Bytes}
  {bytes : Bytes} {sent : Except Error Nat} (goes : step.Goes events outcome)
include goes

theorem Step.Goes.eq_nil_of_sends
    (split : events = before ++ ⟨.send bytes, sent⟩ :: after) :
    before = [] ∧ bytes = step.transfer.bytes := by
  obtain ⟨other, answers, first, receives, -⟩ := goes.sends_first
  rw [first] at split
  cases before with
  | nil =>
    cases split
    exact ⟨rfl, rfl⟩
  | cons event before =>
    have member : (⟨.send bytes, sent⟩ : Link.Event) ∈ answers := by
      rw [(List.cons.inj split).2]
      exact List.mem_append_right _ List.mem_cons_self
    obtain ⟨_, _, receive⟩ := receives _ member
    cases receive

theorem Step.Goes.before_other {rest : List Link.Event} (apart : bytes ≠ step.transfer.bytes)
    (split : events ++ rest = before ++ ⟨.send bytes, sent⟩ :: after) :
    ∃ between, before = events ++ between ∧ rest = between ++ ⟨.send bytes, sent⟩ :: after := by
  rcases List.append_eq_append_iff.mp split with ⟨between, front, back⟩ | ⟨inside, front, back⟩
  · exact ⟨between, front, back⟩
  · cases inside with
    | nil => exact ⟨[], by simpa using front.symm, by simpa using back.symm⟩
    | cons event inside =>
      obtain ⟨rfl, -⟩ := List.cons.inj back
      exact absurd (goes.eq_nil_of_sends front).2 apart

end Sending

/-- Steps make the transfers of a first part of their list, and after a success of all of it. -/
theorem GoThrough.sentBytes_eq {steps : List Step} {events : List Link.Event}
    {outcome : Except Error (List Bytes)} (through : GoThrough steps events outcome) :
    ∃ taken, taken <+: steps ∧
      sentBytes events = taken.map (fun step => step.transfer.bytes) ∧
      (∀ replies, outcome = .ok replies → taken = steps) := by
  induction through with
  | done => exact ⟨[], List.nil_prefix, rfl, fun _ _ => rfl⟩
  | @stops step events error later fails =>
    refine ⟨[step], List.prefix_append [step] later, fails.sentBytes_eq, ?_⟩
    intro replies equal
    cases equal
  | @goesOn step later events rest reply outcome well through ih =>
    obtain ⟨taken, first, sent, whole⟩ := ih
    refine ⟨step :: taken, List.cons_prefix_cons.mpr ⟨rfl, first⟩, ?_, ?_⟩
    · rw [sentBytes_append, well.sentBytes_eq, sent]
      rfl
    · intro replies equal
      cases outcome with
      | error error => cases equal
      | ok others => rw [whole others rfl]

theorem GoThrough.length_replies {steps : List Step} {events : List Link.Event}
    {outcome : Except Error (List Bytes)} (through : GoThrough steps events outcome) :
    ∀ replies, outcome = .ok replies → replies.length = steps.length := by
  induction through with
  | done =>
    intro replies equal
    cases equal
    rfl
  | stops later fails =>
    intro replies equal
    cases equal
  | @goesOn step later events rest reply outcome well through ih =>
    intro replies equal
    cases outcome with
    | error error => cases equal
    | ok others =>
      cases equal
      simp [ih others rfl]

theorem GoThrough.append_ok {steps later : List Step} {events rest : List Link.Event}
    {replies : List Bytes} {outcome : Except Error (List Bytes)}
    {first : Except Error (List Bytes)} (through : GoThrough steps events first)
    (well : first = .ok replies) (after : GoThrough later rest outcome) :
    GoThrough (steps ++ later) (events ++ rest) (outcome.map (replies ++ ·)) := by
  induction through generalizing replies with
  | done =>
    cases well
    cases outcome <;> exact after
  | stops later fails => cases well
  | @goesOn step others events rest' reply outcome' goes through ih =>
    cases outcome' with
    | error error => cases well
    | ok answers =>
      cases well
      have rest := GoThrough.goesOn goes (ih rfl)
      rw [List.append_assoc]
      cases outcome <;> exact rest

theorem GoThrough.append_error {steps : List Step} {events : List Link.Event} {error : Error}
    (later : List Step) {first : Except Error (List Bytes)}
    (through : GoThrough steps events first) (failed : first = .error error) :
    GoThrough (steps ++ later) events (.error error) := by
  induction through with
  | done => cases failed
  | stops others fails =>
    cases failed
    exact .stops (others ++ later) fails
  | @goesOn step others events rest reply outcome goes through ih =>
    cases outcome with
    | ok answers => cases failed
    | error other =>
      cases failed
      exact .goesOn goes (ih rfl)

/-! ## Requests as steps -/

/-- How a sending transfer ends by the count that it gives. -/
def sentWhole (what : String) (length : Nat) : Except Error Nat → Except Error Unit
  | .ok count => if count = length then .ok () else .error (.shortTransfer what length count)
  | .error error => .error error

/-- What a receiving transfer leaves, and how it ends, by the reply that it gives. -/
def receivedWhole (what : String) (length : Nat) : Except Error Bytes → Received Error
  | .ok reply =>
    if reply.length = length then ⟨reply, .ok ()⟩
    else ⟨reply.take length, .error (.shortTransfer what length reply.length)⟩
  | .error error => ⟨[], .error error⟩

section Requests

variable {α σ : Type} (machine : Machine σ Link)

theorem course_complaining (complaint : Error → String) (exchange : Exchange α) (state : σ) :
    (complaining complaint exchange).run.course machine state =
      exchange.run.course machine state := by
  unfold complaining
  rw [ExceptT.run_tryCatch, Dialogue.course_bind]
  rcases exchange.run.course machine state with ⟨outcome, next, events⟩
  cases outcome with
  | ok value => simp
  | error error => simp [ExceptT.run_bind]

theorem course_sendAll (what : String) (complaint : Error → String) (bytes : Bytes)
    {state next : σ} {sent : Except Error Nat}
    (answered : machine (.send bytes) state = (sent, next)) :
    (sendAll what complaint bytes).run.course machine state =
      ⟨sentWhole what bytes.length sent, next, [⟨.send bytes, sent⟩]⟩ := by
  have sending : (complaining complaint (send bytes)).run.course machine state =
      ⟨sent, next, [⟨.send bytes, sent⟩]⟩ := by
    rw [course_complaining]
    show (Dialogue.request (I := Link) (.send bytes)).course machine state = _
    rw [Dialogue.course_request, answered]
  unfold sendAll
  rw [ExceptT.run_bind, Dialogue.course_bind, sending]
  cases sent with
  | error error => simp [sentWhole]
  | ok count => by_cases whole : count = bytes.length <;> simp [sentWhole, whole]

theorem course_sendFrame (command : Command) {state next : σ} {sent : Except Error Nat}
    (answered : machine (.send command.frame) state = (sent, next)) :
    (sendFrame command).run.course machine state =
      ⟨sentWhole command.name command.frame.length sent, next,
        [⟨.send command.frame, sent⟩]⟩ := by
  unfold sendFrame
  rw [ExceptT.run_bind, Dialogue.course_bind]
  simp [course_sendAll machine _ _ _ answered]

theorem course_receive (what : String) (length : Nat) {state next : σ}
    {got : Except Error Bytes} (answered : machine (.receive length) state = (got, next)) :
    (receive what length).course machine state =
      ⟨receivedWhole what length got, next, [⟨.receive length, got⟩]⟩ := by
  unfold receive
  rw [Dialogue.course_bind, Dialogue.course_request, answered]
  cases got with
  | error error => simp [receivedWhole]
  | ok reply => by_cases whole : reply.length = length <;> simp [receivedWhole, whole]

end Requests

theorem Step.whole_or_ends (step : Step) (sent : Except Error Nat) :
    sent = .ok step.transfer.bytes.length ∨
      ∃ error, sentWhole step.transfer.name step.transfer.bytes.length sent = .error error ∧
        step.Goes [⟨.send step.transfer.bytes, sent⟩] (.error error) := by
  cases sent with
  | error error => exact .inr ⟨error, rfl, .sendFails error⟩
  | ok count =>
    by_cases whole : count = step.transfer.bytes.length
    · exact .inl (congrArg _ whole)
    · exact .inr ⟨_, if_neg whole, .sendsOther count whole⟩

theorem Step.sent_goes (step : Step) (silent : step.answer = none) (sent : Except Error Nat) :
    ∃ outcome, step.Goes [⟨.send step.transfer.bytes, sent⟩] outcome ∧
      sentWhole step.transfer.name step.transfer.bytes.length sent =
        outcome.map fun _ => () := by
  rcases step.whole_or_ends sent with whole | ⟨error, ends, goes⟩
  · subst whole
    exact ⟨.ok [], .sends silent, if_pos rfl⟩
  · exact ⟨.error error, goes, ends⟩

theorem Step.answered_or_ends (step : Step) (length : Nat) (due : step.answer = some length)
    (got : Except Error Bytes) :
    (∃ reply, got = .ok reply ∧ reply.length = length) ∨
      ∃ error, (receivedWhole step.transfer.name length got).outcome = .error error ∧
        step.Goes [⟨.send step.transfer.bytes, .ok step.transfer.bytes.length⟩,
          ⟨.receive length, got⟩] (.error error) := by
  cases got with
  | error error => exact .inr ⟨error, rfl, .answerFails length due error⟩
  | ok reply =>
    by_cases whole : reply.length = length
    · exact .inl ⟨reply, rfl, whole⟩
    · refine .inr ⟨.shortTransfer step.transfer.name length reply.length, ?_,
        .answersOther length due reply whole⟩
      simp [receivedWhole, whole]

/-! ## Exchanges that take steps -/

/-- The exchange consists of these steps, whoever answers, and its value is computed from what
they receive. -/
def Takes {α : Type} (steps : List Step) (exchange : Exchange α) (value : List Bytes → α) :
    Prop :=
  ∀ (σ : Type) (machine : Machine σ Link) (state : σ),
    ∃ outcome, GoThrough steps (exchange.run.course machine state).events outcome ∧
      (exchange.run.course machine state).value = outcome.map value

section Takes

variable {α β : Type}

theorem takes_nothing (value : α) : Takes [] (pure value) fun _ => value :=
  fun _ _ _ => ⟨.ok [], .done, rfl⟩

theorem Takes.bind {steps later : List Step} {exchange : Exchange α} {next : α → Exchange β}
    {first : List Bytes → α} {second : List Bytes → List Bytes → β}
    (takes : Takes steps exchange first)
    (goesOn : ∀ replies, Takes later (next (first replies)) (second replies)) :
    Takes (steps ++ later) (exchange >>= next) fun replies =>
      second (replies.take steps.length) (replies.drop steps.length) := by
  intro σ machine state
  obtain ⟨outcome, through, ends⟩ := takes σ machine state
  rcases ran : exchange.run.course machine state with ⟨value, middle, events⟩
  rw [ran] at through ends
  simp only at through ends
  subst ends
  cases outcome with
  | error error =>
    rw [Dialogue.course_bind_error machine _ _ ran]
    exact ⟨.error error, through.append_error later rfl, rfl⟩
  | ok replies =>
    rw [Dialogue.course_bind_ok machine _ _ ran]
    obtain ⟨outcome, throughLater, endsLater⟩ := goesOn replies σ machine middle
    refine ⟨outcome.map (replies ++ ·), through.append_ok rfl throughLater, ?_⟩
    have count := through.length_replies replies rfl
    simp only [endsLater]
    cases outcome with
    | error error => rfl
    | ok others => simp [Except.map, ← count]

theorem Takes.seq {steps later : List Step} {first : Exchange Unit} {rest : Exchange β}
    {value : List Bytes → β} (takes : Takes steps first fun _ => ())
    (after : Takes later rest value) :
    Takes (steps ++ later) (first >>= fun _ => rest) fun replies =>
      value (replies.drop steps.length) :=
  @Takes.bind _ _ _ _ _ (fun _ => rest) (fun _ => ()) (fun _ => value) takes fun _ => after

theorem Takes.congr {steps : List Step} {exchange : Exchange α} {first second : List Bytes → α}
    (takes : Takes steps exchange first)
    (same : ∀ replies, replies.length = steps.length → first replies = second replies) :
    Takes steps exchange second := by
  intro σ machine state
  obtain ⟨outcome, through, ends⟩ := takes σ machine state
  refine ⟨outcome, through, ends.trans ?_⟩
  cases outcome with
  | error error => rfl
  | ok replies => simp only [Except.map, same replies (through.length_replies replies rfl)]

theorem takes_of_goes {step : Step} {exchange : Exchange α} (value : Bytes → α)
    (goes : ∀ (σ : Type) (machine : Machine σ Link) (state : σ),
      ∃ outcome, step.Goes (exchange.run.course machine state).events outcome ∧
        (exchange.run.course machine state).value = outcome.map value) :
    Takes [step] exchange fun replies => value replies.flatten := by
  intro σ machine state
  obtain ⟨outcome, went, ends⟩ := goes σ machine state
  cases outcome with
  | error error => exact ⟨.error error, .stops [] went, ends⟩
  | ok reply =>
    refine ⟨.ok [reply], ?_, ?_⟩
    · simpa [Except.map] using GoThrough.goesOn went .done
    · simpa [Except.map] using ends

end Takes

/-! ## A step and what comes next -/

section First

variable {α β σ : Type} (machine : Machine σ Link) {exchange : Exchange α} {meaning : Bytes → α}
  {state : σ}

/-- An exchange that is one step fails, or what comes next goes on with what it has received. -/
theorem Step.first_goes {step : Step} (rest : α → Exchange β)
    (goes : let asked := exchange.run.course machine state
      ∃ outcome, step.Goes asked.events outcome ∧ asked.value = outcome.map meaning) :
    (∃ events error after, step.Goes events (.error error) ∧
      (exchange >>= rest).run.course machine state = ⟨.error error, after, events⟩) ∨
    ∃ events reply after, step.Goes events (.ok reply) ∧
      (exchange >>= rest).run.course machine state =
        let later := (rest (meaning reply)).run.course machine after
        ⟨later.value, later.state, events ++ later.events⟩ := by
  obtain ⟨outcome, goes, ends⟩ := goes
  rcases asked : exchange.run.course machine state with ⟨value, after, events⟩
  rw [asked] at goes ends
  simp only at goes ends
  subst ends
  cases outcome with
  | error error =>
    exact .inl ⟨events, error, after, goes, Dialogue.course_bind_error machine _ rest asked⟩
  | ok reply =>
    exact .inr ⟨events, reply, after, goes, Dialogue.course_bind_ok machine _ rest asked⟩

theorem Step.looked_goes (step : Step) {length : Nat} (due : step.answer = some length)
    {look : α → Exchange β} {value : Bytes → β}
    (goes : let asked := exchange.run.course machine state
      ∃ outcome, Step.Goes { step with failure? := fun _ => none } asked.events outcome ∧
        asked.value = outcome.map meaning)
    (looks : ∀ reply after, (look (meaning reply)).run.course machine after =
      ⟨(step.judge reply).map value, after, []⟩) :
    let asked := (exchange >>= look).run.course machine state
    ∃ outcome, step.Goes asked.events outcome ∧ asked.value = outcome.map value := by
  rcases first_goes machine look goes with ⟨events, error, after, fails, ran⟩ |
    ⟨events, reply, after, goes, ran⟩
  · rw [ran]
    exact ⟨.error error, step.judged_goes due fails, rfl⟩
  · rw [ran, looks]
    simp only [List.append_nil]
    exact ⟨step.judge reply, step.judged_goes due goes, rfl⟩

end First

/-! ## Questions -/

/-- A step with an answer whose content is no failure. -/
def questionStep (command : Command) (length : Nat) : Step where
  transfer := .frame command
  answer := some length

def heard (receiving : Dialogue Link (Received Error)) : Exchange Bytes :=
  ExceptT.mk do
    let received ← receiving
    return received.outcome.map fun _ => received.bytes

def ask (command : Command) (length : Nat) : Dialogue Link (Received Error) := do
  match ← (sendFrame command).run with
  | .error error => return ⟨[], .error error⟩
  | .ok () => receive command.name length

theorem read_eq_ask {length : Nat} (fits : length ≤ transferMax) :
    read length = ask (.read (.ofNat length)) length := by
  unfold read ask
  exact if_neg (Nat.not_lt_of_le fits)

theorem course_heard {σ : Type} (machine : Machine σ Link)
    (receiving : Dialogue Link (Received Error)) (state : σ) :
    (heard receiving).run.course machine state =
      let received := receiving.course machine state
      ⟨received.value.outcome.map fun _ => received.value.bytes, received.state,
        received.events⟩ := by
  show (receiving >>= fun received =>
    pure (received.outcome.map fun _ => received.bytes)).course machine state = _
  rw [Dialogue.course_bind]
  simp

theorem course_ask_refused {σ : Type} (machine : Machine σ Link) (command : Command) (length : Nat)
    {state next : σ} {sent : Except Error Nat} {error : Error}
    (answered : machine (.send command.frame) state = (sent, next))
    (refused : sentWhole command.name command.frame.length sent = .error error) :
    (ask command length).course machine state =
      ⟨⟨[], .error error⟩, next, [⟨.send command.frame, sent⟩]⟩ := by
  unfold ask
  rw [Dialogue.course_bind, course_sendFrame machine command answered, refused]
  rfl

theorem course_ask_answered {σ : Type} (machine : Machine σ Link) (command : Command)
    (length : Nat) {state middle next : σ} {got : Except Error Bytes}
    (sends : machine (.send command.frame) state = (.ok command.frame.length, middle))
    (receives : machine (.receive length) middle = (got, next)) :
    (ask command length).course machine state =
      ⟨receivedWhole command.name length got, next,
        [⟨.send command.frame, .ok command.frame.length⟩, ⟨.receive length, got⟩]⟩ := by
  unfold ask
  rw [Dialogue.course_bind, course_sendFrame machine command sends]
  simp only [sentWhole, if_true, course_receive machine command.name length receives]
  rfl

theorem ask_goes {σ : Type} (machine : Machine σ Link) (command : Command) (length : Nat)
    (state : σ) :
    let asked := (heard (ask command length)).run.course machine state
    (questionStep command length).Goes asked.events asked.value := by
  rw [course_heard]
  rcases sends : machine (.send command.frame) state with ⟨sent, next⟩
  rcases (questionStep command length).whole_or_ends sent with rfl | ⟨error, refused, goes⟩
  · rcases receives : machine (.receive length) next with ⟨got, last⟩
    rw [course_ask_answered machine command length sends receives]
    rcases (questionStep command length).answered_or_ends length rfl got with
      ⟨reply, rfl, exact⟩ | ⟨error, ends, goes⟩
    · simp only [receivedWhole, exact, if_true, Except.map]
      exact .answers length rfl reply exact rfl
    · simp only [questionStep, Transfer.name] at ends
      simp only [ends, Except.map]
      exact goes
  · rw [course_ask_refused machine command length sends refused]
    exact goes

theorem query_eq_ask {α : Type} (command : Command) (form : AnswerForm α) :
    query command form = (do return form.meaning (← heard (ask command form.length))) := by
  unfold query ask heard
  apply ExceptT.ext
  simp only [ExceptT.run_bind, ExceptT.run_mk, bind_assoc]
  congr 1
  funext outcome
  cases outcome with
  | error error => rfl
  | ok value =>
    show (receive command.name form.length >>= fun a => pure (Except.ok a)) >>= _ = _
    rw [bind_assoc]
    congr 1
    funext received
    rcases received with ⟨bytes, outcome⟩
    cases outcome <;> rfl

theorem query_goes {α σ : Type} (machine : Machine σ Link) (command : Command)
    (form : AnswerForm α) (state : σ) :
    let asked := (query command form).run.course machine state
    ∃ outcome, (questionStep command form.length).Goes asked.events outcome ∧
      asked.value = outcome.map form.meaning := by
  rw [query_eq_ask]
  refine Step.looked_goes machine _ rfl ⟨_, ask_goes machine command form.length state, ?_⟩
    fun reply _ => rfl
  exact (id_map _).symm

end SpiProgrammer.Bridge
