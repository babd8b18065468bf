import SpiProgrammer.Program
import SpiProgrammer.Proofs.Session.Lifetime

/-! # The program closes what it opens

The transfers out on the bus are those of the link, so what is known of a session on the link
holds of one on the bus.  A bus from which nothing can be received breaks off, but there no session
is ever opened.

Main statement: a session that cannot be opened is not closed, and one that has been opened is
closed once, after everything else, and that changes nothing of what the session was opened for;
this holds for a session that is used in any way, and for the program with every command. -/
set_option autoImplicit false

namespace SpiProgrammer

open Bridge (Link Sending stayOpen? Quiet frames)
open Dialogue (Carries Unless)
open Session (ClosedOnce keep?)

/-! ## The bus as a link -/

def Usb.Bus.sending? : Usb.Bus.Event → Option Sending
  | ⟨.transferOut bytes _, .ok count⟩ => some ⟨bytes, count == bytes.length⟩
  | ⟨.transferOut bytes _, .error _⟩ => some ⟨bytes, false⟩
  | _ => none

theorem Usb.serve?_carries {φ : Type} (next? : φ → Sending → Option φ) (packet : Nat) :
    Carries (.seeing Bridge.Link.sending? next?) (.seeing Usb.Bus.sending? next?) (packet = 0)
      (Usb.serve? packet) := by
  rintro (bytes | length) phase allowed
  · rintro (fault | count)
    · obtain ⟨after, leads⟩ := allowed (.error fault.toError)
      exact ⟨after, leads, leads⟩
    · obtain ⟨after, leads⟩ := allowed (.ok count)
      exact ⟨after, leads, leads⟩
  · by_cases unreadable : packet = 0
    · simp only [Usb.serve?, if_pos unreadable]
      exact unreadable
    · simp only [Usb.serve?, if_neg unreadable]
      rintro (fault | reply) <;> exact ⟨phase, rfl, rfl⟩

/-- Objects to the frame that closes the bridge. -/
def Usb.stayOpen : Watch Bool Usb.Bus :=
  .seeing Usb.Bus.sending? stayOpen?

/-! ## Opening a session on the bus -/

/-- Where there is a value it is one of these, and nothing is left announced. -/
def Opens {ε α : Type} (P : α → Prop) (outcome : Option (Except ε α)) (continues : Bool) : Prop :=
  ∀ value, outcome = some (.ok value) → continues = false ∧ P value

/-- Ends in no value. -/
def Fruitless {ε α : Type} (d : Dialogue Usb.Bus (Option (Except ε α))) : Prop :=
  d.Obeys Usb.stayOpen (Opens fun _ => False) false

section Opening

variable {ε α β : Type}

theorem Fruitless.bind {x : Bridge.Exchange α} {f : α → Bridge.Exchange β}
    {serve : (r : Bridge.LinkRequest) → Dialogue Usb.Bus (Option (Bridge.LinkReply r))}
    (fruitless : Fruitless (x.run.through? serve)) : Fruitless ((x >>= f).run.through? serve) := by
  unfold Fruitless
  rw [ExceptT.run_bind, Dialogue.through?_bind]
  refine Dialogue.obeys_bind (fruitless.imp ?_)
  rintro (_ | error | value) last fails
  · exact nofun
  · exact nofun
  · exact (fails value rfl).2.elim

theorem through?_receive {length : Nat}
    (next : Except Bridge.Error Bytes → Dialogue Link α) :
    (Dialogue.ask (I := Link) (.receive length) next).through? (Usb.serve? 0) = .done none := by
  rw [Dialogue.through?]
  rfl

theorem query_fruitless {command : Bridge.Command} (plain : command.Plain)
    (form : Bridge.AnswerForm α) :
    Fruitless ((Bridge.query command form).run.through? (Usb.serve? 0)) := by
  have sends := (Usb.serve?_carries stayOpen? 0).through?
    (Bridge.sendFrame_obeys (Bridge.stayOpen?_plain plain))
  unfold Fruitless Bridge.query
  rw [ExceptT.run_bind, Dialogue.through?_bind]
  refine Dialogue.obeys_bind (sends.imp ?_)
  rintro (_ | error | value) last _
  · exact nofun
  · exact nofun
  · show Dialogue.Obeys _ _ ((Dialogue.ask (I := Link) (.receive form.length) _).through? _) last
    rw [through?_receive]
    exact nofun

theorem start_fruitless (frequency : Nat) :
    Fruitless ((Session.start frequency).run.through? (Usb.serve? 0)) := by
  unfold Session.start
  cases Session.checkFrequency frequency with
  | error fault => exact nofun
  | ok _ =>
    -- the version is asked for first
    show Fruitless ((Bridge.checkVersion >>= _).run.through? _)
    exact Fruitless.bind (Fruitless.bind (query_fruitless Bridge.plain_getVersion _))

theorem start_opens (frequency packet : Nat) :
    ((Session.start frequency).run.through? (Usb.serve? packet)).Obeys Usb.stayOpen
      (Opens fun _ => packet ≠ 0) false := by
  by_cases readable : packet = 0
  · subst readable
    refine (start_fruitless frequency).imp ?_
    rintro _ last fails session rfl
    exact (fails session rfl).2.elim
  · have quiet := (Usb.serve?_carries stayOpen? packet).through? (Session.start_quiet frequency)
    refine quiet.imp ?_
    rintro _ last ended session rfl
    exact ⟨ended, readable⟩

def Usb.Silent : Usb.BusRequest → Prop
  | .transferOut _ _ | .transferIn _ _ => False
  | _ => True

theorem demand_silent {refusal : String → Bridge.Error}
    {asked : Dialogue Usb.Bus (Except String α)} (asks : asked.Asks Usb.Silent) :
    (Usb.demand refusal asked).run.Asks Usb.Silent :=
  Dialogue.asks_bind asks fun _ => trivial

theorem openProbe_silent (serial : Option String) :
    (Usb.openProbe serial).run.Asks Usb.Silent := by
  have asked {r : Usb.BusRequest} (silent : Usb.Silent r) :
      (Dialogue.request (I := Usb.Bus) r).Asks Usb.Silent := ⟨silent, fun _ => trivial⟩
  unfold Usb.openProbe
  refine Dialogue.asks_bind_except (demand_silent (asked trivial)) fun devices => ?_
  refine Dialogue.asks_bind_except ?_ fun (device, index) => ?_
  · cases Usb.choose devices serial <;> trivial
  refine Dialogue.asks_bind_except trivial fun _ => ?_
  refine Dialogue.asks_bind_except (demand_silent (asked trivial)) fun _ => ?_
  refine Dialogue.asks_bind_except (demand_silent (asked trivial)) fun settings => ?_
  split
  · refine Dialogue.asks_bind_except trivial fun _ => ?_
    refine Dialogue.asks_bind_except (demand_silent (asked trivial)) fun _ => ?_
    refine Dialogue.asks_bind_except (demand_silent (asked trivial)) fun _ => ?_
    exact demand_silent (asked trivial)
  · trivial

theorem Usb.stayOpen_silent (r : Usb.BusRequest) (reply : Usb.BusReply r) (silent : Usb.Silent r)
    (phase : Bool) : Usb.stayOpen phase ⟨r, reply⟩ = some phase := by
  cases r with
  | transferOut bytes time => exact silent.elim
  | transferIn requested time => exact silent.elim
  | _ => rfl

theorem opens_bind {P : α → Prop} {Q : β → Prop} {x : Programmer.Attempt ε α}
    {f : α → Programmer.Attempt ε β} (first : x.run.run.Obeys Usb.stayOpen (Opens P) false)
    (second : ∀ value, P value → (f value).run.run.Obeys Usb.stayOpen (Opens Q) false) :
    (x >>= f).run.run.Obeys Usb.stayOpen (Opens Q) false := by
  rw [ExceptT.run_bind, OptionT.run_bind]
  refine Dialogue.obeys_bind (first.imp ?_)
  rintro (_ | error | value) last opens
  · exact nofun
  · exact nofun
  · obtain ⟨rfl, well⟩ := opens value rfl
    exact second value well

theorem opens_except (given : Except ε α) :
    (liftM given : Programmer.Attempt ε α).run.run.Obeys Usb.stayOpen (Opens fun _ => True)
      false := by
  cases given with
  | error error => exact nofun
  | ok value => exact fun _ _ => ⟨rfl, trivial⟩

theorem connect_opens (options : Session.Options) :
    (Programmer.connect options).run.run.Obeys Usb.stayOpen
      (Opens fun connection => connection.packet ≠ 0) false := by
  have probing : (OptionT.lift (Usb.openProbe options.serial).run).run.Obeys Usb.stayOpen
      (Opens fun _ => True) false := by
    refine Dialogue.obeys_bind (Dialogue.Obeys.imp (Dialogue.obeys_of_asks
      (openProbe_silent options.serial)
      fun r reply silent => Usb.stayOpen_silent r reply silent _) ?_)
    rintro outcome _ rfl
    exact fun _ _ => ⟨rfl, trivial⟩
  unfold Programmer.connect
  refine opens_bind (opens_except _) fun _ _ => ?_
  refine opens_bind probing fun packet _ => ?_
  refine opens_bind (start_opens options.frequency packet) fun session readable => ?_
  rintro _ ⟨⟩
  exact ⟨rfl, readable⟩

theorem openDescribed_opens (text : String) :
    (Programmer.openDescribed text).run.run.Obeys Usb.stayOpen
      (Opens fun connection => connection.packet ≠ 0) false := by
  unfold Programmer.openDescribed
  refine opens_bind (opens_except _) fun options _ => ?_
  refine Dialogue.obeys_bind ((connect_opens options).imp ?_)
  rintro (_ | error | connection) last opens
  · exact nofun
  · exact nofun
  · obtain ⟨rfl, readable⟩ := opens connection rfl
    rintro _ ⟨⟩
    exact ⟨rfl, readable⟩

end Opening

namespace Program

def sendings (events : List Host.Event) : List Sending :=
  (events.filterMap Interface.Event.left?).filterMap Usb.Bus.sending?

section Runs

variable {α σ φ : Type} {next? : φ → Sending → Option φ} {phase : φ} {Ends : α → φ → Prop}
  {d : Dialogue Host α}

theorem sendings_of_obeys (obeys : d.Obeys (Watch.left (.seeing Usb.Bus.sending? next?)) Ends phase)
    (machine : Machine σ Host) (state : σ) :
    ∃ last, (sendings (d.course machine state).events).foldlM next? phase = some last ∧
      Ends (d.course machine state).value last := by
  obtain ⟨last, follows, ends⟩ := obeys.run machine state
  rw [Watch.after?_left, Watch.after?_seeing] at follows
  exact ⟨last, follows, ends⟩

variable (machine : Machine σ Host) (state : σ)

theorem connect_course (description : String) :
    let opened := (connect description).run.run.course machine state
    ∃ continues, (sendings opened.events).foldlM stayOpen? false = some continues ∧
      ∀ connection, opened.value = some (.ok connection) →
        continues = false ∧ connection.packet ≠ 0 :=
  sendings_of_obeys (Dialogue.obeys_onLeft (openDescribed_opens description)) machine state

theorem onBus_course {packet : Nat} (readable : packet ≠ 0) (job : Job α) :
    let used := (onBus packet job).run.run.course machine state
    (∃ outcome, used.value = some outcome) ∧
      (sendings used.events).foldlM stayOpen? false = some false := by
  have quiet : (job.run.throughLeft Session.serve).Obeys Bridge.stayOpen.left
      (fun _ continues => continues = false) false := by
    refine Dialogue.obeys_throughLeft ?_ job.run false rfl
    rintro r _ rfl
    exact Session.serve_quiet r
  obtain ⟨last, follows, ends⟩ := sendings_of_obeys
    ((Usb.serve?_carries stayOpen? packet).left.through? quiet) machine state
  obtain ⟨outcome, given, rfl⟩ := ends.some readable
  exact ⟨⟨outcome, given⟩, follows⟩

theorem close_course {connection : Programmer.Connection} (readable : connection.packet ≠ 0) :
    let closing := (close connection).run.course machine state
    closing.value = some () ∧
      ∃ whole, sendings closing.events = [⟨Bridge.Command.close.frame, whole⟩] := by
  have closes := (Usb.serve?_carries keep? connection.packet).through? (Session.finish_closes [])
  rw [← Session.close_eq connection.session] at closes
  obtain ⟨last, follows, ends⟩ := sendings_of_obeys (Dialogue.obeys_onLeft closes) machine state
  rw [Session.foldlM_keep?] at follows
  obtain ⟨_, given, whole, sent⟩ := ends.some readable
  exact ⟨given, whole, (Option.some.inj follows).trans sent⟩

/-- A job done with an open programmer, which is closed afterwards. -/
theorem course_used {connection : Programmer.Connection} (readable : connection.packet ≠ 0)
    (job : Job Unit) :
    let used := (onBus connection.packet job).run.run.course machine state
    let closing := (close connection).run.course machine used.state
    (do
      let outcome ← (onBus connection.packet job).run
      close connection
      return outcome : OptionT (Dialogue Host) _).run.course machine state =
      ⟨used.value, closing.state, used.events ++ closing.events⟩ := by
  intro used closing
  obtain ⟨⟨outcome, given⟩, -⟩ := onBus_course machine state readable job
  have went : (onBus connection.packet job).run.run.course machine state =
      ⟨some outcome, used.state, used.events⟩ := by rw [← given]
  have closed : (close connection).run.course machine used.state =
      ⟨some (), closing.state, closing.events⟩ := by
    rw [← (close_course machine used.state readable).1]
  rw [Dialogue.course_bind_some _ _ _ went, Dialogue.course_bind_some _ _ _ closed]
  have same : used.value = some outcome := given
  rw [same]
  show Course.mk (some outcome) closing.state (used.events ++ (closing.events ++ [])) = _
  rw [List.append_nil]

theorem sendings_append (first second : List Host.Event) :
    sendings (first ++ second) = sendings first ++ sendings second := by
  simp only [sendings, List.filterMap_append]

/-- If no programmer can be opened, none is closed; one that has been opened is closed once, and
what is given is what the job gave. -/
theorem withProgrammer_closes_once (description : String) (job : Session → Job Unit) :
    let opened := (connect description).run.run.run machine state
    let ran := (withProgrammer description job).run.run.run machine state
    match opened.value with
    | none =>
      ran.value = none ∧ Bridge.Command.close.frame ∉ frames false (sendings ran.events)
    | some (.error failure) =>
      ran.value = some (.error failure) ∧
        Bridge.Command.close.frame ∉ frames false (sendings ran.events)
    | some (.ok connection) =>
      let used :=
        (onBus connection.packet (job connection.session)).run.run.run machine opened.state
      ∃ outcome, used.value = some outcome ∧ ran.value = some outcome ∧
        ClosedOnce (sendings (opened.events ++ used.events)) (sendings ran.events) := by
  intro opened ran
  obtain ⟨continues, opening, opens⟩ := connect_course machine state description
  have went : (connect description).run.run.course machine state =
    ⟨opened.value, opened.state, opened.events⟩ := rfl
  have all : (withProgrammer description job).run.run.course machine state =
    ⟨ran.value, ran.state, ran.events⟩ := rfl
  unfold withProgrammer at all
  rw [ExceptT.run_bind] at all
  match outcome : opened.value with
  | none =>
    rw [outcome] at went
    rw [Dialogue.course_bind_none _ _ _ went] at all
    obtain ⟨value, -, events⟩ := Course.mk.inj all
    rw [← value, ← events]
    exact ⟨rfl, (Bridge.frames_of_stayOpen? opening).1⟩
  | some (.error failure) =>
    rw [outcome] at went
    rw [Dialogue.course_bind_some _ _ _ went] at all
    obtain ⟨value, -, events⟩ := Course.mk.inj all
    rw [← value, ← events]
    refine ⟨rfl, ?_⟩
    show _ ∉ frames false (sendings (opened.events ++ []))
    rw [List.append_nil]
    exact (Bridge.frames_of_stayOpen? opening).1
  | some (.ok connection) =>
    -- a session is opened only where something can be received, so nothing breaks off any more
    obtain ⟨rfl, readable⟩ := opens connection outcome
    rw [outcome] at went
    rw [Dialogue.course_bind_some _ _ _ went] at all
    obtain ⟨value, -, events⟩ := Course.mk.inj all
    let job := job connection.session
    let used := (onBus connection.packet job).run.run.course machine opened.state
    let closing := (close connection).run.course machine used.state
    obtain ⟨⟨result, given⟩, working⟩ := onBus_course machine opened.state readable job
    obtain ⟨-, whole, closes⟩ := close_course machine used.state readable
    have rest := course_used machine opened.state readable job
    have valued : used.value = ran.value := (congrArg Course.value rest).symm.trans value
    have happened : opened.events ++ (used.events ++ closing.events) = ran.events :=
      (congrArg (fun course => opened.events ++ course.events) rest).symm.trans events
    refine ⟨result, given, valued.symm.trans given, ?_⟩
    have ends := Session.closedOnce_of_stayOpen (Session.stayOpen_append opening working) whole
    rw [← closes, ← sendings_append, ← sendings_append, List.append_assoc] at ends
    rw [← happened]
    exact ends

theorem listing_asks_nothing (command : CommandLine.Command) (listing : jobOf command = none) :
    ((run command).run.run.run machine state).events = [] := by
  unfold run
  rw [listing]
  rfl

end Runs

/-- However the far end behaves, a session that cannot be opened is not closed.  One that has been
opened and used in any way is closed once, as the last thing that is sent, whether it is closed or
dropped, and that changes nothing of what its use gave.  The program does so with every command
that needs a programmer, and reports what the job gave. -/
theorem sessions_closed_once :
    (∀ {σ α : Type} (machine : Machine σ Link) (state : σ) (frequency : Nat)
      (use : Session → Dialogue Session.Use α) (ending : Session.Ending),
      let opened := (Session.start frequency).run.run machine state
      let ran := (Session.live frequency use ending).run.run machine state
      match opened.value with
      | .error error =>
        ran.value = .error error ∧
          Bridge.Command.close.frame ∉ frames false (Session.sendings ran.events)
      | .ok session =>
        let used := ((use session).through Session.serveUse).run machine opened.state
        ran.value = .ok used.value ∧
          ClosedOnce (Session.sendings (opened.events ++ used.events))
            (Session.sendings ran.events)) ∧
    (∀ {σ : Type} (machine : Machine σ Host) (state : σ) (command : CommandLine.Command),
      let ran := (run command).run.run.run machine state
      match jobOf command with
      | none => ran.events = []
      | some (description, job) =>
        let opened := (connect description).run.run.run machine state
        match opened.value with
        | none =>
          ran.value = none ∧ Bridge.Command.close.frame ∉ frames false (sendings ran.events)
        | some (.error failure) =>
          ran.value = some (.error failure) ∧
            Bridge.Command.close.frame ∉ frames false (sendings ran.events)
        | some (.ok connection) =>
          let used :=
            (onBus connection.packet (job connection.session)).run.run.run machine opened.state
          ∃ outcome, used.value = some outcome ∧ ran.value = some outcome ∧
            ClosedOnce (sendings (opened.events ++ used.events)) (sendings ran.events)) := by
  refine ⟨fun machine state frequency use ending =>
    Session.live_closes_once machine state frequency use ending, ?_⟩
  intro σ machine state command ran
  cases asked : jobOf command with
  | none => exact listing_asks_nothing machine state command asked
  | some found =>
    obtain ⟨description, job⟩ := found
    have same : run command = withProgrammer description job := by
      unfold run
      rw [asked]
    have closes := withProgrammer_closes_once machine state description job
    rw [← same] at closes
    exact closes

end Program

end SpiProgrammer
