import SpiProgrammer.Files.Directory
import SpiProgrammer.Proofs.CommandLine.Options
import SpiProgrammer.Proofs.Flash.Limits
import SpiProgrammer.Proofs.Program.Closing
import SpiProgrammer.Proofs.Session.Commands
import SpiProgrammer.Usb.Simulated

/-! # What the command that erases may do

A chip command goes out only where the job asks for it, so what a command may do to the chip is read
off its job, through all layers down to the bus.  Whether an address was given is known to the
command line alone: to the job, one that was not given is zero.

Main statement: with an address that is not zero and without a length nothing is sent to the chip,
and what is reported is that a length is required; the whole chip is erased only without a length
and without any address but zero.  An address that is given as zero does erase the whole chip
(`zero_address_erases_chip`), although the report would have a length required there as well. -/
set_option autoImplicit false

namespace SpiProgrammer

open CommandLine (Invocation Gives AsksToErase readNumber)
open Dialogue (asks_bind asks_bind_except asks_onLeft asks_through? asks_throughLeft
  asks_throughLeft?)

/-! ## Chip commands on the bus -/

/-- Where a chip command goes out on the bus, its opcode is allowed. -/
def Usb.Sends (allowed : UInt8 → Prop) : Usb.BusRequest → Prop
  | .transferOut bytes _ => ∀ opcode, Bridge.Writes opcode bytes → allowed opcode
  | _ => True

section Sends

variable {I : Interface} {ε α β : Type} {P : I.Request → Prop} {allowed : UInt8 → Prop}

theorem asks_bind_option {x : OptionT (Dialogue I) α} {f : α → OptionT (Dialogue I) β}
    (first : x.run.Asks P) (second : ∀ value, (f value).run.Asks P) :
    (x >>= f).run.Asks P := by
  rw [OptionT.run_bind]
  refine asks_bind first fun outcome => ?_
  cases outcome with
  | none => trivial
  | some value => exact second value

theorem asks_bind_attempt {x : ExceptT ε (OptionT (Dialogue I)) α}
    {f : α → ExceptT ε (OptionT (Dialogue I)) β} (first : x.run.run.Asks P)
    (second : ∀ value, (f value).run.run.Asks P) : (x >>= f).run.run.Asks P := by
  rw [ExceptT.run_bind]
  refine asks_bind_option first fun outcome => ?_
  cases outcome with
  | error error => trivial
  | ok value => exact second value

theorem serve?_sends (packet : Nat) (r : Bridge.LinkRequest) (sends : Bridge.Link.Sends allowed r) :
    (Usb.serve? packet r).Asks (Usb.Sends allowed) := by
  cases r with
  | send bytes =>
    refine ⟨sends, ?_⟩
    rintro (fault | count) <;> trivial
  | receive length =>
    unfold Usb.serve?
    split
    · trivial
    · refine ⟨trivial, ?_⟩
      rintro (fault | reply) <;> trivial

theorem connect_sends (options : Session.Options) :
    (Programmer.connect options).run.run.Asks (Usb.Sends allowed) := by
  refine asks_bind_attempt ?_ fun _ => asks_bind_attempt ?_ fun packet =>
    asks_bind_attempt ?_ fun session => trivial
  · cases Session.checkFrequency options.frequency <;> trivial
  · refine asks_bind ((openProbe_silent options.serial).imp fun r silent => ?_) fun _ => trivial
    cases r <;> first | exact silent.elim | trivial
  · exact asks_through? (serve?_sends packet) (Session.start_sends options.frequency)

theorem openDescribed_sends (text : String) :
    (Programmer.openDescribed text).run.run.Asks (Usb.Sends allowed) := by
  refine asks_bind_attempt ?_ fun options => ?_
  · cases Programmer.configuration text <;> trivial
  · refine asks_bind (connect_sends options) fun outcome => ?_
    cases outcome <;> trivial

end Sends

/-! ## The job -/

namespace Job

/-- A chip command that the job asks for has an opcode that is allowed. -/
def Issues (allowed : UInt8 → Prop) : Workplace.Request → Prop
  | .inl r => Session.Issues allowed r
  | .inr _ => True

theorem erase_refuses (capabilities : Spi.Capabilities) {address : UInt32}
    (nonzero : address ≠ 0) : erase capabilities address none = throw .lengthRequired := by
  unfold erase
  rw [if_pos nonzero]
  rfl

theorem eraseRange_issues (address length : UInt32) (capabilities : Spi.Capabilities) :
    (Flash.erase capabilities address length).run.Asks (Session.Issues (· ≠ 0xC7)) := by
  have serves : Flash.Serves (Session.Issues (· ≠ 0xC7)) :=
    { looks := ⟨by decide, by decide⟩
      delays := fun _ => trivial
      enables := ⟨by decide, by decide⟩ }
  unfold Flash.erase
  cases Flash.erasePlan capabilities address.toNat length.toNat with
  | error error => trivial
  | ok plan =>
    obtain ⟨width, found⟩ := plan
    refine Flash.eraseSectors_asks serves fun sector _ => ⟨?_, ?_⟩
    · show Spi.Opcode.eraseSector width ≠ 0xC7
      cases width <;> decide
    · rw [Spi.Command.sent_erase, List.length_cons, width.encode_length]
      cases width <;> decide

theorem erase_issues (capabilities : Spi.Capabilities) (address length : UInt32) :
    (erase capabilities address (some length)).run.Asks (Issues (· ≠ 0xC7)) := by
  refine asks_bind_except ?_ fun _ => trivial
  exact asks_bind (asks_onLeft (eraseRange_issues address length capabilities)) fun _ => trivial

end Job

/-! ## The program -/

namespace Program

/-- Where a chip command goes out, its opcode is allowed; of files anything may be asked. -/
def Sends (allowed : UInt8 → Prop) : Host.Request → Prop
  | .inl r => Usb.Sends allowed r
  | .inr _ => True

variable {allowed : UInt8 → Prop}

theorem onBus_sends (packet : Nat) {job : Job Unit} (issues : job.run.Asks (Job.Issues allowed)) :
    (onBus packet job).run.run.Asks (Sends allowed) := by
  have overLink : (job.run.throughLeft Session.serve).Asks
      (Sum.elim (Bridge.Link.Sends allowed) fun _ => True) :=
    asks_throughLeft (J := Bridge.Link) Session.serve_sends (fun _ _ => trivial) issues
  exact asks_throughLeft? (serve?_sends packet) (fun _ _ => trivial) overLink

theorem close_sends (connection : Programmer.Connection) :
    (close connection).run.Asks (Sends allowed) := by
  have finishes : (({ session := connection.session } : Session.Owned).close.through?
      (Usb.serve? connection.packet)).Asks (Usb.Sends allowed) := by
    rw [Session.close_eq]
    exact asks_through? (serve?_sends connection.packet) Session.finish_sends
  exact asks_onLeft finishes

theorem withProgrammer_sends (description : String) {job : Session → Job Unit}
    (issues : ∀ session, (job session).run.Asks (Job.Issues allowed)) :
    (withProgrammer description job).run.run.Asks (Sends allowed) := by
  refine asks_bind_attempt (asks_onLeft (openDescribed_sends description)) fun connection => ?_
  refine asks_bind_option (onBus_sends connection.packet (issues connection.session)) fun _ => ?_
  exact asks_bind_option (close_sends connection) fun _ => trivial

theorem runReporting_sends {command : CommandLine.Command} {description : String}
    {job : Session → Job Unit} (asked : jobOf command = some (description, job))
    (issues : ∀ session, (job session).run.Asks (Job.Issues allowed)) :
    (runReporting command).Asks (Sends allowed) := by
  unfold runReporting run
  rw [asked]
  refine asks_bind (withProgrammer_sends description issues) fun outcome => ?_
  obtain _ | error | _ := outcome <;> trivial

/-- A chip command with this opcode was written to the bridge. -/
def Executes (opcode : UInt8) (events : List Host.Event) : Prop :=
  ∃ bytes time reply, ⟨.inl (.transferOut bytes time), reply⟩ ∈ events ∧
    Bridge.Writes opcode bytes

section Runs

variable {σ : Type} (machine : Machine σ Host) (state : σ)

theorem executes_of_sends {α : Type} {d : Dialogue Host α} (sends : d.Asks (Sends allowed))
    {opcode : UInt8} (executes : Executes opcode (d.run machine state).events) :
    allowed opcode := by
  obtain ⟨bytes, time, reply, happened, writes⟩ := executes
  exact Dialogue.events_of_asks machine sends state _ happened opcode writes

/-- How a run ends whose job is refused for the lack of a length. -/
def Refuses (programmer : String) (ran : Transcript Host σ Nat) : Prop :=
  match ((connect programmer).run.run.run machine state).value with
  | some (.ok _) => ran.value = 1 ∧ ran.notices.getLast? = some (.complaint
      ("Error: " ++ Text.quoted "--length is required when --address is given" ++ "\n"))
  | some (.error failure) => ran.value = 1 ∧
      ran.notices.getLast? = some (.complaint ("Error: " ++ failure.report ++ "\n"))
  | none => ran.value = brokenOff

theorem runReporting_error {command : CommandLine.Command} {failure : Failure}
    (failed : ((run command).run.run.run machine state).value = some (.error failure)) :
    let ran := (runReporting command).run machine state
    ran.value = 1 ∧
      ran.notices.getLast? = some (.complaint ("Error: " ++ failure.report ++ "\n")) := by
  unfold runReporting
  rw [Dialogue.run_bind]
  simp only [failed]
  refine ⟨rfl, ?_⟩
  show List.getLast? (_ ++ [_]) = _
  rw [List.getLast?_concat]

theorem runReporting_none {command : CommandLine.Command}
    (broke : ((run command).run.run.run machine state).value = none) :
    ((runReporting command).run machine state).value = brokenOff := by
  unfold runReporting
  rw [Dialogue.run_bind]
  simp only [broke]
  rfl

theorem erase_refuses (programmer : String) {address : UInt32} (nonzero : address ≠ 0) :
    let command := CommandLine.Command.erase programmer address none
    let ran := (runReporting command).run machine state
    Refuses machine state programmer ran ∧ ∀ opcode, ¬ Executes opcode ran.events := by
  intro command ran
  have refuses : Job.erase Session.capabilities address none = throw .lengthRequired :=
    Job.erase_refuses _ nonzero
  have asked : jobOf command = some (programmer, fun _ => throw .lengthRequired) := by
    rw [← refuses]
    rfl
  refine ⟨?_, fun opcode executes => ?_⟩
  · have same : run command = withProgrammer programmer fun _ => throw .lengthRequired := by
      unfold run
      rw [asked]
    have ends := withProgrammer_closes_once machine state programmer
      fun _ => throw .lengthRequired
    rw [← same] at ends
    unfold Refuses
    match opened : ((connect programmer).run.run.run machine state).value with
    | none =>
      simp only [opened] at ends
      exact runReporting_none machine state ends.1
    | some (.error failure) =>
      simp only [opened] at ends
      exact runReporting_error machine state ends.1
    | some (.ok connection) =>
      simp only [opened] at ends
      obtain ⟨outcome, used, came, -⟩ := ends
      cases used
      exact runReporting_error machine state came
  · have sends : (runReporting command).Asks (Sends fun _ => False) :=
      runReporting_sends asked fun _ => trivial
    exact executes_of_sends machine state sends executes

/-- The whole chip is erased only if no length is asked for and the address is zero. -/
theorem erases_chip_only (programmer : String) {address : UInt32} {length : Option UInt32}
    (executes : Executes 0xC7
      ((runReporting (.erase programmer address length)).run machine state).events) :
    length = none ∧ address = 0 := by
  cases length with
  | none =>
    refine ⟨rfl, ?_⟩
    by_contra nonzero
    exact (erase_refuses machine state programmer nonzero).2 _ executes
  | some length =>
    have sends : (runReporting (.erase programmer address (some length))).Asks
        (Sends (· ≠ 0xC7)) :=
      runReporting_sends rfl fun _ => Job.erase_issues Session.capabilities address length
    exact absurd rfl (executes_of_sends machine state sends executes)

end Runs

theorem ofArguments_eq {arguments : List String} {invocation : Invocation}
    (understood : Invocation.ofArguments arguments = .ok invocation) :
    (ofArguments arguments).2 = runReporting invocation.command := by
  unfold ofArguments
  rw [understood]

/-- A bus with one probe, which has an emulated bridge and chip behind it. -/
def bench : Usb.Simulated where
  devices := [{ info := ⟨0x0483, 0x374F, none, "1", 1⟩, peer := .emulated {} }]

/-- Where an address is given that is not zero, and no length, the job is refused before it asks for
anything: the program reports that a length is required, and no chip command goes out.  The whole
chip is erased only where no length is given, and no address but zero. -/
theorem nonzero_address_needs_length {arguments : List String} {verbosity : Nat}
    {programmer : String} {address : UInt32} {length : Option UInt32}
    (understood : Invocation.ofArguments arguments =
      .ok ⟨verbosity, .erase programmer address length⟩) :
    (∀ value, Gives arguments .address value → readNumber value ≠ .ok 0 →
      (∀ text, ¬ Gives arguments .length text) →
      (∀ {σ : Type} (machine : Machine σ Workplace) (state : σ),
        (Job.erase Session.capabilities address length).run.run machine state =
          ⟨.error .lengthRequired, state, [], []⟩) ∧
      ∀ {σ : Type} (machine : Machine σ Host) (state : σ),
        let ran := (ofArguments arguments).2.run machine state
        Refuses machine state programmer ran ∧ ∀ opcode, ¬ Executes opcode ran.events) ∧
    ∀ {σ : Type} (machine : Machine σ Host) (state : σ),
      Executes 0xC7 ((ofArguments arguments).2.run machine state).events →
        (∀ text, ¬ Gives arguments .length text) ∧
        ∀ value, Gives arguments .address value → readNumber value = .ok 0 := by
  have asks := CommandLine.asksToErase_of_ofArguments understood
  rw [ofArguments_eq understood]
  refine ⟨fun value gives nonzero none => ?_, fun machine state executes => ?_⟩
  · obtain rfl := asks.noLength none
    have nonzero : address ≠ 0 := by
      rintro rfl
      exact nonzero (asks.atAddress value gives)
    refine ⟨fun machine state => ?_, fun machine state => ?_⟩
    · rw [Job.erase_refuses _ nonzero]
      rfl
    · exact erase_refuses machine state programmer nonzero
  · obtain ⟨rfl, rfl⟩ := erases_chip_only machine state programmer executes
    exact ⟨asks.not_gives_length, asks.atAddress⟩

/-- Erasing from 0x1000 on, without a length, sends no chip command. -/
theorem address_without_length_is_refused :
    let arguments := ["erase", "-p", "stlinkv3", "-a", "0x1000"]
    let ran := (ofArguments arguments).2.run (Usb.Simulated.machine.both Directory.machine)
      (bench, {})
    Invocation.ofArguments arguments = .ok ⟨0, .erase "stlinkv3" 0x1000 none⟩ ∧
      Gives arguments .address "0x1000" ∧ (∀ text, ¬ Gives arguments .length text) ∧
      ran.value = 1 ∧ ∀ opcode, ¬ Executes opcode ran.events := by
  intro arguments ran
  have understood : Invocation.ofArguments arguments = .ok ⟨0, .erase "stlinkv3" 0x1000 none⟩ := by
    decide
  have gives : Gives arguments .address "0x1000" :=
    ⟨["erase", "-p", "stlinkv3"], "-a", ["0x1000"], rfl, .inr ⟨.lettered 0 [], [], rfl⟩⟩
  have none := (CommandLine.asksToErase_of_ofArguments understood).not_gives_length
  have refused := (nonzero_address_needs_length understood).1 "0x1000" gives (by decide) none
  exact ⟨understood, gives, none, by decide +kernel, (refused.2 _ _).2⟩

/-- An address that is given as zero is not told from one that is not given, and the whole chip is
erased. -/
theorem zero_address_erases_chip :
    let arguments := ["erase", "-p", "stlinkv3", "--address", "0"]
    let ran := (ofArguments arguments).2.run (Usb.Simulated.machine.both Directory.machine)
      (bench, {})
    Invocation.ofArguments arguments = .ok ⟨0, .erase "stlinkv3" 0 none⟩ ∧
      Gives arguments .address "0" ∧ (∀ text, ¬ Gives arguments .length text) ∧
      ran.value = 0 ∧ Executes 0xC7 ran.events := by
  intro arguments ran
  have understood : Invocation.ofArguments arguments = .ok ⟨0, .erase "stlinkv3" 0 none⟩ := by
    decide
  have gives : Gives arguments .address "0" :=
    ⟨["erase", "-p", "stlinkv3"], "--address", ["0"], rfl, .inr ⟨.named none, [], rfl⟩⟩
  have none := (CommandLine.asksToErase_of_ofArguments understood).not_gives_length
  refine ⟨understood, gives, none, by decide +kernel, ?_⟩
  have sent : (ran.events.any fun event => decide (event.request =
      .inl (.transferOut (Bridge.Command.write 1 [0xC7]).frame Usb.transferTime))) = true := by
    decide +kernel
  obtain ⟨⟨request, reply⟩, happened, same⟩ := List.any_eq_true.mp sent
  obtain rfl := of_decide_eq_true same
  exact ⟨_, _, reply, happened, 1, [], rfl⟩

end Program

end SpiProgrammer
