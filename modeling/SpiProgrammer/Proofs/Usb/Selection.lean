import SpiProgrammer.Proofs.Usb.Opening
import SpiProgrammer.Usb.Simulated

/-! # Which probe is opened

The first probe of the list is opened, or the first that has the serial number, and the first of
its interfaces that has the endpoint for answers is claimed; nothing else is opened or claimed.
What is reported says how far a run has got: `Chooses`, `Configures` and `Finds` are the places
where it can end, and each report is given exactly when the run ends at its place.

A bus is compared with another by what it does with probes (`Alike`).  Devices that are no probes
shift the places of the list, so the probe that is opened is at another place there, but it is the
same one (`SamePlace`).

Main statements: `openProbe_selects` for every bus, and for simulated buses
`Simulated.openProbe_eq_of_sameProbes`. -/
set_option autoImplicit false

namespace SpiProgrammer.Usb

/-! ## What is opened and claimed -/

/-- The places of the devices that were to be opened. -/
def openedIn (events : List Bus.Event) : List Nat :=
  events.filterMap fun event =>
    match event.request with
    | .openDevice index => some index
    | _ => none

/-- The interfaces that were to be claimed. -/
def claimedIn (events : List Bus.Event) : List Nat :=
  events.filterMap fun event =>
    match event.request with
    | .claim number => some number
    | _ => none

section Kept

variable {events : List Bus.Event} {value : Except Bridge.Error Nat}

theorem Claiming.kept {number : Nat} (claiming : Claiming number events value) :
    openedIn events = [] ∧ claimedIn events = [number] := by
  cases claiming <;> exact ⟨rfl, rfl⟩

theorem Entering.kept {index : Nat} (entering : Entering index events value) :
    openedIn events = [index] ∧
      (claimedIn events = [] ∨ ∃ settings number, ⟨.configuration, .ok settings⟩ ∈ events ∧
        Owns settings number ∧ claimedIn events = [number]) := by
  cases entering with
  | unopened reason => exact ⟨rfl, .inl rfl⟩
  | unconfigured reason => exact ⟨rfl, .inl rfl⟩
  | unowned none => exact ⟨rfl, .inl rfl⟩
  | @owned settings number events _ owns claims =>
    obtain ⟨opens, claims⟩ := claims.kept
    refine ⟨?_, .inr ⟨settings, number, .tail _ (.head _), owns, claims⟩⟩
    show index :: openedIn events = [index]
    rw [opens]

theorem Opening.kept {serial : Option String} (opening : Opening serial events value) :
    (openedIn events = [] ∧ claimedIn events = []) ∨
    ∃ devices device index, events.head? = some ⟨.list, .ok devices⟩ ∧
      Chosen devices serial device index ∧ openedIn events = [index] ∧
      (claimedIn events = [] ∨ ∃ settings number, ⟨.configuration, .ok settings⟩ ∈ events ∧
        Owns settings number ∧ claimedIn events = [number]) := by
  cases opening with
  | unlisted reason => exact .inl ⟨rfl, rfl⟩
  | noProbe none => exact .inl ⟨rfl, rfl⟩
  | noSerial asked some others => exact .inl ⟨rfl, rfl⟩
  | @chosen devices device index events _ chosen enters =>
    obtain ⟨opens, claims⟩ := enters.kept
    refine .inr ⟨devices, device, index, rfl, chosen, opens, claims.imp id ?_⟩
    rintro ⟨settings, number, configured, owns, claims⟩
    exact ⟨settings, number, .tail _ configured, owns, claims⟩

end Kept

/-! ## Buses that differ in other devices only -/

/-- Two lists have the same probes in the same order, whatever else they have. -/
def SameProbes (devices others : List DeviceInfo) : Prop :=
  devices.filter (fun device => device.IsProbe) = others.filter fun device => device.IsProbe

/-- Two places have the same probe, and as many probes are before it in the one list as in the
other. -/
structure SamePlace (devices others : List DeviceInfo) (here there : Nat) : Prop where
  same : ∃ device, device.IsProbe ∧ devices[here]? = some device ∧ others[there]? = some device
  before : (devices.take here).countP (fun device => device.IsProbe) =
    (others.take there).countP fun device => device.IsProbe

theorem SameProbes.mem {devices others : List DeviceInfo} (same : SameProbes devices others)
    {device : DeviceInfo} (isProbe : device.IsProbe) : device ∈ devices ↔ device ∈ others := by
  have iff (list : List DeviceInfo) :
      device ∈ list ↔ device ∈ list.filter fun device => device.IsProbe := by
    rw [List.mem_filter, and_iff_left (by simpa using isProbe)]
  rw [iff devices, same, ← iff others]

theorem SamePlace.of_split {devices others first last next final : List DeviceInfo}
    {device : DeviceInfo} (isProbe : device.IsProbe) (here : devices = first ++ device :: last)
    (there : others = next ++ device :: final)
    (before : first.filter (fun device => device.IsProbe) =
      next.filter fun device => device.IsProbe) :
    SamePlace devices others first.length next.length where
  same := ⟨device, isProbe, by simp [here], by simp [there]⟩
  before := by
    rw [here, there, List.take_left, List.take_left, List.countP_eq_length_filter, before,
      List.countP_eq_length_filter]

theorem Chosen.elsewhere {devices others : List DeviceInfo} {serial : Option String}
    {device : DeviceInfo} {index : Nat} (chosen : Chosen devices serial device index)
    (same : SameProbes devices others) :
    ∃ there, Chosen others serial device there ∧ SamePlace devices others index there := by
  obtain ⟨first, last, here, rfl, unwanted⟩ := chosen.split
  have isProbe : device.IsProbe := chosen.wanted.1
  have filtered : others.filter (fun device => device.IsProbe) =
      first.filter (fun device => device.IsProbe) ++
        device :: last.filter fun device => device.IsProbe := by
    rw [← same, here, List.filter_append, List.filter_cons_of_pos (by simpa using isProbe)]
  -- in the other list the same probes stand before the device, and perhaps other devices
  obtain ⟨front, rest, rfl, before, after⟩ := List.filter_eq_append_iff.mp filtered
  obtain ⟨between, final, rfl, noProbe, -, -⟩ := List.filter_eq_cons_iff.mp after
  refine ⟨(front ++ between).length, .of_split (List.append_assoc ..).symm chosen.wanted ?_,
    .of_split isProbe here (List.append_assoc ..).symm ?_⟩
  · intro other member wanted
    obtain inFront | inBetween := List.mem_append.mp member
    · have kept : other ∈ front.filter fun device => device.IsProbe :=
        List.mem_filter.mpr ⟨inFront, by simpa using wanted.1⟩
      rw [before] at kept
      exact unwanted other (List.mem_filter.mp kept).1 wanted
    · exact noProbe other inBetween (by simpa using wanted.1)
  · rw [List.filter_append, before, List.filter_eq_nil_iff.mpr noProbe, List.append_nil]

def BusRequest.OfOpened : BusRequest → Prop
  | .configuration | .claim _ | .endpoint _ => True
  | .list | .openDevice _ | .transferOut _ _ | .transferIn _ _ => False

/-- Two buses list the same probes, and each probe does the same on both of them, wherever it is
in the list.  Nothing is said about other devices. -/
structure Alike {σ τ : Type} (machine : Machine σ Bus) (other : Machine τ Bus)
    (Same : σ → τ → Prop) (here : σ) (there : τ) : Prop where
  listing :
    (∃ reason s t, machine .list here = (.error reason, s) ∧
      other .list there = (.error reason, t)) ∨
    ∃ devices others s t, machine .list here = (.ok devices, s) ∧
      other .list there = (.ok others, t) ∧ SameProbes devices others ∧
      ∀ place elsewhere, SamePlace devices others place elsewhere →
        (machine (.openDevice place) s).1 = (other (.openDevice elsewhere) t).1 ∧
        Same (machine (.openDevice place) s).2 (other (.openDevice elsewhere) t).2
  asking : ∀ s t, Same s t → ∀ r : BusRequest, r.OfOpened →
    (machine r s).1 = (other r t).1 ∧ Same (machine r s).2 (other r t).2

section Elsewhere

variable {σ τ : Type} {machine : Machine σ Bus} {other : Machine τ Bus} {Same : σ → τ → Prop}
  {here : σ} {there : τ} {events : List Bus.Event} {value : Except Bridge.Error Nat}

theorem Claiming.ofOpened {number : Nat} (claiming : Claiming number events value) :
    ∀ event ∈ events, event.request.OfOpened := by
  cases claiming <;> simp [BusRequest.OfOpened]

theorem Entering.moved {index : Nat} (entering : Entering index events value) (place : Nat) :
    ∃ reply rest, events = ⟨.openDevice index, reply⟩ :: rest ∧
      (∀ event ∈ rest, event.request.OfOpened) ∧
      Entering place (⟨.openDevice place, reply⟩ :: rest) value := by
  cases entering with
  | unopened reason => exact ⟨_, _, rfl, by simp, .unopened reason⟩
  | unconfigured reason =>
    exact ⟨_, _, rfl, by simp [BusRequest.OfOpened], .unconfigured reason⟩
  | unowned none => exact ⟨_, _, rfl, by simp [BusRequest.OfOpened], .unowned none⟩
  | owned owns claims =>
    refine ⟨_, _, rfl, ?_, .owned owns claims⟩
    exact List.forall_mem_cons.mpr ⟨trivial, claims.ofOpened⟩

theorem Alike.answers (alike : Alike machine other Same here there) {s last : σ} {t : τ}
    (same : Same s t) (further : ∀ event ∈ events, event.request.OfOpened)
    (answers : machine.Answers s events last) : ∃ final, other.Answers t events final := by
  induction events generalizing s t with
  | nil => exact ⟨t, rfl⟩
  | cons event rest ih =>
    obtain ⟨next, answered, answers⟩ := answers
    obtain ⟨reply, kept⟩ := alike.asking s t same _ (further event (.head _))
    rw [answered] at reply kept
    obtain ⟨final, others⟩ := ih kept (fun event member => further event (.tail _ member)) answers
    exact ⟨final, _, Prod.ext reply.symm rfl, others⟩

/-- A course on the one bus is one on the other, with the same device at its place there. -/
theorem Opening.elsewhere {serial : Option String} {last : σ}
    (opening : Opening serial events value) (answers : machine.Answers here events last)
    (alike : Alike machine other Same here there) :
    ∃ others final, Opening serial others value ∧ other.Answers there others final ∧
      ((openedIn events = [] ∧ openedIn others = []) ∨
        ∃ devices devices' place place', events.head? = some ⟨.list, .ok devices⟩ ∧
          others.head? = some ⟨.list, .ok devices'⟩ ∧ SamePlace devices devices' place place' ∧
          openedIn events = [place] ∧ openedIn others = [place']) ∧
      events.drop 2 = others.drop 2 := by
  obtain ⟨reason, s, t, refused, there⟩ | ⟨devices, devices', s, t, listed, there, same, opens⟩ :=
    alike.listing
  · cases opening with
    | unlisted reason' =>
      obtain ⟨_, refused', rfl⟩ := answers
      cases refused.symm.trans refused'
      exact ⟨_, t, .unlisted reason, ⟨_, there, rfl⟩, .inl ⟨rfl, rfl⟩, rfl⟩
    | noProbe _ | noSerial _ _ _ | chosen _ _ =>
      obtain ⟨_, listed, _⟩ := answers
      cases refused.symm.trans listed
  · cases opening with
    | unlisted reason =>
      obtain ⟨_, refused, _⟩ := answers
      cases listed.symm.trans refused
    | noProbe none =>
      obtain ⟨_, listed', rfl⟩ := answers
      cases listed.symm.trans listed'
      refine ⟨_, t, .noProbe fun device member isProbe => ?_, ⟨_, there, rfl⟩, .inl ⟨rfl, rfl⟩,
        rfl⟩
      exact none device ((same.mem isProbe).mpr member) isProbe
    | noSerial asked some others =>
      obtain ⟨_, listed', rfl⟩ := answers
      cases listed.symm.trans listed'
      obtain ⟨device, member, isProbe⟩ := some
      refine ⟨_, t, .noSerial asked ⟨device, (same.mem isProbe).mp member, isProbe⟩
        fun device member isProbe => ?_, ⟨_, there, rfl⟩, .inl ⟨rfl, rfl⟩, rfl⟩
      exact others device ((same.mem isProbe).mpr member) isProbe
    | chosen chosen enters =>
      obtain ⟨_, listed', answers⟩ := answers
      cases listed.symm.trans listed'
      -- the device is opened at another place, and from there on the same is asked
      obtain ⟨place', chosen', samePlace⟩ := chosen.elsewhere same
      obtain ⟨reply, rest, rfl, further, enters'⟩ := enters.moved place'
      obtain ⟨_, opened, answers⟩ := answers
      obtain ⟨alikeReply, kept⟩ := opens _ _ samePlace
      rw [opened] at alikeReply kept
      obtain ⟨final, answers'⟩ := alike.answers kept further answers
      refine ⟨_, final, .chosen chosen' enters',
        ⟨_, there, _, Prod.ext alikeReply.symm rfl, answers'⟩, .inr ?_, rfl⟩
      exact ⟨devices, devices', _, place', rfl, rfl, samePlace, enters.kept.1, enters'.kept.1⟩

end Elsewhere

/-! ## The outcome -/

section Outcome

variable {σ : Type} (machine : Machine σ Bus) (state : σ) (serial : Option String)

/-- The devices are listed, and the one at this place is chosen. -/
def Chooses (index : Nat) (next : σ) : Prop :=
  ∃ devices device, machine .list state = (.ok devices, next) ∧ Chosen devices serial device index

/-- The device that is chosen is opened, and tells its settings. -/
def Configures (settings : List AlternateSetting) (next : σ) : Prop :=
  ∃ index between, Chooses machine state serial index between ∧
    machine.Answers between
      [⟨.openDevice index, .ok ()⟩, ⟨.configuration, .ok settings⟩] next

/-- One of its settings has the endpoint for answers, and the first of those this number. -/
def Finds (number : Nat) (next : σ) : Prop :=
  ∃ settings, Configures machine state serial settings next ∧ Owns settings number

variable {machine state serial}

theorem Chooses.value {index : Nat} {between last : σ} {events : List Bus.Event}
    {value : Except Bridge.Error Nat} (chooses : Chooses machine state serial index between)
    (enters : Entering index events value) (answers : machine.Answers between events last) :
    ((openProbe serial).run.run machine state).value = value := by
  obtain ⟨devices, device, listed, chosen⟩ := chooses
  exact (openProbe_value_iff machine state serial).mpr
    ⟨_, last, .chosen chosen enters, between, listed, answers⟩

theorem Finds.value {number : Nat} {between last : σ} {events : List Bus.Event}
    {value : Except Bridge.Error Nat} (finds : Finds machine state serial number between)
    (claims : Claiming number events value) (answers : machine.Answers between events last) :
    ((openProbe serial).run.run machine state).value = value := by
  obtain ⟨settings, ⟨index, s, chooses, t, opened, _, configured, rfl⟩, owns⟩ := finds
  exact chooses.value (.owned owns claims) ⟨t, opened, _, configured, answers⟩

theorem Opening.chooses {devices : List DeviceInfo} {device : DeviceInfo} {index : Nat} {last : σ}
    {events : List Bus.Event} (chosen : Chosen devices serial device index)
    (answers : machine.Answers state (⟨.list, .ok devices⟩ :: events) last) :
    ∃ between, Chooses machine state serial index between ∧
      machine.Answers between events last := by
  obtain ⟨between, listed, answers⟩ := answers
  exact ⟨between, ⟨devices, device, listed, chosen⟩, answers⟩

theorem Entering.finds {settings : List AlternateSetting} {index number : Nat} {between last : σ}
    {events : List Bus.Event} (chooses : Chooses machine state serial index between)
    (owns : Owns settings number)
    (answers : machine.Answers between
      (⟨.openDevice index, .ok ()⟩ :: ⟨.configuration, .ok settings⟩ :: events) last) :
    ∃ next, Finds machine state serial number next ∧ machine.Answers next events last := by
  obtain ⟨s, opened, next, configured, answers⟩ := answers
  exact ⟨next, ⟨settings, ⟨index, between, chooses, s, opened, next, configured, rfl⟩, owns⟩,
    answers⟩

variable (machine state serial)

theorem openProbe_ok_iff (packet : Nat) :
    ((openProbe serial).run.run machine state).value = .ok packet ↔
      ∃ number between packetOut last, Finds machine state serial number between ∧
        machine.Answers between [⟨.claim number, .ok ()⟩, ⟨.endpoint 0x06, .ok packetOut⟩,
          ⟨.endpoint 0x86, .ok packet⟩] last := by
  constructor
  · intro came
    obtain ⟨_, last, opening, answers⟩ := (openProbe_value_iff machine state serial).mp came
    cases opening with | chosen chosen enters
    obtain ⟨s, chooses, answers⟩ := Opening.chooses chosen answers
    cases enters with | owned owns claims
    obtain ⟨between, finds, answers⟩ := Entering.finds chooses owns answers
    cases claims with | claimed packetOut
    exact ⟨_, between, packetOut, last, finds, answers⟩
  · rintro ⟨number, between, packetOut, last, finds, answers⟩
    exact finds.value (.claimed packetOut packet) answers

theorem openProbe_deviceNotFound_iff :
    ((openProbe serial).run.run machine state).value = .error .deviceNotFound ↔
      ∃ devices next, machine .list state = (.ok devices, next) ∧
        ∀ device ∈ devices, ¬ device.IsProbe := by
  rw [openProbe_value_iff]
  constructor
  · rintro ⟨_, last, opening, answers⟩
    cases opening with
    | noProbe none =>
      obtain ⟨next, listed, _⟩ := answers
      exact ⟨_, next, listed, none⟩
    | chosen chosen enters => 
      cases enters with | owned owns claims
      cases claims
  · rintro ⟨devices, next, listed, none⟩
    exact ⟨_, next, .noProbe none, next, listed, rfl⟩

theorem openProbe_serialNotFound_iff (wanted : String) :
    ((openProbe serial).run.run machine state).value = .error (.serialNotFound wanted) ↔
      serial = some wanted ∧ ∃ devices next, machine .list state = (.ok devices, next) ∧
        (∃ device ∈ devices, device.IsProbe) ∧
        ∀ device ∈ devices, device.IsProbe → device.serial ≠ some wanted := by
  rw [openProbe_value_iff]
  constructor
  · rintro ⟨_, last, opening, answers⟩
    cases opening with
    | noSerial asked some others =>
      obtain ⟨next, listed, _⟩ := answers
      exact ⟨asked, _, next, listed, some, others⟩
    | chosen chosen enters =>
      cases enters with | owned owns claims
      cases claims
  · rintro ⟨asked, devices, next, listed, some, others⟩
    exact ⟨_, next, .noSerial asked some others, next, listed, rfl⟩

theorem openProbe_openFailed_iff (reason : String) :
    ((openProbe serial).run.run machine state).value = .error (.openFailed reason) ↔
      (∃ next, machine .list state = (.error reason, next)) ∨
      ∃ index between last, Chooses machine state serial index between ∧
        (machine.Answers between [⟨.openDevice index, .error reason⟩] last ∨
          ∃ cause, reason = "Failed to get config: " ++ cause ∧
            machine.Answers between
              [⟨.openDevice index, .ok ()⟩, ⟨.configuration, .error cause⟩] last) := by
  constructor
  · intro came
    obtain ⟨_, last, opening, answers⟩ := (openProbe_value_iff machine state serial).mp came
    cases opening with
    | unlisted =>
      obtain ⟨next, refused, _⟩ := answers
      exact .inl ⟨next, refused⟩
    | chosen chosen enters =>
      obtain ⟨between, chooses, answers⟩ := Opening.chooses chosen answers
      cases enters with
      | unopened => exact .inr ⟨_, between, last, chooses, .inl answers⟩
      | unconfigured cause => exact .inr ⟨_, between, last, chooses, .inr ⟨cause, rfl, answers⟩⟩
      | owned owns claims => cases claims
  · rintro (⟨next, refused⟩ | ⟨index, between, last, chooses, answers | ⟨cause, rfl, answers⟩⟩)
    · exact (openProbe_value_iff machine state serial).mpr
        ⟨_, next, .unlisted reason, next, refused, rfl⟩
    · exact chooses.value (.unopened reason) answers
    · exact chooses.value (.unconfigured cause) answers

theorem openProbe_endpointNotFound_iff (address : UInt8) :
    ((openProbe serial).run.run machine state).value = .error (.endpointNotFound address) ↔
      address = 0x86 ∧ ∃ settings next, Configures machine state serial settings next ∧
        ∀ setting ∈ settings, 0x86 ∉ setting.endpoints := by
  constructor
  · intro came
    obtain ⟨_, last, opening, answers⟩ := (openProbe_value_iff machine state serial).mp came
    cases opening with | chosen chosen enters
    obtain ⟨between, chooses, answers⟩ := Opening.chooses chosen answers
    cases enters with
    | unowned none => exact ⟨rfl, _, last, ⟨_, between, chooses, answers⟩, none⟩
    | owned owns claims => cases claims
  · rintro ⟨rfl, settings, next, ⟨index, between, chooses, answers⟩, none⟩
    exact chooses.value (.unowned none) answers

theorem openProbe_claimFailed_iff (reason : String) :
    ((openProbe serial).run.run machine state).value = .error (.claimFailed reason) ↔
      ∃ number between last, Finds machine state serial number between ∧
        (machine.Answers between [⟨.claim number, .error reason⟩] last ∨
          machine.Answers between
            [⟨.claim number, .ok ()⟩, ⟨.endpoint 0x06, .error reason⟩] last ∨
          ∃ packetOut, machine.Answers between [⟨.claim number, .ok ()⟩,
            ⟨.endpoint 0x06, .ok packetOut⟩, ⟨.endpoint 0x86, .error reason⟩] last) := by
  constructor
  · intro came
    obtain ⟨_, last, opening, answers⟩ := (openProbe_value_iff machine state serial).mp came
    cases opening with | chosen chosen enters
    obtain ⟨s, chooses, answers⟩ := Opening.chooses chosen answers
    cases enters with | owned owns claims
    obtain ⟨between, finds, answers⟩ := Entering.finds chooses owns answers
    refine ⟨_, between, last, finds, ?_⟩
    cases claims with
    | unclaimed => exact .inl answers
    | noneOut => exact .inr (.inl answers)
    | noneIn packetOut => exact .inr (.inr ⟨packetOut, answers⟩)
  · rintro ⟨number, between, last, finds, answers | answers | ⟨packetOut, answers⟩⟩
    · exact finds.value (.unclaimed reason) answers
    · exact finds.value (.noneOut reason) answers
    · exact finds.value (.noneIn packetOut reason) answers

theorem openProbe_errors (error : Bridge.Error)
    (failed : ((openProbe serial).run.run machine state).value = .error error) :
    error = .deviceNotFound ∨ (∃ wanted, error = .serialNotFound wanted) ∨
    (∃ reason, error = .openFailed reason) ∨ (∃ address, error = .endpointNotFound address) ∨
    ∃ reason, error = .claimFailed reason := by
  obtain ⟨_, last, opening, -⟩ := (openProbe_value_iff machine state serial).mp failed
  cases opening with
  | unlisted reason => simp
  | noProbe => simp
  | noSerial => simp
  | chosen chosen enters =>
    cases enters with
    | unopened | unconfigured | unowned => simp
    | owned owns claims => cases claims <;> simp

/-- What an attempt to open a probe does on a bus and comes to there. -/
structure Selects (ran : Transcript Bus σ (Except Bridge.Error Nat)) : Prop where
  /-- No device is opened but the one that is chosen, and no interface of it claimed but the one
  that has the endpoint for answers. -/
  only :
    (openedIn ran.events = [] ∧ claimedIn ran.events = []) ∨
    ∃ devices device index, ran.events.head? = some ⟨.list, .ok devices⟩ ∧
      Chosen devices serial device index ∧ openedIn ran.events = [index] ∧
      (claimedIn ran.events = [] ∨
        ∃ settings number, ⟨.configuration, .ok settings⟩ ∈ ran.events ∧
          Owns settings number ∧ claimedIn ran.events = [number])
  ok_iff (packet : Nat) : ran.value = .ok packet ↔
    ∃ number between packetOut last, Finds machine state serial number between ∧
      machine.Answers between [⟨.claim number, .ok ()⟩, ⟨.endpoint 0x06, .ok packetOut⟩,
        ⟨.endpoint 0x86, .ok packet⟩] last
  deviceNotFound_iff : ran.value = .error .deviceNotFound ↔
    ∃ devices next, machine .list state = (.ok devices, next) ∧
      ∀ device ∈ devices, ¬ device.IsProbe
  serialNotFound_iff (wanted : String) : ran.value = .error (.serialNotFound wanted) ↔
    serial = some wanted ∧ ∃ devices next, machine .list state = (.ok devices, next) ∧
      (∃ device ∈ devices, device.IsProbe) ∧
      ∀ device ∈ devices, device.IsProbe → device.serial ≠ some wanted
  openFailed_iff (reason : String) : ran.value = .error (.openFailed reason) ↔
    (∃ next, machine .list state = (.error reason, next)) ∨
    ∃ index between last, Chooses machine state serial index between ∧
      (machine.Answers between [⟨.openDevice index, .error reason⟩] last ∨
        ∃ cause, reason = "Failed to get config: " ++ cause ∧
          machine.Answers between
            [⟨.openDevice index, .ok ()⟩, ⟨.configuration, .error cause⟩] last)
  endpointNotFound_iff (address : UInt8) : ran.value = .error (.endpointNotFound address) ↔
    address = 0x86 ∧ ∃ settings next, Configures machine state serial settings next ∧
      ∀ setting ∈ settings, 0x86 ∉ setting.endpoints
  claimFailed_iff (reason : String) : ran.value = .error (.claimFailed reason) ↔
    ∃ number between last, Finds machine state serial number between ∧
      (machine.Answers between [⟨.claim number, .error reason⟩] last ∨
        machine.Answers between
          [⟨.claim number, .ok ()⟩, ⟨.endpoint 0x06, .error reason⟩] last ∨
        ∃ packetOut, machine.Answers between [⟨.claim number, .ok ()⟩,
          ⟨.endpoint 0x06, .ok packetOut⟩, ⟨.endpoint 0x86, .error reason⟩] last)
  noOther (error : Bridge.Error) : ran.value = .error error →
    error = .deviceNotFound ∨ (∃ wanted, error = .serialNotFound wanted) ∨
    (∃ reason, error = .openFailed reason) ∨ (∃ address, error = .endpointNotFound address) ∨
    ∃ reason, error = .claimFailed reason
  /-- Other devices make no difference: where the same probes are listed, the same one is opened,
  the same is done with it and comes to the same. -/
  elsewhere {τ : Type} (other : Machine τ Bus) (Same : σ → τ → Prop) (there : τ)
    (alike : Alike machine other Same state there) :
    let moved := (openProbe serial).run.run other there
    moved.value = ran.value ∧
    ((openedIn ran.events = [] ∧ openedIn moved.events = []) ∨
      ∃ devices others place elsewhere, ran.events.head? = some ⟨.list, .ok devices⟩ ∧
        moved.events.head? = some ⟨.list, .ok others⟩ ∧
        SamePlace devices others place elsewhere ∧
        openedIn ran.events = [place] ∧ openedIn moved.events = [elsewhere]) ∧
    ran.events.drop 2 = moved.events.drop 2

/-- On every bus the first probe that is asked for is the one that is opened, and the first step
that fails decides what is reported. -/
theorem openProbe_selects :
    Selects machine state serial ((openProbe serial).run.run machine state) where
  only := (openProbe_opening machine state serial).1.kept
  ok_iff := openProbe_ok_iff machine state serial
  deviceNotFound_iff := openProbe_deviceNotFound_iff machine state serial
  serialNotFound_iff := openProbe_serialNotFound_iff machine state serial
  openFailed_iff := openProbe_openFailed_iff machine state serial
  endpointNotFound_iff := openProbe_endpointNotFound_iff machine state serial
  claimFailed_iff := openProbe_claimFailed_iff machine state serial
  noOther := openProbe_errors machine state serial
  elsewhere other Same there alike := by
    obtain ⟨opening, answers⟩ := openProbe_opening machine state serial
    obtain ⟨others, final, opening', answers', places, further⟩ := opening.elsewhere answers alike
    obtain ⟨value, events, -⟩ := Dialogue.run_of_course (opening'.course answers')
    simp only [value, events]
    exact ⟨trivial, places, further⟩

end Outcome

/-! ## Simulated buses -/

theorem getElem?_filter_of_getElem? {α : Type} {p : α → Bool} {list : List α} {place : Nat}
    {entry : α} (listed : list[place]? = some entry) (fits : p entry = true) :
    (list.filter p)[(list.take place).countP p]? = some entry := by
  obtain ⟨within, rfl⟩ := List.getElem?_eq_some_iff.mp listed
  have split : list = list.take place ++ list[place] :: list.drop (place + 1) := by
    rw [List.getElem_cons_drop, List.take_append_drop]
  have filtered : list.filter p =
      (list.take place).filter p ++ list[place] :: (list.drop (place + 1)).filter p :=
    (congrArg (List.filter p) split).trans
      (by rw [List.filter_append, List.filter_cons_of_pos fits])
  rw [filtered, List.countP_eq_length_filter, List.getElem?_append_right (Nat.le_refl _),
    Nat.sub_self, List.getElem?_cons_zero]

namespace Simulated

theorem devices_eq {here there : Simulated} {place elsewhere : Nat}
    (same : here.devices.filter (fun device => device.info.IsProbe) =
      there.devices.filter fun device => device.info.IsProbe)
    (samePlace : SamePlace (here.devices.map Device.info) (there.devices.map Device.info)
      place elsewhere) :
    ∃ device, here.devices[place]? = some device ∧ there.devices[elsewhere]? = some device := by
  obtain ⟨⟨info, isProbe, atHere, atThere⟩, before⟩ := samePlace
  rw [List.getElem?_map, Option.map_eq_some_iff] at atHere atThere
  obtain ⟨device, atHere, rfl⟩ := atHere
  obtain ⟨other, atThere, sameInfo⟩ := atThere
  rw [← List.map_take, ← List.map_take, List.countP_map, List.countP_map] at before
  have kept := getElem?_filter_of_getElem? (p := fun device => device.info.IsProbe) atHere
    (by simpa using isProbe)
  have kept' := getElem?_filter_of_getElem? (p := fun device => device.info.IsProbe) atThere
    (by simpa [sameInfo] using isProbe)
  change (here.devices.take place).countP (fun device => device.info.IsProbe) =
    (there.devices.take elsewhere).countP fun device => device.info.IsProbe at before
  rw [same, before, kept'] at kept
  cases kept
  exact ⟨device, atHere, atThere⟩

theorem alike {here there : Simulated} (refusal : here.listRefusal = there.listRefusal)
    (sameOpened : here.opened = there.opened)
    (same : here.devices.filter (fun device => device.info.IsProbe) =
      there.devices.filter fun device => device.info.IsProbe) :
    Alike machine machine (fun s t => s.opened = t.opened) here there where
  listing := by
    cases refused : here.listRefusal with
    | some reason =>
      refine .inl ⟨reason, here, there, ?_, ?_⟩
      · simp only [machine, refuseOr, refused]
      · simp only [machine, refuseOr, ← refusal, refused]
    | none =>
      refine .inr ⟨here.devices.map Device.info, there.devices.map Device.info, here, there,
        ?_, ?_, ?_, fun place elsewhere samePlace => ?_⟩
      · simp only [machine, refuseOr, refused]
      · simp only [machine, refuseOr, ← refusal, refused]
      · show List.filter _ (here.devices.map _) = List.filter _ (there.devices.map _)
        rw [List.filter_map, List.filter_map]
        exact congrArg _ same
      · obtain ⟨device, atHere, atThere⟩ := devices_eq same samePlace
        simp only [machine, atHere, atThere]
        cases device.openRefusal with
        | some reason => exact ⟨rfl, sameOpened⟩
        | none => exact ⟨rfl, rfl⟩
  asking s t sameOpened r ofOpened := by
    cases r with
    | configuration | claim _ | endpoint _ =>
      exact ⟨by simp only [machine, ask, sameOpened], sameOpened⟩
    | list | openDevice _ | transferOut _ _ | transferIn _ _ => exact ofOpened.elim

/-- What else is plugged in makes no difference to what opening a probe comes to. -/
theorem openProbe_eq_of_sameProbes {here there : Simulated}
    (refusal : here.listRefusal = there.listRefusal) (sameOpened : here.opened = there.opened)
    (same : here.devices.filter (fun device => device.info.IsProbe) =
      there.devices.filter fun device => device.info.IsProbe) (serial : Option String) :
    ((openProbe serial).run.run machine here).value =
      ((openProbe serial).run.run machine there).value := by
  obtain ⟨opening, answers⟩ := openProbe_opening machine here serial
  obtain ⟨_, _, opening', answers', -⟩ := opening.elsewhere answers (alike refusal sameOpened same)
  exact (Dialogue.run_of_course (opening'.course answers')).1.symm

/-- The probe that has the serial number is opened, past a probe that does not and a device that
has it but is no probe. -/
example :
    let probe (product : Nat) (serial : String) : Device :=
      { info := ⟨0x0483, product, some serial, "1", 2⟩ }
    let ran := (openProbe (some "B")).run.run machine
      { devices := [probe 0x374F "A", probe 0x3748 "B", probe 0x374F "B"] }
    ran.value.toOption = some 512 ∧ openedIn ran.events = [2] ∧ claimedIn ran.events = [3] := by
  intro probe ran
  decide

end Simulated

end SpiProgrammer.Usb
