import SpiProgrammer.Proofs.Dialogue.Course
import SpiProgrammer.Usb.Probe

/-! # Opening a probe, step by step

A probe is chosen by what the list says of the devices alone, and an interface by what the settings
of the device say.  What is asked of the bus from there on is a fixed sequence that ends where a
step is refused: `Opening` says which sequences there are and what each of them comes to.

Main statements: a sequence that the bus answers is the one that is run (`Opening.course`), and on
every bus there is one (`openProbe_opening`). -/
set_option autoImplicit false

namespace SpiProgrammer.Usb

/-! ## The choice -/

def DeviceInfo.IsProbe (device : DeviceInfo) : Prop :=
  device.vendor = 0x0483 ∧ device.product = 0x374F

instance (device : DeviceInfo) : Decidable device.IsProbe :=
  inferInstanceAs (Decidable (_ ∧ _))

/-- A probe, with the serial number if one is asked for. -/
def DeviceInfo.Wanted (serial : Option String) (device : DeviceInfo) : Prop :=
  device.IsProbe ∧ ∀ wanted, serial = some wanted → device.serial = some wanted

/-- The first device of the list that is wanted, with its place. -/
structure Chosen (devices : List DeviceInfo) (serial : Option String) (device : DeviceInfo)
    (index : Nat) : Prop where
  listed : devices[index]? = some device
  wanted : device.Wanted serial
  first : ∀ place < index, ∀ other, devices[place]? = some other → ¬ other.Wanted serial

theorem Chosen.split {devices : List DeviceInfo} {serial : Option String} {device : DeviceInfo}
    {index : Nat} (chosen : Chosen devices serial device index) :
    ∃ first last, devices = first ++ device :: last ∧ first.length = index ∧
      ∀ other ∈ first, ¬ other.Wanted serial := by
  obtain ⟨within, rfl⟩ := List.getElem?_eq_some_iff.mp chosen.listed
  refine ⟨devices.take index, devices.drop (index + 1), ?_, ?_, fun other member => ?_⟩
  · rw [List.getElem_cons_drop, List.take_append_drop]
  · exact List.length_take_of_le (Nat.le_of_lt within)
  · obtain ⟨place, less, rfl⟩ := List.mem_take_iff_getElem.mp member
    exact chosen.first place (by omega) _ (List.getElem?_eq_getElem _)

theorem Chosen.of_split {devices first last : List DeviceInfo} {serial : Option String}
    {device : DeviceInfo} (split : devices = first ++ device :: last)
    (wanted : device.Wanted serial) (unwanted : ∀ other ∈ first, ¬ other.Wanted serial) :
    Chosen devices serial device first.length where
  listed := by simp [split]
  wanted := wanted
  first place less other listed := by
    rw [split, List.getElem?_append_left less] at listed
    exact unwanted other (List.mem_of_getElem? listed)

/-- The device has the serial number, if one is asked for. -/
def DeviceInfo.answersTo (serial : Option String) (device : DeviceInfo) : Bool :=
  serial.all fun wanted => device.serial == some wanted

theorem DeviceInfo.answersTo_iff {serial : Option String} {device : DeviceInfo} :
    device.answersTo serial = true ↔
      ∀ wanted, serial = some wanted → device.serial = some wanted := by
  cases serial <;> simp [answersTo]

theorem isProbe_iff (device : DeviceInfo) :
    (device.vendor == vendorId && device.product == productId) = true ↔ device.IsProbe := by
  simp [DeviceInfo.IsProbe, vendorId, productId]

theorem choose_eq (devices : List DeviceInfo) (serial : Option String) :
    choose devices serial =
      match (probes devices).find? fun entry => entry.1.answersTo serial with
      | some entry => .ok entry
      | none =>
        match serial, probes devices with
        | some wanted, _ :: _ => .error (.serialNotFound wanted)
        | _, _ => .error .deviceNotFound := by
  unfold choose
  cases probes devices with
  | nil => cases serial <;> rfl
  | cons first rest =>
    cases serial with
    | none => rfl
    | some wanted => 
      show _ = match (first :: rest).find? (fun entry => entry.1.serial == some wanted) with
        | some entry => _ | none => _
      rfl

theorem find?_probes {devices : List DeviceInfo} {serial : Option String} {device : DeviceInfo}
    {index : Nat} :
    (probes devices).find? (fun entry => entry.1.answersTo serial) = some (device, index) ↔
      Chosen devices serial device index := by
  have fits (entry : DeviceInfo × Nat) :
      decide ((entry.1.vendor == vendorId && entry.1.product == productId) = true ∧
        entry.1.answersTo serial = true) = true ↔ entry.1.Wanted serial := by
    rw [decide_eq_true_iff, isProbe_iff, DeviceInfo.answersTo_iff]
    rfl
  unfold probes
  rw [List.find?_filter, List.find?_eq_some_iff_getElem, fits]
  constructor
  · rintro ⟨wanted, place, bound, same, before⟩
    rw [List.getElem_zipIdx, Nat.zero_add] at same
    cases same
    refine ⟨List.getElem?_eq_getElem _, wanted, fun earlier less other listed => ?_⟩
    obtain ⟨within, rfl⟩ := List.getElem?_eq_some_iff.mp listed
    have passed := before earlier less
    rw [Bool.not_eq_true', ← Bool.not_eq_true, fits, List.getElem_zipIdx] at passed
    exact passed
  · rintro ⟨listed, wanted, first⟩
    obtain ⟨within, rfl⟩ := List.getElem?_eq_some_iff.mp listed
    refine ⟨wanted, index, by rwa [List.length_zipIdx], by rw [List.getElem_zipIdx, Nat.zero_add],
      fun earlier less => ?_⟩
    rw [Bool.not_eq_true', ← Bool.not_eq_true, fits, List.getElem_zipIdx]
    exact first earlier less _ (List.getElem?_eq_getElem _)

theorem mem_probes_of {devices : List DeviceInfo} {device : DeviceInfo} :
    (∃ index, (device, index) ∈ probes devices) ↔ device ∈ devices ∧ device.IsProbe := by
  unfold probes
  simp only [List.mem_filter, isProbe_iff, exists_and_right, and_congr_left_iff]
  intro isProbe
  rw [List.mem_iff_getElem?]
  simp only [List.mem_zipIdx_iff_getElem?]

theorem probes_eq_nil {devices : List DeviceInfo} :
    probes devices = [] ↔ ∀ device ∈ devices, ¬ device.IsProbe := by
  constructor
  · intro none device listed isProbe
    obtain ⟨index, member⟩ := mem_probes_of.mpr ⟨listed, isProbe⟩
    rw [none] at member
    exact List.not_mem_nil member
  · intro none
    refine List.eq_nil_iff_forall_not_mem.mpr fun (device, index) member => ?_
    obtain ⟨listed, isProbe⟩ := mem_probes_of.mp ⟨index, member⟩
    exact none device listed isProbe

theorem choose_eq_ok {devices : List DeviceInfo} {serial : Option String} {device : DeviceInfo}
    {index : Nat} :
    choose devices serial = .ok (device, index) ↔ Chosen devices serial device index := by
  rw [choose_eq, ← find?_probes]
  cases (probes devices).find? fun entry => entry.1.answersTo serial with
  | some entry => simp
  | none => cases serial <;> cases probes devices <;> simp

theorem choose_of_noProbe {devices : List DeviceInfo} (serial : Option String)
    (none : ∀ device ∈ devices, ¬ device.IsProbe) :
    choose devices serial = .error .deviceNotFound := by
  rw [choose, probes_eq_nil.mpr none]

theorem choose_of_noSerial {devices : List DeviceInfo} {wanted : String}
    (some : ∃ device ∈ devices, device.IsProbe)
    (others : ∀ device ∈ devices, device.IsProbe → device.serial ≠ .some wanted) :
    choose devices (.some wanted) = .error (.serialNotFound wanted) := by
  have unfound :
      (probes devices).find? (fun entry => entry.1.answersTo (.some wanted)) = none := by
    refine List.find?_eq_none.mpr fun (device, index) member fits => ?_
    obtain ⟨listed, isProbe⟩ := mem_probes_of.mp ⟨index, member⟩
    exact others device listed isProbe (DeviceInfo.answersTo_iff.mp fits wanted rfl)
  have found : probes devices ≠ [] := fun empty =>
    have ⟨device, listed, isProbe⟩ := some
    probes_eq_nil.mp empty device listed isProbe
  obtain ⟨first, rest, split⟩ := List.exists_cons_of_ne_nil found
  rw [choose_eq, unfound, split]

theorem choice_cases (devices : List DeviceInfo) (serial : Option String) :
    (∀ device ∈ devices, ¬ device.IsProbe) ∨
    (∃ wanted, serial = some wanted ∧ (∃ device ∈ devices, device.IsProbe) ∧
      ∀ device ∈ devices, device.IsProbe → device.serial ≠ some wanted) ∨
    ∃ device index, Chosen devices serial device index := by
  by_cases isProbe : ∃ device ∈ devices, device.IsProbe
  case neg => exact .inl fun device listed probe => isProbe ⟨device, listed, probe⟩
  refine .inr ?_
  cases found : (probes devices).find? fun entry => entry.1.answersTo serial with
  | some entry => exact .inr ⟨entry.1, entry.2, find?_probes.mp found⟩
  | none =>
    have others (device : DeviceInfo) (listed : device ∈ devices) (isProbe : device.IsProbe) :
        ¬ device.answersTo serial = true := by
      obtain ⟨index, member⟩ := mem_probes_of.mpr ⟨listed, isProbe⟩
      exact List.find?_eq_none.mp found _ member
    cases serial with
    | none =>
      obtain ⟨device, listed, isProbe⟩ := isProbe
      exact absurd rfl (others device listed isProbe)
    | some wanted =>
      refine .inl ⟨wanted, rfl, isProbe, fun device listed isProbe same => ?_⟩
      refine others device listed isProbe (DeviceInfo.answersTo_iff.mpr fun asked given => ?_)
      cases given
      exact same

/-! ## The interface -/

/-- The number is that of the first setting that has the endpoint for answers. -/
def Owns (settings : List AlternateSetting) (number : Nat) : Prop :=
  ∃ before setting after, settings = before ++ setting :: after ∧
    (∀ other ∈ before, 0x86 ∉ other.endpoints) ∧ 0x86 ∈ setting.endpoints ∧ setting.number = number

theorem interfaceWith?_eq_some {settings : List AlternateSetting} {number : Nat} :
    interfaceWith? settings endpointIn = some number ↔ Owns settings number := by
  unfold interfaceWith? Owns
  simp only [Option.map_eq_some_iff, List.find?_eq_some_iff_append]
  constructor
  · rintro ⟨setting, ⟨has, before, after, rfl, others⟩, numbered⟩
    refine ⟨before, setting, after, rfl, fun other member => ?_, ?_, numbered⟩
    · simpa [endpointIn] using others other member
    · simpa [endpointIn] using has
  · rintro ⟨before, setting, after, rfl, others, has, numbered⟩
    refine ⟨setting, ⟨?_, before, after, rfl, fun other member => ?_⟩, numbered⟩
    · simpa [endpointIn] using has
    · simpa [endpointIn] using others other member

theorem interfaceWith?_eq_none {settings : List AlternateSetting} :
    interfaceWith? settings endpointIn = none ↔ ∀ setting ∈ settings, 0x86 ∉ setting.endpoints := by
  simp [interfaceWith?, endpointIn]

/-! ## The steps -/

def claimBridge (number : Nat) : BusAction Nat := do
  demand .claimFailed (Dialogue.request (I := Bus) (.claim number))
  let _ ← demand .claimFailed (Dialogue.request (I := Bus) (.endpoint endpointOut))
  demand .claimFailed (Dialogue.request (I := Bus) (.endpoint endpointIn))

def enter (index : Nat) : BusAction Nat := do
  demand .openFailed (Dialogue.request (I := Bus) (.openDevice index))
  let settings ← demand (fun reason => .openFailed ("Failed to get config: " ++ reason))
    (Dialogue.request (I := Bus) .configuration)
  let some number := interfaceWith? settings endpointIn | throw (.endpointNotFound endpointIn)
  note .debug ("Using interface " ++ toString number)
  claimBridge number

/-- The bridge's interface is claimed and its two endpoints are taken. -/
inductive Claiming (number : Nat) : List Bus.Event → Except Bridge.Error Nat → Prop
  | unclaimed (reason : String) :
    Claiming number [⟨.claim number, .error reason⟩] (.error (.claimFailed reason))
  | noneOut (reason : String) :
    Claiming number [⟨.claim number, .ok ()⟩, ⟨.endpoint 0x06, .error reason⟩]
      (.error (.claimFailed reason))
  | noneIn (packetOut : Nat) (reason : String) :
    Claiming number [⟨.claim number, .ok ()⟩, ⟨.endpoint 0x06, .ok packetOut⟩,
      ⟨.endpoint 0x86, .error reason⟩] (.error (.claimFailed reason))
  | claimed (packetOut packet : Nat) :
    Claiming number [⟨.claim number, .ok ()⟩, ⟨.endpoint 0x06, .ok packetOut⟩,
      ⟨.endpoint 0x86, .ok packet⟩] (.ok packet)

/-- A device is opened, and the interface of its bridge looked for. -/
inductive Entering (index : Nat) : List Bus.Event → Except Bridge.Error Nat → Prop
  | unopened (reason : String) :
    Entering index [⟨.openDevice index, .error reason⟩] (.error (.openFailed reason))
  | unconfigured (reason : String) :
    Entering index [⟨.openDevice index, .ok ()⟩, ⟨.configuration, .error reason⟩]
      (.error (.openFailed ("Failed to get config: " ++ reason)))
  | unowned {settings : List AlternateSetting}
    (none : ∀ setting ∈ settings, 0x86 ∉ setting.endpoints) :
    Entering index [⟨.openDevice index, .ok ()⟩, ⟨.configuration, .ok settings⟩]
      (.error (.endpointNotFound 0x86))
  | owned {settings : List AlternateSetting} {number : Nat} {events : List Bus.Event}
    {value : Except Bridge.Error Nat} (owns : Owns settings number)
    (claims : Claiming number events value) :
    Entering index (⟨.openDevice index, .ok ()⟩ :: ⟨.configuration, .ok settings⟩ :: events) value

/-- A device is chosen from the list and opened. -/
inductive Opening (serial : Option String) : List Bus.Event → Except Bridge.Error Nat → Prop
  | unlisted (reason : String) :
    Opening serial [⟨.list, .error reason⟩] (.error (.openFailed reason))
  | noProbe {devices : List DeviceInfo} (none : ∀ device ∈ devices, ¬ device.IsProbe) :
    Opening serial [⟨.list, .ok devices⟩] (.error .deviceNotFound)
  | noSerial {devices : List DeviceInfo} {wanted : String} (asked : serial = some wanted)
    (some : ∃ device ∈ devices, device.IsProbe)
    (others : ∀ device ∈ devices, device.IsProbe → device.serial ≠ .some wanted) :
    Opening serial [⟨.list, .ok devices⟩] (.error (.serialNotFound wanted))
  | chosen {devices : List DeviceInfo} {device : DeviceInfo} {index : Nat}
    {events : List Bus.Event} {value : Except Bridge.Error Nat}
    (chosen : Chosen devices serial device index) (enters : Entering index events value) :
    Opening serial (⟨.list, .ok devices⟩ :: events) value

theorem openProbe_eq (serial : Option String) :
    openProbe serial = (do
      let devices ← demand .openFailed (Dialogue.request (I := Bus) .list)
      let (device, index) ← choose devices serial
      note .info ("Opening STLINK-V3 at " ++ device.place)
      enter index : BusAction Nat) := rfl

/-! ## The steps are taken -/

section Courses

variable {σ α β : Type} {machine : Machine σ Bus} {state next last : σ}
  {refusal : String → Bridge.Error} {asked : Dialogue Bus (Except String α)}
  {events later : List Bus.Event}

theorem course_demand : (demand refusal asked).run.course machine state =
    let answered := asked.course machine state
    ⟨answered.value.mapError refusal, answered.state, answered.events⟩ := by
  show (asked >>= fun answer => pure (answer.mapError refusal)).course machine state = _
  rw [Dialogue.course_bind]
  simp only [Dialogue.course_pure, List.append_nil]

theorem course_demand_ok {value : α}
    (answered : asked.course machine state = ⟨.ok value, next, events⟩) :
    (demand refusal asked).run.course machine state = ⟨.ok value, next, events⟩ := by
  rw [course_demand, answered]
  rfl

theorem course_demand_error {reason : String}
    (answered : asked.course machine state = ⟨.error reason, next, events⟩) :
    (demand refusal asked).run.course machine state = ⟨.error (refusal reason), next, events⟩ := by
  rw [course_demand, answered]
  rfl

theorem course_demand_bind {value : α} {f : α → BusAction β} {result : Except Bridge.Error β}
    (answered : asked.course machine state = ⟨.ok value, next, events⟩)
    (follows : (f value).run.course machine next = ⟨result, last, later⟩) :
    (demand refusal asked >>= f).run.course machine state = ⟨result, last, events ++ later⟩ := by
  rw [Dialogue.course_bind_ok _ _ _ (course_demand_ok answered), follows]

theorem course_demand_stop {reason : String} (f : α → BusAction β)
    (answered : asked.course machine state = ⟨.error reason, next, events⟩) :
    (demand refusal asked >>= f).run.course machine state =
      ⟨.error (refusal reason), next, events⟩ :=
  Dialogue.course_bind_error _ _ _ (course_demand_error answered)

theorem course_noted (level : Log.Level) (text : String) (x : BusAction β) :
    ((liftM (note level text) : BusAction Unit) >>= fun _ => x).run.course machine state =
      x.run.course machine state := by
  rw [Dialogue.course_bind_ok _ _ _ (Dialogue.course_lift _ _ _)]
  rfl

end Courses

section Taken

variable {σ : Type} {machine : Machine σ Bus} {state last : σ} {events : List Bus.Event}
  {value : Except Bridge.Error Nat}

theorem Claiming.course {number : Nat} (claiming : Claiming number events value)
    (answers : machine.Answers state events last) :
    (claimBridge number).run.course machine state = ⟨value, last, events⟩ := by
  unfold claimBridge
  cases claiming with
  | unclaimed reason =>
    obtain ⟨_, claimed, rfl⟩ := answers
    exact course_demand_stop _ (Dialogue.course_request_of claimed)
  | noneOut reason =>
    obtain ⟨_, claimed, _, out, rfl⟩ := answers
    exact course_demand_bind (Dialogue.course_request_of claimed)
      (course_demand_stop _ (Dialogue.course_request_of out))
  | noneIn packetOut reason =>
    obtain ⟨_, claimed, _, out, _, into, rfl⟩ := answers
    exact course_demand_bind (Dialogue.course_request_of claimed)
      (course_demand_bind (Dialogue.course_request_of out)
        (course_demand_error (Dialogue.course_request_of into)))
  | claimed packetOut packet =>
    obtain ⟨_, claimed, _, out, _, into, rfl⟩ := answers
    exact course_demand_bind (Dialogue.course_request_of claimed)
      (course_demand_bind (Dialogue.course_request_of out)
        (course_demand_ok (Dialogue.course_request_of into)))

theorem Entering.course {index : Nat} (entering : Entering index events value)
    (answers : machine.Answers state events last) :
    (enter index).run.course machine state = ⟨value, last, events⟩ := by
  unfold enter
  cases entering with
  | unopened reason =>
    obtain ⟨_, opened, rfl⟩ := answers
    exact course_demand_stop _ (Dialogue.course_request_of opened)
  | unconfigured reason =>
    obtain ⟨_, opened, _, configured, rfl⟩ := answers
    exact course_demand_bind (Dialogue.course_request_of opened)
      (course_demand_stop _ (Dialogue.course_request_of configured))
  | unowned none =>
    obtain ⟨_, opened, _, configured, rfl⟩ := answers
    refine course_demand_bind (Dialogue.course_request_of opened)
      (course_demand_bind (Dialogue.course_request_of configured) ?_)
    rw [interfaceWith?_eq_none.mpr none]
    rfl
  | owned owns claims =>
    obtain ⟨_, opened, _, configured, answers⟩ := answers
    refine course_demand_bind (Dialogue.course_request_of opened)
      (course_demand_bind (Dialogue.course_request_of configured) ?_)
    rw [interfaceWith?_eq_some.mpr owns]
    exact (course_noted _ _ (claimBridge _)).trans (claims.course answers)

theorem Opening.course {serial : Option String} (opening : Opening serial events value)
    (answers : machine.Answers state events last) :
    (openProbe serial).run.course machine state = ⟨value, last, events⟩ := by
  rw [openProbe_eq]
  cases opening with
  | unlisted reason =>
    obtain ⟨_, listed, rfl⟩ := answers
    exact course_demand_stop _ (Dialogue.course_request_of listed)
  | noProbe none =>
    obtain ⟨_, listed, rfl⟩ := answers
    refine course_demand_bind (Dialogue.course_request_of listed) ?_
    rw [choose_of_noProbe serial none]
    rfl
  | noSerial asked some others =>
    obtain ⟨_, listed, rfl⟩ := answers
    refine course_demand_bind (Dialogue.course_request_of listed) ?_
    rw [asked, choose_of_noSerial some others]
    rfl
  | chosen chosen enters =>
    obtain ⟨_, listed, answers⟩ := answers
    refine course_demand_bind (Dialogue.course_request_of listed) ?_
    rw [choose_eq_ok.mpr chosen]
    exact (course_noted _ _ (enter _)).trans (enters.course answers)

end Taken

/-! ## Every run takes them -/

section Runs

variable {σ : Type} (machine : Machine σ Bus) (state : σ)

theorem exists_claiming (number : Nat) :
    ∃ events value last, Claiming number events value ∧ machine.Answers state events last := by
  -- the first request that is refused ends the sequence, here and below
  rcases claimed : machine (.claim number) state with ⟨_ | _, s⟩
  · exact ⟨_, _, _, .unclaimed _, _, claimed, rfl⟩
  rcases out : machine (.endpoint 0x06) s with ⟨_ | _, t⟩
  · exact ⟨_, _, _, .noneOut _, _, claimed, _, out, rfl⟩
  rcases into : machine (.endpoint 0x86) t with ⟨_ | _, u⟩
  · exact ⟨_, _, _, .noneIn _ _, _, claimed, _, out, _, into, rfl⟩
  · exact ⟨_, _, _, .claimed _ _, _, claimed, _, out, _, into, rfl⟩

theorem exists_entering (index : Nat) :
    ∃ events value last, Entering index events value ∧ machine.Answers state events last := by
  rcases opened : machine (.openDevice index) state with ⟨_ | _, s⟩
  · exact ⟨_, _, _, .unopened _, _, opened, rfl⟩
  rcases configured : machine .configuration s with ⟨_ | settings, t⟩
  · exact ⟨_, _, _, .unconfigured _, _, opened, _, configured, rfl⟩
  cases owner : interfaceWith? settings endpointIn with
  | none =>
    exact ⟨_, _, _, .unowned (interfaceWith?_eq_none.mp owner), _, opened, _, configured, rfl⟩
  | some number =>
    obtain ⟨events, value, last, claims, answers⟩ := exists_claiming machine t number
    exact ⟨_, value, last, .owned (interfaceWith?_eq_some.mp owner) claims, _, opened, _,
      configured, answers⟩

theorem exists_opening (serial : Option String) :
    ∃ events value last, Opening serial events value ∧ machine.Answers state events last := by
  rcases listed : machine .list state with ⟨_ | devices, s⟩
  · exact ⟨_, _, _, .unlisted _, _, listed, rfl⟩
  obtain none | ⟨wanted, asked, some, others⟩ | ⟨device, index, chosen⟩ :=
    choice_cases devices serial
  · exact ⟨_, _, _, .noProbe none, _, listed, rfl⟩
  · exact ⟨_, _, _, .noSerial asked some others, _, listed, rfl⟩
  · obtain ⟨events, value, last, enters, answers⟩ := exists_entering machine s index
    exact ⟨_, value, last, .chosen chosen enters, _, listed, answers⟩

variable (serial : Option String)

theorem openProbe_opening :
    let ran := (openProbe serial).run.run machine state
    Opening serial ran.events ran.value ∧ machine.Answers state ran.events ran.state := by
  obtain ⟨events, value, last, opening, answers⟩ := exists_opening machine state serial
  obtain ⟨atValue, atEvents, atState⟩ := Dialogue.run_of_course (opening.course answers)
  refine ⟨?_, ?_⟩
  · rwa [atValue, atEvents]
  · rwa [atEvents, atState]

theorem openProbe_value_iff {value : Except Bridge.Error Nat} :
    ((openProbe serial).run.run machine state).value = value ↔
      ∃ events last, Opening serial events value ∧ machine.Answers state events last := by
  constructor
  · rintro rfl
    obtain ⟨opening, answers⟩ := openProbe_opening machine state serial
    exact ⟨_, _, opening, answers⟩
  · rintro ⟨events, last, opening, answers⟩
    exact (Dialogue.run_of_course (opening.course answers)).1

end Runs

end SpiProgrammer.Usb
