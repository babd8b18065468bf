import SpiProgrammer.Proofs.Bridge.Steps

/-! # The chip-select line during a transaction

A transaction that is not too long drives the line low, takes the steps of its plan up to the
first that fails, and drives the line high.  Main statement: this is what happens on every link,
however it behaves, and the failure reported is that of the first step that failed. -/
set_option autoImplicit false

namespace SpiProgrammer.Bridge

def selectStep (level : SelectLevel) : Step :=
  questionStep (.setSelect level) acknowledgement.length

/-- What an answer about the status tells of, if it is not a success. -/
def statusFailure? (reply : Bytes) : Option Error :=
  let code := (TransferStatus.form.meaning reply).code
  if code = 0 then none else some (.status code)

def statusStep : Step where
  transfer := .frame .getStatus
  answer := some TransferStatus.form.length
  failure? := statusFailure?

def announceStep (data : Bytes) : Step where
  transfer := .frame (.write (.ofNat data.length) (data.take leadingMax))

def restStep (data : Bytes) : Step where
  transfer := .rest (data.drop leadingMax)

def readStep (length : Nat) : Step :=
  questionStep (.read (.ofNat length)) length

/-- Writing: the frame, and the rest of the data if there is any. -/
def writeSteps (data : Bytes) : List Step :=
  announceStep data :: if leadingMax < data.length then [restStep data] else []

def readSteps (length : Nat) : List Step :=
  if length = 0 then [] else [readStep length]

/-- What is done while the chip is selected. -/
def selectedSteps (data : Bytes) (length : Nat) : List Step :=
  writeSteps data ++ ([statusStep] ++ (readSteps length ++ [statusStep]))

/-- What was read, among all that was received while the chip was selected. -/
def readReply (data : Bytes) (length : Nat) (replies : List Bytes) : Bytes :=
  ((replies.drop ((writeSteps data).length + 1)).take (readSteps length).length).flatten

theorem setSelect_goes {σ : Type} (machine : Machine σ Link) (level : SelectLevel) (state : σ) :
    let driven := (setSelect level).run.course machine state
    ∃ outcome, (selectStep level).Goes driven.events outcome ∧
      driven.value = outcome.map fun _ => () := by
  rw [setSelect, course_complaining]
  exact query_goes machine (.setSelect level) acknowledgement state

theorem lastStatus_goes {σ : Type} (machine : Machine σ Link) (state : σ) :
    let looked := lastStatus.run.course machine state
    ∃ outcome, (questionStep .getStatus TransferStatus.form.length).Goes looked.events outcome ∧
      looked.value = outcome.map fun reply => (TransferStatus.form.meaning reply).code :=
  Step.looked_goes machine _ rfl (query_goes machine .getStatus TransferStatus.form state)
    fun _ _ => rfl

theorem checkStatus_takes : Takes [statusStep] checkStatus fun _ => () := by
  refine takes_of_goes (fun _ => ()) fun σ machine state => ?_
  refine statusStep.looked_goes machine rfl (lastStatus_goes machine state) fun reply after => ?_
  by_cases success : (TransferStatus.form.meaning reply).code = 0
  · simp [Step.judge, statusStep, statusFailure?, success, Except.map]
  · simp [Step.judge, statusStep, statusFailure?, success, Except.map, ExceptT.run_bind]

theorem announce_takes (data : Bytes) :
    Takes [announceStep data] (sendFrame (.write (.ofNat data.length) (data.take leadingMax)))
      fun _ => () := by
  refine takes_of_goes (fun _ => ()) fun σ machine state => ?_
  rcases sends : machine (.send (announceStep data).transfer.bytes) state with ⟨sent, next⟩
  rw [course_sendFrame machine _ sends]
  exact (announceStep data).sent_goes rfl sent

theorem rest_takes (data : Bytes) :
    Takes [restStep data] (sendRaw "write SPI data" (data.drop leadingMax)) fun _ => () := by
  refine takes_of_goes (fun _ => ()) fun σ machine state => ?_
  rcases sends : machine (.send (restStep data).transfer.bytes) state with ⟨sent, next⟩
  rw [sendRaw, course_sendAll machine _ _ (data.drop leadingMax) sends]
  exact (restStep data).sent_goes rfl sent

theorem write_takes {data : Bytes} (fits : data.length ≤ transferMax) :
    Takes (writeSteps data) (write data) fun _ => () := by
  have unfolded : write data = (do
      sendFrame (.write (.ofNat data.length) (data.take leadingMax))
      if leadingMax < data.length then sendRaw "write SPI data" (data.drop leadingMax)) := by
    unfold write
    rw [if_neg (by omega)]
  have follows :
      Takes (if leadingMax < data.length then [restStep data] else [])
        (if leadingMax < data.length then sendRaw "write SPI data" (data.drop leadingMax)
          else pure ()) fun _ => () := by
    by_cases long : leadingMax < data.length
    · simpa only [if_pos long] using rest_takes data
    · simpa only [if_neg long] using takes_nothing ()
  rw [unfolded]
  exact (announce_takes data).seq follows

theorem readSome_takes {length : Nat} (fits : length ≤ transferMax) :
    Takes (readSteps length) (heard (readSome length)) List.flatten := by
  unfold readSome readSteps
  by_cases nothing : length = 0
  · rw [if_pos nothing, if_pos nothing]
    refine (takes_nothing []).congr fun replies count => ?_
    rw [List.eq_nil_of_length_eq_zero count]
    rfl
  · rw [if_neg nothing, if_neg nothing]
    rw [read_eq_ask fits]
    refine takes_of_goes (fun reply => reply) fun σ machine state => ?_
    refine ⟨_, ask_goes machine (.read (.ofNat length)) length state, ?_⟩
    cases ((heard (ask (.read (.ofNat length)) length)).run.course machine state).value <;> rfl

theorem heard_exchangeSelected (data : Bytes) (length : Nat) :
    heard (exchangeSelected data length) = (do
      write data
      checkStatus
      let bytes ← heard (readSome length)
      checkStatus
      return bytes) := by
  apply ExceptT.ext
  unfold exchangeSelected heard
  simp only [ExceptT.run_bind, ExceptT.run_mk, bind_assoc]
  congr 1
  funext wrote
  cases wrote with
  | error error => rfl
  | ok _ =>
    congr 1
    funext looked
    cases looked with
    | error error => rfl
    | ok _ =>
      simp only [bind_assoc]
      congr 1
      funext received
      rcases received with ⟨bytes, outcome⟩
      cases outcome with
      | error error => rfl
      | ok _ =>
        simp only [andThen, bind_assoc, pure_bind, Except.map]
        congr 1
        funext last
        cases last <;> rfl

theorem exchangeSelected_takes {data : Bytes} {length : Nat} (fits : data.length ≤ transferMax)
    (readFits : length ≤ transferMax) :
    Takes (selectedSteps data length) (heard (exchangeSelected data length))
      (readReply data length) := by
  have ending (bytes : Bytes) :
      Takes ([statusStep] ++ []) (do checkStatus; return bytes) fun _ => bytes :=
    checkStatus_takes.seq (takes_nothing bytes)
  have reading := @Takes.bind _ _ _ _ _ (fun bytes => do checkStatus; return bytes) _
    (fun replies _ => replies.flatten) (readSome_takes readFits)
    fun replies => ending replies.flatten
  have all := (write_takes fits).seq (checkStatus_takes.seq reading)
  rw [heard_exchangeSelected]
  refine all.congr fun replies count => ?_
  rw [List.drop_drop]
  rfl

/-! ## Transactions -/

section Transactions

variable {σ : Type} (machine : Machine σ Link)

theorem not_select_of_mem {data : Bytes} {length : Nat} {step : Step}
    (member : step ∈ selectedSteps data length) (level : SelectLevel) :
    step.transfer ≠ .frame (.setSelect level) := by
  simp only [selectedSteps, writeSteps, readSteps, List.mem_append, List.mem_cons,
    List.not_mem_nil, or_false] at member
  rcases member with (rfl | rest) | rfl | reads | rfl
  · simp [announceStep]
  · split at rest
    · simp only [List.mem_cons, List.not_mem_nil, or_false] at rest
      simp [rest, restStep]
    · cases rest
  · simp [statusStep]
  · split at reads
    · cases reads
    · simp only [List.mem_cons, List.not_mem_nil, or_false] at reads
      simp [reads, readStep, questionStep]
  · simp [statusStep]

/-- What is left to do once the steps under chip select have been taken. -/
def closing (received : Received Error) : Dialogue Link (Received Error) :=
  match received.outcome with
  | .ok () => andThen received release
  | .error _ => do
    abandon
    return received

theorem closing_goes (received : Received Error) (state : σ) :
    let closed := (closing received).course machine state
    ∃ released, (selectStep .high).Goes closed.events released ∧
      closed.value.outcome = received.outcome.bind fun _ => released.map fun _ => () := by
  obtain ⟨released, goes, ends⟩ := setSelect_goes machine .high state
  rcases driven : (setSelect .high).run.course machine state with ⟨value, next, events⟩
  rw [driven] at goes ends
  simp only at goes ends
  subst ends
  refine ⟨released, ?_⟩
  rcases received with ⟨bytes, outcome⟩
  cases outcome with
  | ok _ =>
    simp only [closing, andThen, release, Dialogue.course_bind, driven]
    simpa [Except.bind] using goes
  | error error =>
    simp only [closing, abandon, release, Dialogue.course_bind, driven]
    cases released with
    | ok reply => simpa [Except.bind, Except.map] using goes
    | error other => simpa [Except.bind, Except.map] using goes

theorem transact_of_long {data : Bytes} (long : transferMax < data.length) (length : Nat) :
    transact data length = return ⟨[], .error (.transferTooLong data.length)⟩ := by
  unfold transact
  rw [if_pos long]

theorem transact_of_readLong {data : Bytes} {length : Nat} (fits : ¬ transferMax < data.length)
    (long : transferMax < length) :
    transact data length = return ⟨[], .error (.transferTooLong length)⟩ := by
  unfold transact
  rw [if_neg fits, if_pos long]

theorem transact_of_fits {data : Bytes} {length : Nat} (fits : data.length ≤ transferMax)
    (readFits : length ≤ transferMax) :
    transact data length = (do
      match ← select.run with
      | .error error => return ⟨[], .error error⟩
      | .ok () => closing (← exchangeSelected data length)) := by
  unfold transact
  rw [if_neg (by omega), if_neg (by omega)]
  rfl

theorem sentBytes_transaction {data : Bytes} {length : Nat}
    {opening middle ending : List Link.Event} {selected released : Except Error Bytes}
    {inner : Except Error (List Bytes)}
    (opens : (selectStep .low).Goes opening selected)
    (through : GoThrough (selectedSteps data length) middle inner)
    (closes : (selectStep .high).Goes ending released) :
    ∃ taken, taken <+: selectedSteps data length ∧
      -- on steps, as data that follow a frame may themselves look like one
      (∀ step ∈ taken, ∀ level, step.transfer ≠ .frame (.setSelect level)) ∧
      sentBytes (opening ++ (middle ++ ending)) =
        ([selectStep .low] ++ taken ++ [selectStep .high]).map fun step =>
          step.transfer.bytes := by
  obtain ⟨taken, first, sent, -⟩ := through.sentBytes_eq
  refine ⟨taken, first, fun step member => not_select_of_mem (first.subset member), ?_⟩
  rw [sentBytes_append, sentBytes_append, opens.sentBytes_eq, sent, closes.sentBytes_eq]
  simp

/-- The line is driven low first.  If that fails nothing else is transferred; otherwise the steps
of the plan are taken up to the first that fails, the line is driven high once and last, and the
failure reported is that of the first step that failed. -/
theorem transact_drives_select_line (data : Bytes) (length : Nat) (state : σ) :
    let transaction := (transact data length).run machine state
    if transferMax < data.length then
      transaction.events = [] ∧
        transaction.value.outcome = .error (.transferTooLong data.length)
    else if transferMax < length then
      transaction.events = [] ∧ transaction.value.outcome = .error (.transferTooLong length)
    else
      ∃ opening selected, (selectStep .low).Goes opening selected ∧
        match selected with
        | .error error =>
          transaction.events = opening ∧ transaction.value.outcome = .error error
        | .ok _ =>
          ∃ middle inner ending released,
            GoThrough (selectedSteps data length) middle inner ∧
            (selectStep .high).Goes ending released ∧
            transaction.events = opening ++ (middle ++ ending) ∧
            transaction.value.outcome =
              (inner.map fun _ => ()).bind (fun _ => released.map fun _ => ()) ∧
            ∃ taken, taken <+: selectedSteps data length ∧
              (∀ step ∈ taken, ∀ level, step.transfer ≠ .frame (.setSelect level)) ∧
              sentBytes transaction.events =
                (([selectStep .low] ++ taken ++ [selectStep .high]).map fun step =>
                  step.transfer.bytes) := by
  intro transaction
  by_cases long : transferMax < data.length
  · rw [if_pos long]
    simp only [transaction, transact_of_long long]
    exact ⟨rfl, rfl⟩
  by_cases readLong : transferMax < length
  · rw [if_neg long, if_pos readLong]
    simp only [transaction, transact_of_readLong long readLong]
    exact ⟨rfl, rfl⟩
  rw [if_neg long, if_neg readLong]
  have fits : data.length ≤ transferMax := Nat.le_of_not_lt long
  have readFits : length ≤ transferMax := Nat.le_of_not_lt readLong
  have course : (transact data length).course machine state =
      ⟨transaction.value, transaction.state, transaction.events⟩ := rfl
  obtain ⟨selected, opens, ends⟩ := setSelect_goes machine .low state
  rcases driven : (setSelect .low).run.course machine state with ⟨value, next, opening⟩
  rw [driven] at opens ends
  simp only at opens ends
  subst ends
  rw [transact_of_fits fits readFits, Dialogue.course_bind, select, driven] at course
  refine ⟨opening, selected, opens, ?_⟩
  cases selected with
  | error error =>
    simp only [Except.map, Dialogue.course_pure, List.append_nil, Course.mk.injEq] at course
    exact ⟨course.2.2.symm, by rw [← course.1]⟩
  | ok reply =>
    obtain ⟨inner, through, innerEnds⟩ := exchangeSelected_takes fits readFits σ machine next
    rw [course_heard] at through innerEnds
    rcases exchanged : (exchangeSelected data length).course machine next with
      ⟨received, last, middle⟩
    rw [exchanged] at through innerEnds
    simp only at through innerEnds
    obtain ⟨released, closes, outcome⟩ := closing_goes machine received last
    simp only [Except.map, Dialogue.course_bind, exchanged, Course.mk.injEq] at course
    obtain ⟨taken, first, apart, sent⟩ := sentBytes_transaction opens through closes
    refine ⟨middle, inner, _, released, through, closes, course.2.2.symm, ?_,
      taken, first, apart, ?_⟩
    · have same : received.outcome = inner.map fun _ => () := by
        rcases received with ⟨bytes, ends⟩
        cases ends <;> cases inner <;> simp_all [Except.map]
      rw [← course.1, outcome, same]
    · rw [← course.2.2]
      exact sent

end Transactions

end SpiProgrammer.Bridge
