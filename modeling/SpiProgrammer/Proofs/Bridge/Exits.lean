import SpiProgrammer.Proofs.Bridge.ChipSelect

/-! # The ways out of a transaction

A transaction is refused, or fails to select the chip, or breaks off while it is selected, or has
done all of its steps and then deselects the chip or fails to.  Main statement: one of these is
what happens on every link, and which of them is told by the events. -/
set_option autoImplicit false

namespace SpiProgrammer.Bridge

/-- The events of a transaction and what it hands over. -/
inductive Exit (data : Bytes) (length : Nat) : List Link.Event → Received Error → Prop
  | refused (long : transferMax < data.length ∨ transferMax < length) (error : Error) :
    Exit data length [] ⟨[], .error error⟩
  | unselected {opening : List Link.Event} (error : Error)
    (fails : (selectStep .low).Goes opening (.error error)) :
    Exit data length opening ⟨[], .error error⟩
  | broken {opening middle ending : List Link.Event} {reply : Bytes}
    {released : Except Error Bytes} (fits : data.length ≤ transferMax) (error : Error)
    (bytes : Bytes)
    (opens : (selectStep .low).Goes opening (.ok reply))
    (breaks : GoThrough (selectedSteps data length) middle (.error error))
    (closes : (selectStep .high).Goes ending released) :
    Exit data length (opening ++ (middle ++ ending)) ⟨bytes, .error error⟩
  | unreleased {opening middle ending : List Link.Event} {reply : Bytes} {replies : List Bytes}
    (fits : data.length ≤ transferMax) (error : Error)
    (opens : (selectStep .low).Goes opening (.ok reply))
    (through : GoThrough (selectedSteps data length) middle (.ok replies))
    (fails : (selectStep .high).Goes ending (.error error)) :
    Exit data length (opening ++ (middle ++ ending))
      ⟨readReply data length replies, .error error⟩
  | released {opening middle ending : List Link.Event} {reply last : Bytes} {replies : List Bytes}
    (fits : data.length ≤ transferMax)
    (opens : (selectStep .low).Goes opening (.ok reply))
    (through : GoThrough (selectedSteps data length) middle (.ok replies))
    (closes : (selectStep .high).Goes ending (.ok last)) :
    Exit data length (opening ++ (middle ++ ending)) ⟨readReply data length replies, .ok ()⟩

section Exits

variable {σ : Type} (machine : Machine σ Link)

theorem closing_bytes (received : Received Error) (state : σ) :
    ((closing received).course machine state).value.bytes = received.bytes := by
  rcases received with ⟨bytes, outcome⟩
  cases outcome with
  | ok _ => simp [closing, andThen]
  | error error => simp [closing]

/-- What is left of a transaction once the chip has been selected. -/
theorem exit_of_selected {data : Bytes} {length : Nat} (fits : data.length ≤ transferMax)
    (readFits : length ≤ transferMax) {opening : List Link.Event} {reply : Bytes}
    (opens : (selectStep .low).Goes opening (.ok reply)) (state : σ) :
    let rest := (exchangeSelected data length >>= closing).course machine state
    Exit data length (opening ++ rest.events) rest.value := by
  obtain ⟨inner, through, ends⟩ := exchangeSelected_takes fits readFits σ machine state
  rw [course_heard] at through ends
  rw [Dialogue.course_bind]
  rcases exchanged : (exchangeSelected data length).course machine state with
    ⟨⟨bytes, outcome⟩, next, middle⟩
  rw [exchanged] at through ends
  simp only at through ends ⊢
  obtain ⟨released, closes, judged⟩ := closing_goes machine ⟨bytes, outcome⟩ next
  have kept := closing_bytes machine ⟨bytes, outcome⟩ next
  rcases closed : (closing ⟨bytes, outcome⟩).course machine next with
    ⟨⟨handed, verdict⟩, last, ending⟩
  rw [closed] at closes judged kept
  simp only at closes judged kept ⊢
  subst kept judged
  cases inner with
  | error error =>
    cases outcome with
    | ok _ => cases ends
    | error other =>
      cases ends
      exact .broken fits error handed opens through closes
  | ok replies =>
    cases outcome with
    | error error => cases ends
    | ok _ =>
      cases ends
      cases released with
      | ok last => exact .released fits opens through closes
      | error error => exact .unreleased fits error opens through closes

theorem transact_exit (data : Bytes) (length : Nat) (state : σ) :
    let ran := (transact data length).run machine state
    Exit data length ran.events ran.value := by
  show Exit data length ((transact data length).course machine state).events
    ((transact data length).course machine state).value
  by_cases long : transferMax < data.length
  · rw [transact_of_long long]
    exact .refused (.inl long) _
  by_cases readLong : transferMax < length
  · rw [transact_of_readLong long readLong]
    exact .refused (.inr readLong) _
  have fits : data.length ≤ transferMax := Nat.le_of_not_lt long
  have readFits : length ≤ transferMax := Nat.le_of_not_lt readLong
  rw [transact_of_fits fits readFits, Dialogue.course_bind, select]
  obtain ⟨selected, opens, ends⟩ := setSelect_goes machine .low state
  rcases driven : (setSelect .low).run.course machine state with ⟨value, next, opening⟩
  rw [driven] at opens ends
  simp only at opens ends
  subst ends
  cases selected with
  | error error =>
    simp only [Except.map, Dialogue.course_pure, List.append_nil]
    exact .unselected error opens
  | ok reply => exact exit_of_selected machine fits readFits opens next

end Exits

end SpiProgrammer.Bridge
