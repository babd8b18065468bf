import SpiProgrammer.Proofs.Bridge.Steps
import SpiProgrammer.Proofs.Words
import SpiProgrammer.Usb.Probe
import SpiProgrammer.Usb.Simulated

/-! # Receiving whole packets into a buffer

A transfer in asks for whole packets and so may bring more than there is room for.  Three lengths
meet: that of the buffer, that of the request, and the number of bytes that arrive in the memory of
the transfer, from which as many are copied as there are and fit.

Main statement: whatever the size of the packets and whatever arrives, the copy stays inside both
memories, and what the bridge receives is a success exactly if the transfer is and fills the
buffer; what is too long is an error, as is what is too short. -/
set_option autoImplicit false

namespace SpiProgrammer

theorem Bytes.overlay_take (buffer received : Bytes) :
    overlay buffer (received.take buffer.length) = overlay buffer received := by
  rcases Nat.le_total received.length buffer.length with fits | beyond
  · rw [List.take_of_length_le fits]
  · have full : (received.take buffer.length).length = buffer.length := List.length_take_of_le beyond
    rw [overlay_whole full, overlay, List.drop_of_length_le beyond, List.append_nil]

theorem Bytes.overlay_front {count : Nat} {memory : Bytes} (held : count ≤ memory.length)
    (buffer : Bytes) :
    overlay buffer (memory.take count) =
      memory.take (min count buffer.length) ++ buffer.drop (min count buffer.length) := by
  rw [overlay, List.take_take, List.length_take_of_le held, Nat.min_comm]
  rcases Nat.le_total count buffer.length with fits | beyond
  · rw [Nat.min_eq_left fits]
  · rw [Nat.min_eq_right beyond, List.drop_of_length_le beyond, List.drop_length]

theorem Dialogue.through?_request {I J : Interface}
    (serve : (r : I.Request) → Dialogue J (Option (I.Reply r))) (r : I.Request) :
    (request r).through? serve = serve r := by
  rw [request, through?]
  refine Eq.trans ?_ (Dialogue.bind_done (serve r))
  congr 1
  funext answer
  cases answer <;> rfl

namespace Usb

open Bridge (receivedWhole)

/-! ## Whole packets -/

section Packets

variable {packet : Nat} (positive : 0 < packet)
include positive

theorem le_wholePackets (length : Nat) : max length 1 ≤ wholePackets packet length := by
  have division := Nat.div_add_mod (max length 1 + (packet - 1)) packet
  have remainder := Nat.mod_lt (max length 1 + (packet - 1)) positive
  rw [wholePackets, Nat.mul_comm]
  omega

theorem wholePackets_le {length other : Nat} (whole : packet ∣ other)
    (enough : max length 1 ≤ other) : wholePackets packet length ≤ other := by
  obtain ⟨count, rfl⟩ := whole
  have below : max length 1 + (packet - 1) < packet * (count + 1) := by
    rw [Nat.mul_succ]
    omega
  have packets : (max length 1 + (packet - 1)) / packet ≤ count :=
    Nat.le_of_lt_succ (Nat.div_lt_of_lt_mul below)
  rw [wholePackets, Nat.mul_comm packet]
  exact Nat.mul_le_mul_right packet packets

end Packets

/-- The request is the smallest positive multiple of the packet size that holds `length` bytes. -/
structure RoundedUp (packet length requested : Nat) : Prop where
  positive : 0 < requested
  whole : packet ∣ requested
  enough : length ≤ requested
  least : ∀ other, 0 < other → packet ∣ other → length ≤ other → requested ≤ other

theorem wholePackets_roundedUp {packet : Nat} (positive : 0 < packet) (length : Nat) :
    RoundedUp packet length (wholePackets packet length) where
  positive := Nat.lt_of_lt_of_le (by omega) (le_wholePackets positive length)
  whole := Nat.dvd_mul_left packet _
  enough := Nat.le_trans (Nat.le_max_left length 1) (le_wholePackets positive length)
  least other nonzero whole enough := wholePackets_le positive whole (by omega)

theorem RoundedUp.le_max {packet length requested : Nat}
    (rounded : RoundedUp packet length requested) (fits : length ≤ Bridge.transferMax) :
    requested ≤ max packet (2 * Bridge.transferMax) := by
  have positive : 0 < packet := Nat.pos_of_dvd_of_pos rounded.whole rounded.positive
  rcases Nat.le_total length packet with one | more
  · exact Nat.le_trans (rounded.least packet positive (Nat.dvd_refl packet) one)
      (Nat.le_max_left _ _)
  · have division := Nat.div_add_mod length packet
    have remainder := Nat.mod_lt length positive
    have behind := rounded.least (packet * (length / packet + 1))
      (Nat.mul_pos positive (Nat.succ_pos _)) (Nat.dvd_mul_right packet _)
      (by rw [Nat.mul_succ]; omega)
    rw [Nat.mul_succ] at behind
    omega

/-! ## Completions -/

/-- What comes back of a transfer in: whether it failed, the number of bytes that arrived, and the
memory at whose start they are. -/
structure Completion where
  status : Except TransferFault Unit
  actual : Nat
  memory : Bytes

namespace Completion

def reply (completion : Completion) : Except TransferFault Bytes :=
  completion.status.map fun _ => completion.memory.take completion.actual

/-- Copies bytes from the start of the one memory to the start of the other.  Neither may be
shorter than what is copied. -/
def copyFront? (count : Nat) (source target : Bytes) : Option Bytes :=
  if count ≤ source.length ∧ count ≤ target.length
  then some (source.take count ++ target.drop count)
  else none

/-- The number of bytes or the failure that is reported, and the buffer after it. -/
def settle? (completion : Completion) (buffer : Bytes) :
    Option (Except Bridge.Error Nat × Bytes) :=
  match completion.status with
  | .error fault => some (.error fault.toError, buffer)
  | .ok () =>
    (copyFront? (min completion.actual buffer.length) completion.memory buffer).map
      fun buffer => (.ok completion.actual, buffer)

/-- How a transfer in shows where it was asked for: the answer, and the buffer after it. -/
structure Delivers (completion : Completion) (buffer : Bytes) (answer : Except Bridge.Error Bytes)
    (after : Bytes) : Prop where
  /-- nothing is copied from or to a place outside the two memories -/
  settles : completion.settle? buffer = some (answer.map List.length, after)
  arrives : completion.status = .ok () →
    answer = .ok (completion.memory.take completion.actual) ∧
      answer.map List.length = .ok completion.actual
  copied : completion.status = .ok () →
    let count := min completion.actual buffer.length
    after = completion.memory.take count ++ buffer.drop count
  cancelled : completion.status = .error .cancelled → answer = .error .timeout
  failed : ∀ reason, completion.status = .error (.other reason) →
    answer = .error (.transferFailed reason)
  untouched : ∀ fault, completion.status = .error fault → after = buffer

def bytesOf : Except Bridge.Error Bytes → Bytes
  | .ok bytes => bytes
  | .error _ => []

theorem delivers {completion : Completion} (held : completion.actual ≤ completion.memory.length)
    (buffer : Bytes) :
    let answer := completion.reply.mapError TransferFault.toError
    completion.Delivers buffer answer (Bytes.overlay buffer (bytesOf answer)) := by
  rcases completion with ⟨status, actual, memory⟩
  have arrived : (memory.take actual).length = actual := List.length_take_of_le held
  have stored := Bytes.overlay_front held buffer
  have room : min actual buffer.length ≤ memory.length ∧
      min actual buffer.length ≤ buffer.length :=
    ⟨Nat.le_trans (Nat.min_le_left _ _) held, Nat.min_le_right _ _⟩
  cases status with
  | ok _ =>
    exact {
      settles := by
        show (copyFront? (min actual buffer.length) memory buffer).map _ =
          some ((.ok (memory.take actual).length : Except Bridge.Error Nat),
            Bytes.overlay buffer (memory.take actual))
        rw [copyFront?, if_pos room, arrived, stored]
        rfl
      arrives := fun _ => ⟨rfl, congrArg Except.ok arrived⟩
      copied := fun _ => stored
      cancelled := nofun
      failed := nofun
      untouched := nofun }
  | error fault =>
    have same : Bytes.overlay buffer [] = buffer := Bytes.overlay_nil buffer
    exact {
      settles := by
        show _ = some (_, Bytes.overlay buffer [])
        rw [same]
        rfl
      arrives := nofun
      copied := nofun
      cancelled := by
        rintro ⟨⟩
        rfl
      failed := by
        rintro reason ⟨⟩
        rfl
      untouched := fun _ _ => same }

end Completion

/-! ## Receiving -/

/-- What the bridge takes over from an answer comes to the same as the whole answer, as what it
leaves out does not fit. -/
theorem overlay_receivedWhole (what : String) (buffer : Bytes)
    (answer : Except Bridge.Error Bytes) :
    Bytes.overlay buffer (receivedWhole what buffer.length answer).bytes =
      Bytes.overlay buffer (Completion.bytesOf answer) := by
  cases answer with
  | error error => rfl
  | ok reply =>
    simp only [receivedWhole, Completion.bytesOf]
    split
    · rfl
    · exact Bytes.overlay_take buffer reply

theorem receivedWhole_outcome (what : String) (length : Nat) {completion : Completion}
    (held : completion.actual ≤ completion.memory.length) :
    (receivedWhole what length (completion.reply.mapError TransferFault.toError)).outcome =
      match completion.status with
      | .error fault => .error fault.toError
      | .ok () =>
        if completion.actual = length then .ok ()
        else .error (.shortTransfer what length completion.actual) := by
  rcases completion with ⟨status, actual, memory⟩
  cases status with
  | error fault => rfl
  | ok _ =>
    have arrived : (memory.take actual).length = actual := List.length_take_of_le held
    show (receivedWhole what length (.ok (memory.take actual))).outcome = _
    simp only [receivedWhole, arrived]
    split <;> rfl

section Receive

variable {σ : Type} (machine : Machine σ Bus) {packet length : Nat} (positive : 0 < packet)
  {state next : σ} {answer : Except TransferFault Bytes}
  (answered : machine (.transferIn (wholePackets packet length) transferTime) state =
    (answer, next))
include positive answered

theorem course_serve?_receive :
    (serve? packet (.receive length)).course machine state =
      ⟨some (answer.mapError TransferFault.toError), next,
        [⟨.transferIn (wholePackets packet length) transferTime, answer⟩]⟩ := by
  have transferred : (Dialogue.request (I := Bus)
      (.transferIn (wholePackets packet length) transferTime)).course machine state =
      ⟨answer, next, [⟨.transferIn (wholePackets packet length) transferTime, answer⟩]⟩ := by
    rw [Dialogue.course_request, answered]
  have received : (receiveIn packet length).run.course machine state =
      ⟨answer.mapError TransferFault.toError, next,
        [⟨.transferIn (wholePackets packet length) transferTime, answer⟩]⟩ := by
    unfold receiveIn
    rw [Dialogue.course_bind_ok machine _ _
      ((Dialogue.course_lift machine _ state).trans (by rw [transferred]))]
    cases answer <;> rfl
  show ((if packet = 0 then pure none else
    (do return some (← (receiveIn packet length).run)) : Dialogue Bus _)).course machine state = _
  rw [if_neg (Nat.pos_iff_ne_zero.mp positive), Dialogue.course_bind, received]
  rfl

theorem course_receive_through (what : String) :
    ((Bridge.receive what length).through? (serve? packet)).course machine state =
      ⟨some (receivedWhole what length (answer.mapError TransferFault.toError)), next,
        [⟨.transferIn (wholePackets packet length) transferTime, answer⟩]⟩ := by
  unfold Bridge.receive
  rw [Dialogue.through?_bind, Dialogue.through?_request, Dialogue.course_bind,
    course_serve?_receive machine positive answered]
  generalize answer.mapError TransferFault.toError = got
  cases got with
  | error error => rfl
  | ok reply =>
    simp only [receivedWhole]
    split <;> rfl

end Receive

/-- Receiving into a buffer through an endpoint with packets of any size is exact.  It is one
transfer for the fewest whole packets with room for as many bytes; as many as arrive and fit are
copied, nothing else of the buffer changes, and how many arrived is reported.  The bridge takes this
for a success exactly if the transfer succeeded and brought the buffer's length, and the buffer then
holds what arrived; more bytes are an error, like fewer. -/
theorem receive_exact {σ : Type} (machine : Machine σ Bus) (what : String) {packet : Nat}
    (positive : 0 < packet) (buffer : Bytes) (fits : buffer.length ≤ Bridge.transferMax)
    {state next : σ} (completion : Completion)
    (held : completion.actual ≤ completion.memory.length)
    (completes : machine (.transferIn (wholePackets packet buffer.length) transferTime) state =
      (completion.reply, next)) :
    let requested := wholePackets packet buffer.length
    let pulled := (serve? packet (.receive buffer.length)).run machine state
    let ran := ((Bridge.receive what buffer.length).through? (serve? packet)).run machine state
    RoundedUp packet buffer.length requested ∧
    requested ≤ max packet (2 * Bridge.transferMax) ∧
    pulled.events = [⟨.transferIn requested transferTime, completion.reply⟩] ∧
    ran.events = [⟨.transferIn requested transferTime, completion.reply⟩] ∧
    ∃ answer received, pulled.value = some answer ∧ ran.value = some received ∧
      completion.Delivers buffer answer (Bytes.overlay buffer received.bytes) ∧
      (received.outcome = .ok () ↔
        completion.status = .ok () ∧ completion.actual = buffer.length) ∧
      (received.outcome = .ok () →
        Bytes.overlay buffer received.bytes = completion.memory.take completion.actual) ∧
      (completion.status = .ok () → completion.actual ≠ buffer.length →
        received.outcome = .error (.shortTransfer what buffer.length completion.actual)) ∧
      (∀ fault, completion.status = .error fault → received.outcome = .error fault.toError) := by
  intro requested pulled ran
  have rounded := wholePackets_roundedUp positive buffer.length
  obtain ⟨pulls, pullEvents, -⟩ :=
    Dialogue.run_of_course (course_serve?_receive machine positive completes)
  obtain ⟨runs, runEvents, -⟩ :=
    Dialogue.run_of_course (course_receive_through machine positive completes what)
  refine ⟨rounded, rounded.le_max fits, pullEvents, runEvents, _, _, pulls, runs, ?_⟩
  have outcome := receivedWhole_outcome what buffer.length held
  have success : (receivedWhole what buffer.length
      (completion.reply.mapError TransferFault.toError)).outcome = .ok () ↔
      completion.status = .ok () ∧ completion.actual = buffer.length := by
    rw [outcome]
    cases completion.status with
    | error fault => simp
    | ok _ => simp
  have delivered := Completion.delivers held buffer
  rw [overlay_receivedWhole]
  refine ⟨delivered, success, fun well => ?_, fun arrives other => ?_, fun fault fails => ?_⟩
  · obtain ⟨arrives, whole⟩ := success.mp well
    have arrived : (completion.memory.take completion.actual).length = completion.actual :=
      List.length_take_of_le held
    rw [(delivered.arrives arrives).1]
    exact Bytes.overlay_whole (arrived.trans whole)
  · rw [outcome, arrives]
    exact if_neg other
  · rw [outcome, fails]

def talkative : Simulated where
  opened := some {
    info := { vendor := vendorId, product := productId, serial := none, bus := "1", address := 5 }
    packet := 64
    peer := .scripted { replies := [.ok [1, 2, 3, 4, 5, 6, 7, 8, 9]] } }

/-- Nine bytes where eight are due fit in the packet that is asked for, and are an error; the buffer
has taken the first eight. -/
theorem nine_bytes_for_eight :
    let ran := ((Bridge.receive "read SPI" 8).through? (serve? 64)).run Simulated.machine talkative
    ran.events = [⟨.transferIn 64 transferTime, .ok [1, 2, 3, 4, 5, 6, 7, 8, 9]⟩] ∧
    ∃ received, ran.value = some received ∧
      received.outcome = .error (.shortTransfer "read SPI" 8 9) ∧
      Bytes.overlay (List.replicate 8 0xFF) received.bytes = [1, 2, 3, 4, 5, 6, 7, 8] := by
  obtain ⟨-, -, -, events, answer, received, -, value, delivers, -, -, tooLong, -⟩ :=
    @receive_exact Simulated Simulated.machine "read SPI" 64 (by decide) (List.replicate 8 0xFF)
      (by decide) talkative _ ⟨.ok (), 9, [1, 2, 3, 4, 5, 6, 7, 8, 9] ++ List.replicate 55 0⟩
      (by decide) rfl
  exact ⟨events, received, value, tooLong rfl (by decide), delivers.copied rfl⟩

end Usb

end SpiProgrammer
