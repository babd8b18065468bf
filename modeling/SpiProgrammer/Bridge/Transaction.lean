import SpiProgrammer.Bridge.Requests

/-! # Transactions under chip select

The line is driven low, bytes are written and then read, with a look at the status after each,
and the line is driven high again whatever happened in between.  If it cannot be driven low
nothing else is done.  The first failure is the one reported. -/
set_option autoImplicit false

namespace SpiProgrammer.Bridge

def select : Exchange Unit :=
  setSelect .low

def release : Exchange Unit :=
  setSelect .high

/-- Deselects the chip after a failure, which a second one must not hide. -/
def abandon : Dialogue Link Unit := do
  if let .error error ← release.run then
    note .error ("Failed to set the NSS pin to high: " ++ error.message)

/-- What was received, where the outcome now also depends on a further step. -/
def andThen (received : Received Error) (next : Exchange Unit) : Dialogue Link (Received Error) :=
  match received.outcome with
  | .error _ => return received
  | .ok () => return ⟨received.bytes, ← next.run⟩

def readSome (length : Nat) : Dialogue Link (Received Error) :=
  if length = 0 then return ⟨[], .ok ()⟩ else read length

/-- What happens while the chip is selected. -/
def exchangeSelected (data : Bytes) (length : Nat) : Dialogue Link (Received Error) := do
  match ← (do write data; checkStatus : Exchange Unit).run with
  | .error error => return ⟨[], .error error⟩
  | .ok () => andThen (← readSome length) checkStatus

def transact (data : Bytes) (length : Nat) : Dialogue Link (Received Error) := do
  if transferMax < data.length then return ⟨[], .error (.transferTooLong data.length)⟩
  if transferMax < length then return ⟨[], .error (.transferTooLong length)⟩
  match ← select.run with
  | .error error => return ⟨[], .error error⟩
  | .ok () =>
    let received ← exchangeSelected data length
    match received.outcome with
    | .ok () => andThen received release
    | .error _ =>
      abandon
      return received

end SpiProgrammer.Bridge
