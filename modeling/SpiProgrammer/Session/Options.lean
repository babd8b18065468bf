import SpiProgrammer.Bridge.Error
import SpiProgrammer.Text.Numeral

/-! # Options of a session

An option is a key and a value.  `serial` picks the probe, `spispeed` the frequency of the bus
in kilohertz.  No key may be given twice, and no other key is known; the first thing wrong is
reported. -/
set_option autoImplicit false

namespace SpiProgrammer.Session

structure Options where
  /-- The serial number of the probe; any probe if there is none. -/
  serial : Option String := none
  /-- The wanted frequency in kilohertz. -/
  frequency : Nat := 1000
deriving DecidableEq, Repr

inductive OptionFault where
  | givenTwice (key : String)
  | emptySerial
  | badFrequency (value : String)
  | zeroFrequency
  | unknown (key : String)
deriving DecidableEq, Repr

namespace OptionFault

def message : OptionFault → String
  | .givenTwice key => "Option given twice: " ++ key
  | .emptySerial => "serial must not be empty"
  | .badFrequency value =>
    "Invalid spispeed '" ++ value ++ "': expected a frequency in kHz (1-65535)"
  | .zeroFrequency => "spispeed must be at least 1 kHz"
  | .unknown key => "Unknown option: " ++ key

def toError (fault : OptionFault) : Bridge.Error :=
  .configuration fault.message

end OptionFault

/-- A frequency has to be one at all. -/
def checkFrequency (frequency : Nat) : Except OptionFault Unit :=
  if frequency = 0 then .error .zeroFrequency else .ok ()

/-- A frequency is a decimal number of sixteen bits. -/
def readFrequency (value : String) : Except OptionFault Nat :=
  match Text.readNumeral 10 0x10000 value.toList with
  | .error _ => .error (.badFrequency value)
  | .ok frequency => (checkFrequency frequency).map fun _ => frequency

def Options.accept (options : Options) (key value : String) : Except OptionFault Options :=
  if key = "serial" then
    if value = "" then .error .emptySerial else .ok { options with serial := some value }
  else if key = "spispeed" then
    (readFrequency value).map fun frequency => { options with frequency }
  else .error (.unknown key)

/-- Takes options in one after the other; `seen` holds the keys of those before. -/
def Options.acceptAll (options : Options) (seen : List String) :
    List (String × String) → Except OptionFault Options
  | [] => .ok options
  | (key, value) :: rest =>
    if key ∈ seen then .error (.givenTwice key)
    else do
      let options ← options.accept key value
      options.acceptAll (key :: seen) rest

def Options.ofList (given : List (String × String)) : Except OptionFault Options :=
  Options.acceptAll {} [] given

end SpiProgrammer.Session
