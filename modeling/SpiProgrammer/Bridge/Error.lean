import SpiProgrammer.Spi.Error
import SpiProgrammer.Text.Numeral
import SpiProgrammer.Text.Quoted

/-! # What can go wrong between the host and the bridge -/
set_option autoImplicit false

namespace SpiProgrammer.Bridge

inductive Error where
  | deviceNotFound
  | serialNotFound (serial : String)
  | openFailed (reason : String)
  | claimFailed (reason : String)
  /-- no interface of the device has the endpoint -/
  | endpointNotFound (address : UInt8)
  | transferFailed (reason : String)
  /-- a transfer moved another number of bytes than it has to -/
  | shortTransfer (what : String) (expected actual : Nat)
  | timeout
  /-- the bridge reported a failure of the serial bus -/
  | status (code : UInt32)
  | firmwareTooOld (found required : UInt8)
  | configuration (reason : String)
  | transferTooLong (length : Nat)
deriving DecidableEq, Repr

namespace Error

open Text

def message : Error → String
  | .deviceNotFound => "STLINK-V3 not found (VID:0483 PID:374F)"
  | .serialNotFound serial => "No STLINK-V3 with serial number " ++ serial
  | .openFailed reason => "Failed to open STLINK-V3: " ++ reason
  | .claimFailed reason => "Failed to claim interface: " ++ reason
  | .endpointNotFound address => "No interface with endpoint 0x" ++ hex 2 address.toNat
  | .transferFailed reason => "USB transfer failed: " ++ reason
  | .shortTransfer what expected actual =>
    "Short transfer during " ++ what ++ ": expected " ++ toString expected ++ " bytes, got " ++
      toString actual
  | .timeout => "Timeout during USB transfer"
  | .status code => "SPI read/write failure: " ++ toString code.toNat
  | .firmwareTooOld found required =>
    "Bridge firmware version " ++ toString found.toNat ++ " is too old, version " ++
      toString required.toNat ++ " or newer is required (update with STSW-LINK007)"
  | .configuration reason => "Configuration error: " ++ reason
  | .transferTooLong length =>
    "Transfer of " ++ toString length ++ " bytes exceeds the 65535 byte limit"

def label : Error → String
  | .deviceNotFound => "DeviceNotFound"
  | .serialNotFound _ => "SerialNotFound"
  | .openFailed _ => "OpenFailed"
  | .claimFailed _ => "ClaimFailed"
  | .endpointNotFound _ => "EndpointNotFound"
  | .transferFailed _ => "TransferFailed"
  | .shortTransfer _ _ _ => "ShortTransfer"
  | .timeout => "Timeout"
  | .status _ => "SpiStatus"
  | .firmwareTooOld _ _ => "FirmwareTooOld"
  | .configuration _ => "ConfigError"
  | .transferTooLong _ => "TransferTooLong"

def details : Error → String
  | .deviceNotFound | .timeout => ""
  | .serialNotFound text | .openFailed text | .claimFailed text | .transferFailed text
  | .configuration text => "(" ++ quoted text ++ ")"
  | .endpointNotFound address => "(" ++ toString address.toNat ++ ")"
  | .shortTransfer what expected actual =>
    " \x7b what: " ++ quoted what ++ ", expected: " ++ toString expected ++
      ", actual: " ++ toString actual ++ " \x7d"
  | .status code => "(" ++ toString code.toNat ++ ")"
  | .firmwareTooOld found required =>
    " \x7b found: " ++ toString found.toNat ++ ", required: " ++ toString required.toNat ++ " \x7d"
  | .transferTooLong length => "(" ++ toString length ++ ")"

/-- What is left of the error for those who only know a flash chip. -/
def toSpi : Error → Spi.Error
  | .timeout => .transferTimeout
  | .transferTooLong _ => .bufferTooLarge
  | .transferFailed _ | .shortTransfer _ _ _ | .status _ => .transferFailed
  | _ => .programmerError

end Error

end SpiProgrammer.Bridge
