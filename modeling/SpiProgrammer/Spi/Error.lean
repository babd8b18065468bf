/-! # What can go wrong with a flash operation -/
set_option autoImplicit false

namespace SpiProgrammer.Spi

inductive Error where
  /-- a transaction with the chip failed -/
  | transferFailed
  | transferTimeout
  | chipNotFound
  | stillBusy
  | addressOutOfBounds
  /-- the range does not consist of whole sectors -/
  | invalidAlignment
  /-- a transaction would not fit the programmer -/
  | bufferTooLarge
  | programmerError
  /-- the range needs four address bytes and the programmer cannot send them -/
  | fourByteAddressUnsupported
deriving DecidableEq, Repr

namespace Error

def message : Error → String
  | .transferFailed => "SPI transfer failed"
  | .transferTimeout => "SPI operation timed out"
  | .chipNotFound => "flash chip not found"
  | .stillBusy => "operation timed out"
  | .addressOutOfBounds => "address out of bounds"
  | .invalidAlignment => "invalid alignment"
  | .bufferTooLarge => "buffer too large for a single transaction"
  | .programmerError => "programmer error"
  | .fourByteAddressUnsupported => "4-byte addressing not supported by programmer"

def label : Error → String
  | .transferFailed => "SpiTransferFailed"
  | .transferTimeout => "SpiTimeout"
  | .chipNotFound => "ChipNotFound"
  | .stillBusy => "Timeout"
  | .addressOutOfBounds => "AddressOutOfBounds"
  | .invalidAlignment => "InvalidAlignment"
  | .bufferTooLarge => "BufferTooLarge"
  | .programmerError => "ProgrammerError"
  | .fourByteAddressUnsupported => "FourByteAddrNotSupported"

def ofLabel? (label : String) : Option Error :=
  [.transferFailed, .transferTimeout, .chipNotFound, .stillBusy, .addressOutOfBounds,
    .invalidAlignment, .bufferTooLarge, .programmerError, .fourByteAddressUnsupported].find?
    fun error => error.label == label

end Error

end SpiProgrammer.Spi
