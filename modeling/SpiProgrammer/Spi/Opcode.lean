import SpiProgrammer.Spi.Address

/-! # Opcodes of a serial NOR flash

The commands that identify, read, program and erase a chip.  The last three exist in two forms,
for three and for four address bytes. -/
set_option autoImplicit false

namespace SpiProgrammer.Spi.Opcode

def writeEnable : UInt8 := 0x06

def readStatus : UInt8 := 0x05

def readIdentity : UInt8 := 0x9F

def read : AddressWidth → UInt8
  | .four => 0x13
  | _ => 0x03

def programPage : AddressWidth → UInt8
  | .four => 0x12
  | _ => 0x02

def eraseSector : AddressWidth → UInt8
  | .four => 0x21
  | _ => 0x20

def eraseChip : UInt8 := 0xC7

/-- The status bit that is set while the chip is busy. -/
def busyBit : UInt8 := 0x01

/-- The bytes of a page, the unit of programming. -/
def pageSize : Nat := 256

/-- The bytes of a sector, the smallest unit of erasing. -/
def sectorSize : Nat := 4096

end SpiProgrammer.Spi.Opcode
