import SpiProgrammer.Dialogue.Run
import SpiProgrammer.Flash.Chip
import SpiProgrammer.Spi.Master

/-! # A chip wired straight to its master

Every command is one chip-select cycle of the chip.  Chosen commands fail instead, without
reaching the chip. -/
set_option autoImplicit false

namespace SpiProgrammer.Flash

open Spi

structure Wired where
  chip : Chip
  /-- How many commands have been executed, the failed ones included. -/
  executed : Nat := 0
  /-- The time asked for in all, in microseconds. -/
  delayed : Nat := 0
  /-- Which commands fail, counted from one, and how. -/
  failures : List (Nat × Error) := []

def Wired.machine : Machine Wired Master
  | .execute command, wired =>
    let wired := { wired with executed := wired.executed + 1 }
    match wired.failures.lookup wired.executed with
    | some error => (⟨[], .error error⟩, wired)
    | none =>
      let (bytes, chip) := wired.chip.transfer command.sent command.readLength
      (⟨bytes, .ok ()⟩, { wired with chip })
  | .delay microseconds, wired =>
    ((), { wired with delayed := wired.delayed + microseconds })

end SpiProgrammer.Flash
