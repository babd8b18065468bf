/-! # The clock of the serial bus

The bridge derives the bus clock from an input clock by one of eight divisors, the powers of two
from 2 to 256.  The divisor chosen for a wanted frequency is the smallest one that is not below
the integral ratio of the two clocks, and the largest where none reaches it. -/
set_option autoImplicit false

namespace SpiProgrammer.Bridge

structure Prescaler where
  code : Fin 8
deriving DecidableEq, Repr

namespace Prescaler

def divisor (prescaler : Prescaler) : Nat :=
  2 <<< prescaler.code.val

/-- The fastest first. -/
def all : List Prescaler :=
  (List.finRange 8).map Prescaler.mk

def slowest : Prescaler := ⟨7⟩

/-- The smallest divisor that is not below the ratio. -/
def forRatio? (ratio : Nat) : Option Prescaler :=
  all.find? fun prescaler => ratio ≤ prescaler.divisor

end Prescaler

/-- The bus clock as it was settled; both frequencies are in kilohertz. -/
structure Clock where
  input : Nat
  prescaler : Prescaler
  frequency : Nat
deriving DecidableEq, Repr

namespace Clock

/-- Settles the clock for a wanted frequency.  No frequency at all counts as an infinite ratio. -/
def negotiate (input wanted : Nat) : Clock :=
  let prescaler :=
    if wanted = 0 then Prescaler.slowest
    else (Prescaler.forRatio? (input / wanted)).getD .slowest
  ⟨input, prescaler, input / prescaler.divisor⟩

def isClamped (clock : Clock) (wanted : Nat) : Bool :=
  clock.prescaler == .slowest && wanted < clock.frequency

end Clock

end SpiProgrammer.Bridge
