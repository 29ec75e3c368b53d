import FailoverPool.Bytes

/-!
Binary floating-point formats: what the bits of a number mean.
-/

namespace FailoverPool

/-- A binary interchange format, given by the widths of its fraction and exponent fields. -/
structure FloatFormat where
  fractionBits : Nat
  exponentBits : Nat
  deriving DecidableEq

namespace FloatFormat

def single : FloatFormat := ⟨23, 8⟩

def double : FloatFormat := ⟨52, 11⟩

/-- What a bit pattern stands for. A finite number is `mantissa * 2 ^ exponent`; `isBoundary` says
that the number below it lies half as far away as the number above it. -/
inductive Meaning where
  | notANumber
  | infinite (negative : Bool)
  | finite (negative : Bool) (mantissa : Nat) (exponent : Int) (isBoundary : Bool)
  deriving DecidableEq, Repr

/-- The exponent of the last place of the smallest numbers. -/
def leastExponent (format : FloatFormat) : Int :=
  2 - 2 ^ (format.exponentBits - 1) - format.fractionBits

def meaning (format : FloatFormat) (bits : Nat) : Meaning :=
  let fraction := bits % 2 ^ format.fractionBits
  let biased := bits / 2 ^ format.fractionBits % 2 ^ format.exponentBits
  let negative := bits / 2 ^ (format.fractionBits + format.exponentBits) % 2 == 1
  if biased = 2 ^ format.exponentBits - 1 then
    if fraction = 0 then .infinite negative else .notANumber
  else if biased = 0 then .finite negative fraction format.leastExponent false
  else
    .finite negative (2 ^ format.fractionBits + fraction) (format.leastExponent + (biased - 1))
      (fraction == 0 && biased > 1)

end FloatFormat
end FailoverPool
