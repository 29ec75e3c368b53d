import FailoverPool.Floating.Format

/-!
Rounding a fraction to the nearest binary floating-point number.
-/

namespace FailoverPool
namespace FloatFormat

/-- The quotient of two naturals, rounded to the nearest integer; a half goes to the even one. -/
def roundQuotient (numerator denominator : Nat) : Nat :=
  let quotient := numerator / denominator
  let twice := 2 * (numerator % denominator)
  if twice > denominator || (twice == denominator && quotient % 2 == 1) then quotient + 1
  else quotient

/-- The bits of the format's number nearest to a fraction that is not negative; a tie goes to the
even mantissa, and what lies past the greatest number becomes infinity. -/
def ofRatio (format : FloatFormat) (numerator denominator : Nat) : Nat :=
  if numerator = 0 then 0
  else
    let guess : Int := Int.ofNat numerator.log2 - Int.ofNat denominator.log2 - format.fractionBits
    -- The mantissa has one bit too few when the quotient of the leading bits is less than one.
    let isShort :=
      numerator * 2 ^ (-guess).toNat < 2 ^ format.fractionBits * (denominator * 2 ^ guess.toNat)
    let exponent := max format.leastExponent (if isShort then guess - 1 else guess)
    let mantissa :=
      roundQuotient (numerator * 2 ^ (-exponent).toNat) (denominator * 2 ^ exponent.toNat)
    let bits := (exponent - format.leastExponent).toNat * 2 ^ format.fractionBits + mantissa
    min bits ((2 ^ format.exponentBits - 1) * 2 ^ format.fractionBits)

/-- The value of a finite bit pattern without its sign, as a fraction. -/
def ratio (format : FloatFormat) (bits : Nat) : Nat × Nat :=
  match format.meaning bits with
  | .finite _ mantissa exponent _ => (mantissa * 2 ^ exponent.toNat, 2 ^ (-exponent).toNat)
  | _ => (0, 1)

def add (format : FloatFormat) (left right : Nat) : Nat :=
  let (leftNumerator, leftDenominator) := format.ratio left
  let (rightNumerator, rightDenominator) := format.ratio right
  format.ofRatio (leftNumerator * rightDenominator + rightNumerator * leftDenominator)
    (leftDenominator * rightDenominator)

end FloatFormat
end FailoverPool
