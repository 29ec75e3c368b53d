import FailoverPool.Floating.Format

/-!
The fewest decimal digits that still single out a binary floating-point number.

Every real number closer to `mantissa * 2 ^ exponent` than to its neighbours rounds to it. The
digits sought are a multiple of the greatest power of ten that has a multiple among those reals.
-/

namespace FailoverPool
namespace Shortest

structure Ratio where
  numerator : Nat
  denominator : Nat

def Ratio.power (base : Nat) (exponent : Int) : Ratio :=
  ⟨base ^ exponent.toNat, base ^ (-exponent).toNat⟩

/-- A positive number and the ends of the interval that rounds to it, all counted in quarters of
the number's last place. The ends belong to it if the mantissa is even. -/
structure Interval where
  low : Nat
  value : Nat
  high : Nat
  closed : Bool

def Interval.ofMantissa (mantissa : Nat) (isBoundary : Bool) : Interval where
  low := 4 * mantissa - if isBoundary then 1 else 2
  value := 4 * mantissa
  high := 4 * mantissa + 2
  closed := mantissa % 2 == 0

/-- The multiple of `10 ^ power` nearest to the value among those inside the interval, whose last
place is `2 ^ exponent`; of two equally near the greater. -/
def Interval.multiple? (interval : Interval) (exponent power : Int) : Option Nat :=
  let quarter := Ratio.power 2 (exponent - 2)
  let grid := Ratio.power 10 power
  let scale := quarter.numerator * grid.denominator
  let unit := quarter.denominator * grid.numerator
  let inside (multiple : Nat) : Bool :=
    if interval.closed then
      interval.low * scale ≤ multiple * unit && multiple * unit ≤ interval.high * scale
    else interval.low * scale < multiple * unit && multiple * unit < interval.high * scale
  let value := interval.value * scale
  let lower := value / unit
  let upper := lower + 1
  match inside lower, inside upper with
  | true, true => some (if value - lower * unit < upper * unit - value then lower else upper)
  | true, false => some lower
  | false, true => some upper
  | false, false => none

/-- Try powers of ten downwards from one until a multiple is inside the interval. -/
def search (interval : Interval) (exponent : Int) : (tries : Nat) → (power : Int) → Nat × Int
  | 0, power => (interval.value, power)
  | tries + 1, power =>
      match interval.multiple? exponent power with
      | some multiple => (multiple, power)
      | none => search interval exponent tries (power - 1)

/-- Digits and a power of ten whose product singles out `mantissa * 2 ^ exponent`. No number of a
64-bit format reaches 10 ^ 309, and none needs a finer grid than 10 ^ -345. -/
def digits (mantissa : Nat) (exponent : Int) (isBoundary : Bool) : Nat × Int :=
  search (.ofMantissa mantissa isBoundary) exponent 655 309

/-- `digits * 10 ^ power` in positional notation, without a point if it is whole. -/
def positional (digits : Nat) (power : Int) : String :=
  let text := Nat.toDigits 10 digits
  if 0 ≤ power then String.ofList (text ++ List.replicate power.toNat '0')
  else
    let places := (-power).toNat
    let padded := List.replicate (places + 1 - text.length) '0' ++ text
    let whole := padded.length - places
    String.ofList (padded.take whole ++ '.' :: padded.drop whole)

end Shortest

/-- The text of a number: the fewest digits that single it out, never with an exponent, and no
fraction if it is whole. -/
def FloatFormat.display (format : FloatFormat) (bits : Nat) : String :=
  match format.meaning bits with
  | .notANumber => "NaN"
  | .infinite negative => if negative then "-inf" else "inf"
  | .finite negative mantissa exponent isBoundary =>
      let magnitude :=
        if mantissa = 0 then "0"
        else
          let (digits, power) := Shortest.digits mantissa exponent isBoundary
          Shortest.positional digits power
      if negative then "-" ++ magnitude else magnitude

end FailoverPool
