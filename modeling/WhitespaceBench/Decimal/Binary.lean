namespace WhitespaceBench
namespace Decimal

/-!
# The exact value of a binary64 number

The finite numbers are m · 2^q with a sign.  All text forms are computed from
the integers m and q and never from an intermediate rounded number.

The nearest number to a positive fraction is found by dividing the fraction by the unit in
the last place of the numbers of its size, and the quotient is rounded once.  Bit patterns
of positive numbers are in the order of the numbers, so a quotient that is rounded up to
the next power of two needs no special care.
-/

/-- A binary64 number taken apart. -/
inductive Binary where
  | notANumber
  | infinite (negative : Bool)
  | finite (negative : Bool) (significand : Nat) (exponent : Int)
deriving Repr, DecidableEq

namespace Binary

/-- The leading bit of a significand, which a bit pattern leaves out: 2^52. -/
def hidden : Nat := 0x10000000000000

/-- Takes the bit pattern of a number apart. -/
def ofBits (bits : UInt64) : Binary :=
  let pattern : Nat := bits.toNat
  let negative := decide (0x8000000000000000 ≤ pattern)
  let biased : Nat := pattern / hidden % 2048
  let trailing : Nat := pattern % hidden
  if biased = 2047 then
    if trailing = 0 then .infinite negative else .notANumber
  else if biased = 0 then .finite negative trailing (-1074)
  else .finite negative (hidden + trailing) ((biased : Int) - 1075)

def ofFloat (number : Float) : Binary :=
  ofBits number.toBits

end Binary

/-- A positive fraction, for comparisons without rounding. -/
structure Ratio where
  numerator : Nat
  denominator : Nat
deriving Repr, DecidableEq

namespace Ratio

/-- The fraction n · 2^q. -/
def scaled (number : Nat) (exponent : Int) : Ratio :=
  match exponent with
  | .ofNat power => ⟨number * Nat.pow 2 power, 1⟩
  | .negSucc power => ⟨number, Nat.pow 2 (power + 1)⟩

/-- The fraction n · 10^k. -/
def decimal (number : Nat) (exponent : Int) : Ratio :=
  match exponent with
  | .ofNat power => ⟨number * Nat.pow 10 power, 1⟩
  | .negSucc power => ⟨number, Nat.pow 10 (power + 1)⟩

def less (first second : Ratio) : Bool :=
  decide (first.numerator * second.denominator < second.numerator * first.denominator)

def atMost (first second : Ratio) : Bool :=
  decide (first.numerator * second.denominator ≤ second.numerator * first.denominator)

def floor (ratio : Ratio) : Nat :=
  ratio.numerator / ratio.denominator

/-- The nearest integer, a tie going to the even neighbour. -/
def nearest (ratio : Ratio) : Nat :=
  let below := ratio.numerator / ratio.denominator
  let rest := ratio.numerator % ratio.denominator
  if 2 * rest < ratio.denominator then below
  else if ratio.denominator < 2 * rest then below + 1
  else if below % 2 = 0 then below
  else below + 1

/-- The exponent of the leading bit of a positive fraction. -/
def leadingBit (ratio : Ratio) : Int :=
  let guess : Int := (ratio.numerator.log2 : Int) - ratio.denominator.log2
  if (scaled 1 guess).atMost ratio then guess else guess - 1

/-- The exponent of the unit in the last place. -/
def lastPlace (ratio : Ratio) : Int :=
  max (ratio.leadingBit - 52) (-1074)

/-- The bit pattern of the nearest number, infinity for all that is too large. -/
def nearestBits (ratio : Ratio) : Nat :=
  if ratio.numerator = 0 then 0
  else
    let place := ratio.lastPlace
    let unit := scaled 1 place
    let quotient :=
      Ratio.mk (ratio.numerator * unit.denominator) (ratio.denominator * unit.numerator)
    min ((place + 1074).toNat * Binary.hidden + quotient.nearest) (2047 * Binary.hidden)

def toFloat (ratio : Ratio) : Float :=
  Float.ofBits (UInt64.ofNat ratio.nearestBits)

end Ratio
end Decimal
end WhitespaceBench
