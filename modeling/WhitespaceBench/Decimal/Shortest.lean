import WhitespaceBench.Decimal.Binary

namespace WhitespaceBench
namespace Decimal

/-!
# The fewest digits that read back

The reals that round to a binary64 number form an interval around it, whose ends
belong to it exactly when the significand is even.  For one digit, two digits and
so on, the two neighbours of the number on that decimal grid are tried; the first
grid with a neighbour inside the interval gives the digits, the nearer neighbour
winning if both are inside.  Where both are equally near, formats differ in which one
they take.
-/

/-- Which of two equally near neighbours is taken. -/
inductive Tie where
  | toEven
  | upward
deriving Repr, DecidableEq

/-- A decimal number: an integer with a power of ten. -/
structure Digits where
  number : Nat
  exponent : Int
deriving Repr, DecidableEq

namespace Digits

/-- Drops trailing zeros of the integer, at most as many as the bound says. -/
def trimmed : Nat -> Digits -> Digits
  | 0, digits => digits
  | bound + 1, digits =>
      if digits.number ≠ 0 ∧ digits.number % 10 = 0 then
        trimmed bound ⟨digits.number / 10, digits.exponent + 1⟩
      else digits

end Digits

/-- The interval of reals that round to a positive number. -/
structure Interval where
  low : Ratio
  high : Ratio
  closed : Bool

namespace Interval

/-- The interval of m · 2^q.  Below a power of two the spacing is half as wide. -/
def around (significand : Nat) (exponent : Int) : Interval :=
  let high := Ratio.scaled (2 * significand + 1) (exponent - 1)
  let low :=
    if significand = Binary.hidden ∧ -1074 < exponent then
      Ratio.scaled (4 * significand - 1) (exponent - 2)
    else Ratio.scaled (2 * significand - 1) (exponent - 1)
  ⟨low, high, decide (significand % 2 = 0)⟩

/-- Whether a fraction rounds to the number. -/
def holds (interval : Interval) (value : Ratio) : Bool :=
  if interval.closed then interval.low.atMost value && value.atMost interval.high
  else interval.low.less value && value.less interval.high

end Interval

/-- The power of ten of the leading digit, found by counting up from below. -/
def leadingPower (value : Ratio) : Nat -> Int -> Int
  | 0, power => power
  | bound + 1, power =>
      if (Ratio.decimal 1 (power + 1)).atMost value then leadingPower value bound (power + 1)
      else power

/-- The neighbour of the value on a decimal grid that reads back, if there is one. -/
def onGrid (tie : Tie) (value : Ratio) (interval : Interval) (exponent : Int) :
    Option Digits :=
  let unit := Ratio.decimal 1 exponent
  let below := (value.numerator * unit.denominator) / (value.denominator * unit.numerator)
  let low := Ratio.decimal below exponent
  let high := Ratio.decimal (below + 1) exponent
  let lowHit := decide (0 < below) && interval.holds low
  let highHit := interval.holds high
  if lowHit && highHit then
    let twice := Ratio.mk (2 * value.numerator) value.denominator
    let middle := Ratio.mk
      (low.numerator * high.denominator + high.numerator * low.denominator)
      (low.denominator * high.denominator)
    if twice.less middle then some ⟨below, exponent⟩
    else if middle.less twice then some ⟨below + 1, exponent⟩
    else if tie = .toEven ∧ below % 2 = 0 then some ⟨below, exponent⟩
    else some ⟨below + 1, exponent⟩
  else if lowHit then some ⟨below, exponent⟩
  else if highHit then some ⟨below + 1, exponent⟩
  else none

/-- Tries ever finer grids, from one digit on. -/
def refine (tie : Tie) (value : Ratio) (interval : Interval) : Nat -> Int -> Digits
  | 0, exponent => ⟨(Ratio.mk value.numerator value.denominator).floor, exponent⟩
  | bound + 1, exponent =>
      match onGrid tie value interval exponent with
      | some digits => digits
      | none => refine tie value interval bound (exponent - 1)

/-- The shortest digits of m · 2^q that read back, without trailing zeros. -/
def shortest (tie : Tie) (significand : Nat) (exponent : Int) : Digits :=
  if significand = 0 then ⟨0, 0⟩
  else
    let value := Ratio.scaled significand exponent
    let power := leadingPower value 700 (-330)
    (refine tie value (Interval.around significand exponent) 18 power).trimmed 20

end Decimal
end WhitespaceBench
