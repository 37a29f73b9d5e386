import WhitespaceBench.Decimal.Shortest

namespace WhitespaceBench
namespace Decimal

/-!
# Texts of binary64 numbers

A shortest decimal is written in a layout: which of two equally near decimals is taken, for
which leading powers of ten the digits are written in place, and how an exponent looks
otherwise.  A whole number always keeps its `.0`.  With a fixed number of places the exact
binary value is rounded once instead; a tie goes to the even neighbour.
-/

/-- How a shortest decimal is chosen and laid out. -/
structure Layout where
  tie : Tie
  /-- The leading powers of ten that are written in place; all of them if none. -/
  positional : Option (Int × Int)
  /-- Whether a positive exponent carries its sign. -/
  plusSign : Bool
  notANumber : String
  infinite : String

namespace Layout

/-- Everything in place, however long; a tie goes upward. -/
def plain : Layout := ⟨.upward, none, false, "NaN", "inf"⟩

/-- In place from 0.00001 to below 10^16, and else with a signed exponent; a tie goes to
the even neighbour. -/
def scientific : Layout := ⟨.toEven, some (-5, 15), true, "NaN", "inf"⟩

end Layout

/-- The digits in place, with the point where the exponent puts it. -/
def Digits.inPlace (digits : Digits) : String :=
  let text := (toString digits.number).toList
  match digits.exponent with
  | .ofNat power => String.ofList (text ++ List.replicate power '0') ++ ".0"
  | .negSucc power =>
      let places := power + 1
      if places < text.length then
        String.ofList (text.take (text.length - places)) ++ "." ++
          String.ofList (text.drop (text.length - places))
      else
        "0." ++ String.ofList (List.replicate (places - text.length) '0' ++ text)

/-- One digit, the other digits behind the point, and the exponent. -/
def Digits.withExponent (plusSign : Bool) (digits : Digits) : String :=
  let text := (toString digits.number).toList
  let power := digits.exponent + ((text.length : Int) - 1)
  let head := String.ofList (text.take 1)
  let tail := String.ofList (text.drop 1)
  let mantissa := if tail.isEmpty then head else head ++ "." ++ tail
  let sign := if power < 0 then "-" else if plusSign then "+" else ""
  mantissa ++ "e" ++ sign ++ toString power.natAbs

def Layout.text (layout : Layout) (number : Float) : String :=
  match Binary.ofFloat number with
  | .notANumber => layout.notANumber
  | .infinite negative => (if negative then "-" else "") ++ layout.infinite
  | .finite negative significand exponent =>
      let digits := shortest layout.tie significand exponent
      let power := digits.exponent + (((toString digits.number).length : Int) - 1)
      let body :=
        match layout.positional with
        | none => digits.inPlace
        | some (least, greatest) =>
            if least ≤ power ∧ power ≤ greatest then digits.inPlace
            else digits.withExponent layout.plusSign
      (if negative then "-" else "") ++ body

/-- A number with `places` digits written behind the point. -/
def placed (places number : Nat) : String :=
  let digits := toString (number / Nat.pow 10 places)
  if places = 0 then digits
  else
    let fraction := toString (number % Nat.pow 10 places)
    digits ++ "." ++ String.ofList (List.replicate (places - fraction.length) '0') ++ fraction

def fixed (places : Nat) (number : Float) : String :=
  match Binary.ofFloat number with
  | .notANumber => "NaN"
  | .infinite negative => if negative then "-inf" else "inf"
  | .finite negative significand exponent =>
      let value := Ratio.scaled significand exponent
      let rounded := (Ratio.mk (value.numerator * Nat.pow 10 places) value.denominator).nearest
      (if negative then "-" else "") ++ placed places rounded

end Decimal
end WhitespaceBench
