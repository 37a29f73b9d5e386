import WhitespaceBench.Decimal.Binary
import WhitespaceBench.Text.Hex
import WhitespaceBench.Toml.Value

namespace WhitespaceBench
namespace Toml

/-!
# Numbers, dates and times

Integers are decimal, or hexadecimal, octal or binary with a mark in front, and fit
in 64 bits with a sign.  An underscore may stand between two digits.  A number with
a fraction or an exponent is the nearest binary64 number; one above all of these is
refused, one below all of these is minus infinity.

Four digits and a hyphen start a date, two digits and a colon a time.
-/

def isDigit (character : Char) : Bool :=
  decide (0x30 ≤ character.toNat) && decide (character.toNat ≤ 0x39)

def digit? (base : Nat) (character : Char) : Option Nat :=
  match Text.Hex.value? character with
  | none => none
  | some value => if value < base then some value else none

/-- The digits behind a first one, with single underscores between them, and what
follows.  An underscore has to be followed by a digit. -/
def moreDigits (base : Nat) : List Char -> Option (List Nat × List Char)
  | [] => some ([], [])
  | ['_'] => none
  | '_' :: character :: rest =>
      match digit? base character, moreDigits base rest with
      | some value, some (more, behind) => some (value :: more, behind)
      | _, _ => none
  | character :: rest =>
      match digit? base character with
      | none => some ([], character :: rest)
      | some value =>
          match moreDigits base rest with
          | none => none
          | some (more, behind) => some (value :: more, behind)

/-- The digits of a text from one that has to be there, and what follows. -/
def digitRun (base : Nat) : List Char -> Option (List Nat × List Char)
  | [] => none
  | character :: rest =>
      match digit? base character, moreDigits base rest with
      | some value, some (more, behind) => some (value :: more, behind)
      | _, _ => none

def number (base : Nat) (digits : List Nat) : Nat :=
  digits.foldl (fun total digit => total * base + digit) 0

def integer? (number : Int) : Option Scalar :=
  if -0x8000000000000000 ≤ number ∧ number < 0x8000000000000000 then
    some (.integer (Int64.ofInt number))
  else none

/-- The nearest binary64 number of digits and a power of ten.  Numbers far outside
the range of binary64 are told by their size alone. -/
def nearest (digits : List Nat) (exponent : Int) : Float :=
  let significand := number 10 digits
  let power : Int := digits.length + exponent
  if significand = 0 ∨ power < -400 then 0.0
  else if 400 + (digits.length : Int) < power then 1.0 / 0.0
  else (Decimal.Ratio.decimal significand exponent).toFloat

/-- A floating-point number with its sign, unless it is too large. -/
def float? (negative : Bool) (magnitude : Float) : Option Scalar :=
  if negative then some (.float (-magnitude))
  else if magnitude.isInf then none
  else some (.float magnitude)

/-- The exponent behind its mark. -/
def exponent? (text : List Char) : Option (Int × List Char) :=
  let signed : Bool × List Char :=
    match text with
    | '+' :: rest => (false, rest)
    | '-' :: rest => (true, rest)
    | _ => (false, text)
  match digitRun 10 signed.2 with
  | none => none
  | some (digits, rest) =>
      let size : Int := number 10 digits
      some (if signed.1 then -size else size, rest)

/-- The digits in front of a point.  A zero in front stands alone. -/
def wholePart? : List Char -> Option (List Nat × List Char)
  | '0' :: rest => some ([0], rest)
  | text => digitRun 10 text

/-- Reads on behind the digits in front of the point. -/
def afterWhole (negative : Bool) (whole : List Nat) (text : List Char) :
    Option (Scalar × List Char) :=
  match text with
  | '.' :: rest =>
      match digitRun 10 rest with
      | none => none
      | some (fraction, behind) =>
          let scaled (power : Int) : Float := nearest (whole ++ fraction) (power - fraction.length)
          match behind with
          | 'e' :: others | 'E' :: others =>
              match exponent? others with
              | none => none
              | some (power, left) => (float? negative (scaled power)).map fun read => (read, left)
          | _ => (float? negative (scaled 0)).map fun read => (read, behind)
  | 'e' :: others | 'E' :: others =>
      match exponent? others with
      | none => none
      | some (power, left) =>
          (float? negative (nearest whole power)).map fun read => (read, left)
  | _ =>
      let size : Int := number 10 whole
      (integer? (if negative then -size else size)).map fun read => (read, text)

/-- The word for infinity, or the word for what is no number. -/
def specialFloat (negative : Bool) : List Char -> Option (Scalar × List Char)
  | 'i' :: 'n' :: 'f' :: rest =>
      some (.float (if negative then -(1.0 / 0.0) else 1.0 / 0.0), rest)
  | 'n' :: 'a' :: 'n' :: rest => some (.float (0.0 / 0.0), rest)
  | _ => none

/-- A decimal number behind its sign. -/
def decimal (negative : Bool) (text : List Char) : Option (Scalar × List Char) :=
  match wholePart? text with
  | none => none
  | some (whole, rest) => afterWhole negative whole rest

def signedNumber (negative : Bool) (text : List Char) : Option (Scalar × List Char) :=
  match specialFloat negative text with
  | some read => some read
  | none => decimal negative text

/-- An integer in another base, behind its mark. -/
def marked (base : Nat) (text : List Char) : Option (Scalar × List Char) :=
  match digitRun base text with
  | none => none
  | some (digits, rest) => (integer? (number base digits)).map fun read => (read, rest)

/-- A number of two digits between bounds, and what follows. -/
def twoDigits? (least greatest : Nat) : List Char -> Option (Nat × List Char)
  | tens :: units :: rest =>
      match digit? 10 tens, digit? 10 units with
      | some first, some second =>
          if least ≤ first * 10 + second ∧ first * 10 + second ≤ greatest then
            some (first * 10 + second, rest)
          else none
      | _, _ => none
  | _ => none

/-- The text behind a character that has to be there. -/
def expect? (wanted : Char) : List Char -> Option (List Char)
  | [] => none
  | character :: rest => if character = wanted then some rest else none

/-- The text behind a fraction of a second, if there is one. -/
def skipFraction (text : List Char) : List Char :=
  match text with
  | '.' :: rest =>
      if (rest.takeWhile isDigit).isEmpty then text else rest.dropWhile isDigit
  | _ => text

/-- The text behind hours, minutes and seconds.  A minute may have a leap second. -/
def skipTime? (text : List Char) : Option (List Char) := do
  let (_, afterHour) <- twoDigits? 0 23 text
  let minute <- expect? ':' afterHour
  let (_, afterMinute) <- twoDigits? 0 59 minute
  let second <- expect? ':' afterMinute
  let (_, afterSecond) <- twoDigits? 0 60 second
  return skipFraction afterSecond

/-- The text behind an offset from universal time, if there is one; a broken one has
no text behind it. -/
def skipOffset? (text : List Char) : Option (List Char) :=
  match text with
  | 'Z' :: rest | 'z' :: rest => some rest
  | '+' :: rest | '-' :: rest => do
      let (_, afterHour) <- twoDigits? 0 23 rest
      let minute <- expect? ':' afterHour
      let (_, afterMinute) <- twoDigits? 0 59 minute
      return afterMinute
  | _ => some text

def daysOfMonth (year month : Nat) : Nat :=
  if month = 2 then
    if year % 4 = 0 ∧ (year % 100 ≠ 0 ∨ year % 400 = 0) then 29 else 28
  else if month = 4 ∨ month = 6 ∨ month = 9 ∨ month = 11 then 30
  else 31

/-- The text behind a time of day that follows a date, if one does. -/
def skipTimeOfDay? (text : List Char) : Option (List Char) :=
  match text with
  | mark :: rest =>
      if mark = 'T' ∨ mark = 't' ∨ mark = ' ' then
        match skipTime? rest with
        | none => some text
        | some behind => skipOffset? behind
      else some text
  | [] => some []

/-- The text behind a date, given its year and what follows the first hyphen. -/
def skipDate? (year : Nat) (text : List Char) : Option (List Char) := do
  let (month, afterMonth) <- twoDigits? 1 12 text
  let day <- expect? '-' afterMonth
  let (_, afterDay) <- twoDigits? 1 (daysOfMonth year month) day
  skipTimeOfDay? afterDay

/-- The year of a date that a text starts with, and what follows its first hyphen. -/
def year? : List Char -> Option (Nat × List Char)
  | first :: second :: third :: fourth :: '-' :: rest =>
      match [first, second, third, fourth].mapM (digit? 10) with
      | none => none
      | some digits => some (number 10 digits, rest)
  | _ => none

/-- Whether a text starts with two digits and a colon. -/
def startsTime : List Char -> Bool
  | first :: second :: ':' :: _ => isDigit first && isDigit second
  | _ => false

/-- A number, a date or a time. -/
def numeric (text : List Char) : Option (Scalar × List Char) :=
  match year? text with
  | some (year, rest) => (skipDate? year rest).map fun behind => (.dateTime, behind)
  | none =>
      if startsTime text then (skipTime? text).map fun behind => (.dateTime, behind)
      else
        match text with
        | '0' :: 'x' :: rest => marked 16 rest
        | '0' :: 'o' :: rest => marked 8 rest
        | '0' :: 'b' :: rest => marked 2 rest
        | '+' :: rest => signedNumber false rest
        | '-' :: rest => signedNumber true rest
        | _ => decimal false text

end Toml
end WhitespaceBench
