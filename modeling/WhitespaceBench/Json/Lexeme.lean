import WhitespaceBench.Json.Tree
import WhitespaceBench.Text.Hex

namespace WhitespaceBench
namespace Json

/-!
# Strings and numbers of JSON

A string literal is read in two steps: first its pieces, that is characters and
16-bit units from escapes, and then the characters that the pieces make up; two
units that form a surrogate pair make one character, and a unit of a pair that
stands alone makes none.

An integer literal is exact as long as it fits in 64 bits.  Any other number is a
floating-point number: as many leading digits as fit in 64 bits are kept, and the
result is scaled by a power of ten in one or a few roundings.
-/

def isBlank (character : Char) : Bool :=
  character == ' ' || character == '\n' || character == '\t' || character == '\r'

def skipBlanks (text : List Char) : List Char :=
  text.dropWhile isBlank

inductive Piece where
  | character (character : Char)
  | unit (code : Nat)
deriving Repr, DecidableEq

def shortEscape? (letter : Char) : Option Char :=
  if letter = '\x22' then some '\x22'
  else if letter = '\\' then some '\\'
  else if letter = '/' then some '/'
  else if letter = 'b' then some '\x08'
  else if letter = 'f' then some '\x0c'
  else if letter = 'n' then some '\n'
  else if letter = 'r' then some '\r'
  else if letter = 't' then some '\t'
  else none

/-- The pieces of a string literal behind its opening quote, and the text behind
its closing quote. -/
def pieces : List Char -> Option (List Piece × List Char)
  | [] => none
  | '\x22' :: rest => some ([], rest)
  | '\\' :: 'u' :: first :: second :: third :: fourth :: rest =>
      match Text.Hex.number? [first, second, third, fourth], pieces rest with
      | some code, some (others, left) => some (.unit code :: others, left)
      | _, _ => none
  | '\\' :: letter :: rest =>
      match shortEscape? letter, pieces rest with
      | some character, some (others, left) => some (.character character :: others, left)
      | _, _ => none
  | character :: rest =>
      if character = '\\' ∨ character.toNat < 0x20 then none
      else
        match pieces rest with
        | some (others, left) => some (.character character :: others, left)
        | none => none

/-- The characters that pieces make up; none if a surrogate stands alone. -/
def characters? : List Piece -> Option (List Char)
  | [] => some []
  | .character character :: rest => (characters? rest).map (character :: ·)
  | .unit high :: .unit low :: rest =>
      if 0xD800 ≤ high ∧ high < 0xDC00 then
        if 0xDC00 ≤ low ∧ low < 0xE000 then
          (characters? rest).map
            (Char.ofNat (0x10000 + (high - 0xD800) * 0x400 + (low - 0xDC00)) :: ·)
        else none
      else if 0xDC00 ≤ high ∧ high < 0xE000 then none
      else (characters? (.unit low :: rest)).map (Char.ofNat high :: ·)
  | .unit code :: rest =>
      if 0xD800 ≤ code ∧ code < 0xE000 then none
      else (characters? rest).map (Char.ofNat code :: ·)

def isDigit (character : Char) : Bool :=
  decide (0x30 ≤ character.toNat) && decide (character.toNat ≤ 0x39)

def digitValue (character : Char) : Nat :=
  character.toNat - 0x30

/-- The leading digits of a text, and what follows them. -/
def digits (text : List Char) : List Char × List Char :=
  (text.takeWhile isDigit, text.dropWhile isDigit)

def natural (characters : List Char) : Nat :=
  characters.foldl (fun total character => total * 10 + digitValue character) 0

def wordLimit : Nat := 0xFFFFFFFFFFFFFFFF

/-- Takes on integer digits as long as the number stays a 64-bit word; each digit
from the first that does not fit counts as a power of ten. -/
def takeWhole : List Char -> Nat -> Nat × Nat
  | [], kept => (kept, 0)
  | character :: rest, kept =>
      if kept * 10 + digitValue character ≤ wordLimit then
        takeWhole rest (kept * 10 + digitValue character)
      else (kept, rest.length + 1)

/-- Takes on digits behind the point as long as they fit, and drops the others.
The second result is the number of digits taken. -/
def takeFraction : List Char -> Nat -> Nat × Nat
  | [], kept => (kept, 0)
  | character :: rest, kept =>
      if kept * 10 + digitValue character ≤ wordLimit then
        let (total, taken) := takeFraction rest (kept * 10 + digitValue character)
        (total, taken + 1)
      else (kept, 0)

/-- Scales a number by a power of ten, in steps that are powers themselves.  There
is no result if the number becomes too large. -/
def scaleSteps : Nat -> Float -> Int -> Option Float
  | 0, _, _ => some 0.0
  | bound + 1, number, exponent =>
      if exponent.natAbs ≤ 308 then
        let power := Float.ofScientific 1 false exponent.natAbs
        if 0 ≤ exponent then
          if (number * power).isFinite then some (number * power) else none
        else some (number / power)
      else if number == 0.0 then some number
      else if 0 ≤ exponent then none
      else scaleSteps bound (number / Float.ofScientific 1 false 308) (exponent + 308)

/-- The floating-point number of a 64-bit significand and a power of ten. -/
def scaled? (significand : Nat) (exponent : Int) : Option Float :=
  scaleSteps 8 (UInt64.ofNat significand).toFloat exponent

/-- The largest exponent that is read exactly. -/
def exponentLimit : Nat := 0x7FFFFFFF

/-- The number with an exponent as written.  An exponent beyond all limits makes
zero, or a number that is too large. -/
def withExponent? (significand : Nat) (start : Int) (negative : Bool) (exponent : Nat) :
    Option Float :=
  if exponent ≤ exponentLimit then
    scaled? significand (if negative then start - exponent else start + exponent)
  else if significand ≠ 0 ∧ !negative then none
  else some 0.0

/-- What an exponent part says: whether it is negative, and its digits. -/
def exponentPart? (text : List Char) : Option (Bool × List Char × List Char) :=
  let (negative, rest) : Bool × List Char :=
    match text with
    | '+' :: rest => (false, rest)
    | '-' :: rest => (true, rest)
    | _ => (false, text)
  match digits rest with
  | ([], _) => none
  | (written, left) => some (negative, written, left)

def signed (negative : Bool) (number : Option Float) : Tree :=
  match number with
  | none => .valueless
  | some value => .number (.float (if negative then -value else value))

def integer (negative : Bool) (whole : List Char) : Tree :=
  let number := natural whole
  if negative then
    if 0 < number ∧ number ≤ 0x8000000000000000 then .number (.negative number)
    else
      let (kept, dropped) := takeWhole whole 0
      signed true (scaled? kept dropped)
  else if number ≤ wordLimit then .number (.natural number)
  else
    let (kept, dropped) := takeWhole whole 0
    signed false (scaled? kept dropped)

/-- Reads on behind the digits in front of the point. -/
def afterWhole (negative : Bool) (whole : List Char) (text : List Char) : Tree × List Char :=
  let (kept, dropped) := takeWhole whole 0
  match text with
  | '.' :: rest =>
      match digits rest with
      | ([], _) => (.broken, [])
      | (fraction, left) =>
          let (total, taken) := takeFraction fraction kept
          let start : Int := (dropped : Int) - taken
          match left with
          | 'e' :: more | 'E' :: more =>
              match exponentPart? more with
              | none => (.broken, [])
              | some (down, written, behind) =>
                  (signed negative (withExponent? total start down (natural written)), behind)
          | _ => (signed negative (scaled? total start), left)
  | 'e' :: more | 'E' :: more =>
      match exponentPart? more with
      | none => (.broken, [])
      | some (down, written, behind) =>
          (signed negative (withExponent? kept dropped down (natural written)), behind)
  | _ => (integer negative whole, text)

/-- Reads a number without its sign.  A zero in front stands alone. -/
def unsignedNumber (negative : Bool) (text : List Char) : Tree × List Char :=
  match digits text with
  | ([], _) => (.broken, [])
  | ('0' :: [], left) => afterWhole negative ['0'] left
  | ('0' :: _ :: _, _) => (.broken, [])
  | (whole, left) => afterWhole negative whole left

end Json
end WhitespaceBench
