import WhitespaceBench.Logging.Pattern

namespace WhitespaceBench
namespace Logging

/-!
# Fields of a directive

A directive can ask for fields by name, and for the value of a field by a number or a
pattern behind an equals sign.  Nothing behind a second equals sign is looked at.
-/

/-- A field that an event has to have, and whether a value is asked for. -/
structure FieldPattern where
  name : List Char
  valued : Bool
deriving Repr, DecidableEq

inductive FieldFault where
  | missing
  | value (fault : Pattern.Fault)
deriving Repr, DecidableEq

def withoutSign : List Char -> List Char
  | '+' :: rest => rest
  | '-' :: rest => rest
  | text => text

/-- Whether a text is empty or the exponent of a number. -/
def isExponent : List Char -> Bool
  | [] => true
  | letter :: rest =>
      (letter == 'e' || letter == 'E') && !(withoutSign rest).isEmpty &&
        (withoutSign rest).all Char.isDigit

/-- Whether a text is a decimal number without a sign.  There is a digit in front of the
point or behind it. -/
def isDecimal (text : List Char) : Bool :=
  let whole := text.takeWhile Char.isDigit
  match text.dropWhile Char.isDigit with
  | '.' :: rest =>
      (!whole.isEmpty || !(rest.takeWhile Char.isDigit).isEmpty) &&
        isExponent (rest.dropWhile Char.isDigit)
  | rest => !whole.isEmpty && isExponent rest

/-- Whether a text is a number, infinite ones and the one that is none included. -/
def isNumber (text : List Char) : Bool :=
  let size := withoutSign text
  isDecimal size ||
    ["inf", "infinity", "nan"].contains (String.ofList (size.map Char.toLower))

/-- What is wrong with the value of a field. -/
def valueFault? (value : List Char) : Option Pattern.Fault :=
  if isNumber value then none else Pattern.fault? value

/-- Reads a field, which is a name, or a name and a value. -/
def FieldPattern.parse (text : List Char) : Except FieldFault FieldPattern :=
  let name := text.takeWhile (· != '=')
  if text.isEmpty then .error .missing
  else
    match text.dropWhile (· != '=') with
    | [] => .ok ⟨name, false⟩
    | _ :: rest =>
        match valueFault? (rest.takeWhile (· != '=')) with
        | some fault => .error (.value fault)
        | none => .ok ⟨name, true⟩

end Logging
end WhitespaceBench
