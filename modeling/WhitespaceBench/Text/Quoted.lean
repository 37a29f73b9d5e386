import WhitespaceBench.Text.Hex
import WhitespaceBench.Text.Printable

namespace WhitespaceBench
namespace Text
namespace Quoted

/-!
# Quoted text

Text inside a message is written between double quotes.  Quotes, backslashes and
the common controls get a short escape, and every other character that is not
printable is written by its code point.
-/

def quote : Char := '\x22'

/-- The hexadecimal digits of a number, without leading zeros. -/
def codeDigits (code : Nat) : List Char :=
  match (Hex.digits 6 code).dropWhile (· == '0') with
  | [] => ['0']
  | digits => digits

/-- One character as it stands between the quotes. -/
def escaped (character : Char) : List Char :=
  if character = quote then ['\\', quote]
  else if character = '\\' then ['\\', '\\']
  else if character = '\n' then ['\\', 'n']
  else if character = '\r' then ['\\', 'r']
  else if character = '\t' then ['\\', 't']
  else if character.toNat = 0 then ['\\', '0']
  else if Printable.isPrintable character then [character]
  else ['\\', 'u', '\x7b'] ++ codeDigits character.toNat ++ ['\x7d']

/-- One character as it stands between single quotes.  Only the quote around a character
needs an escape in front of it. -/
def escapedAlone (character : Char) : List Char :=
  if character = '\x27' then ['\\', '\x27']
  else if character = quote then [quote]
  else escaped character

end Quoted

/-- A character between single quotes, with an escape if it needs one. -/
def quotedCharacter (character : Char) : String :=
  String.ofList ('\x27' :: Quoted.escapedAlone character ++ ['\x27'])

def quoted (text : String) : String :=
  String.ofList (Quoted.quote :: text.toList.flatMap Quoted.escaped ++ [Quoted.quote])

end Text
end WhitespaceBench
