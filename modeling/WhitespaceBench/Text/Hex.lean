namespace WhitespaceBench
namespace Text
namespace Hex

/-!
# Lowercase hexadecimal

Bytes are written as two digits each, words with a fixed number of digits.
-/

def digit (number : Nat) : Char :=
  if number < 10 then Char.ofNat (0x30 + number) else Char.ofNat (0x61 + (number - 10))

/-- The last `width` hexadecimal digits of a number, most significant first. -/
def digits : (width : Nat) -> Nat -> List Char
  | 0, _ => []
  | width + 1, number => digits width (number / 16) ++ [digit (number % 16)]

/-- Two digits for each byte. -/
def ofBytes (bytes : List UInt8) : String :=
  String.ofList (bytes.flatMap fun byte => digits 2 byte.toNat)

/-- The value of a hexadecimal digit of either case. -/
def value? (character : Char) : Option Nat :=
  let code := character.toNat
  if 0x30 ≤ code ∧ code ≤ 0x39 then some (code - 0x30)
  else if 0x61 ≤ code ∧ code ≤ 0x66 then some (code - 0x61 + 10)
  else if 0x41 ≤ code ∧ code ≤ 0x46 then some (code - 0x41 + 10)
  else none

/-- The number written by hexadecimal digits; none if one of them is no digit. -/
def number? (characters : List Char) : Option Nat :=
  characters.foldlM (fun total character => (value? character).map (total * 16 + ·)) 0

end Hex
end Text
end WhitespaceBench
