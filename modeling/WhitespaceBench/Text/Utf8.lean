namespace WhitespaceBench
namespace Text
namespace Utf8

/-!
# UTF-8, strictly and leniently

The lenient reader turns every byte sequence into characters.  A well-formed
sequence contributes its character; a maximal ill-formed subpart, that is the
longest beginning of some well-formed sequence that is present, or else a single
byte, contributes one replacement character.  The reader is a small machine fed
one byte at a time.  Between bytes it remembers at most one unfinished sequence,
together with the range that the next byte has to lie in: that range depends on
the leading byte and rules out overlong forms, surrogates and everything above
U+10FFFF.
-/

/-- The character that stands for an ill-formed subpart. -/
def replacement : Char := Char.ofNat 0xFFFD

/-- What a leading byte announces: the payload it carries, the number of bytes
that follow it, and the range of the first of them. -/
structure Lead where
  payload : Nat
  needed : Nat
  low : UInt8
  high : UInt8
deriving Repr, DecidableEq

/-- The announcement of a leading byte of a multi-byte sequence. -/
def Lead.of? (byte : UInt8) : Option Lead :=
  if byte < 0xC2 then none
  else if byte ≤ 0xDF then some ⟨byte.toNat - 0xC0, 1, 0x80, 0xBF⟩
  else if byte = 0xE0 then some ⟨0x0, 2, 0xA0, 0xBF⟩
  else if byte = 0xED then some ⟨0xD, 2, 0x80, 0x9F⟩
  else if byte ≤ 0xEF then some ⟨byte.toNat - 0xE0, 2, 0x80, 0xBF⟩
  else if byte = 0xF0 then some ⟨0x0, 3, 0x90, 0xBF⟩
  else if byte ≤ 0xF3 then some ⟨byte.toNat - 0xF0, 3, 0x80, 0xBF⟩
  else if byte = 0xF4 then some ⟨0x4, 3, 0x80, 0x8F⟩
  else none

/-- The sequence that the reader is in the middle of, if any. -/
inductive Pending where
  | idle
  | awaiting (code needed : Nat) (low high : UInt8)
deriving Repr, DecidableEq

/-- The lenient reader between two bytes.  Its output is kept newest first. -/
structure Reader where
  pending : Pending
  output : List Char
deriving Repr, DecidableEq

namespace Reader

def fresh : Reader := ⟨.idle, []⟩

/-- Takes a byte that cannot continue anything. -/
def begin (output : List Char) (byte : UInt8) : Reader :=
  if byte < 0x80 then ⟨.idle, Char.ofNat byte.toNat :: output⟩
  else
    match Lead.of? byte with
    | none => ⟨.idle, replacement :: output⟩
    | some lead => ⟨.awaiting lead.payload lead.needed lead.low lead.high, output⟩

/-- Takes one byte.  A byte outside the expected range ends the unfinished
sequence with a replacement and is then read afresh. -/
def step (reader : Reader) (byte : UInt8) : Reader :=
  match reader.pending with
  | .idle => begin reader.output byte
  | .awaiting code needed low high =>
      if low ≤ byte ∧ byte ≤ high then
        if needed ≤ 1 then
          ⟨.idle, Char.ofNat (code * 64 + byte.toNat % 64) :: reader.output⟩
        else
          ⟨.awaiting (code * 64 + byte.toNat % 64) (needed - 1) 0x80 0xBF, reader.output⟩
      else begin (replacement :: reader.output) byte

/-- The characters read, an unfinished sequence counting as ill-formed. -/
def finish (reader : Reader) : List Char :=
  match reader.pending with
  | .idle => reader.output.reverse
  | .awaiting _ _ _ _ => (replacement :: reader.output).reverse

end Reader

/-- The characters of any byte sequence. -/
def lossy (bytes : List UInt8) : List Char :=
  (bytes.foldl Reader.step Reader.fresh).finish

/-- The characters of a well-formed byte sequence. -/
def decode? (bytes : List UInt8) : Option (List Char) :=
  (String.fromUTF8? bytes.toByteArray).map String.toList

def encode (text : List Char) : List UInt8 :=
  text.flatMap String.utf8EncodeChar

/-- The number of bytes that encode a character sequence. -/
def size (text : List Char) : Nat :=
  text.foldl (fun total character => total + character.utf8Size) 0

end Utf8
end Text
end WhitespaceBench
