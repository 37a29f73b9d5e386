import WhitespaceBench.Text.Hex
import WhitespaceBench.Text.Utf8

namespace WhitespaceBench

/-!
# Buffers

A buffer is the immutable sequence of bytes that every pass scans.  It is shorter
than 2^63 bytes, the most that can be addressed, so its length and every count
over it fit in a 64-bit word.
-/

/-- An immutable sequence of bytes that can be addressed. -/
structure Buffer where
  bytes : List UInt8
  length_lt : bytes.length < 0x8000000000000000

namespace Buffer

/-- The buffer of a byte sequence that is not too long for one. -/
def ofBytes? (bytes : List UInt8) : Option Buffer :=
  if fits : bytes.length < 0x8000000000000000 then some ⟨bytes, fits⟩ else none

def length (buffer : Buffer) : Nat := buffer.bytes.length

/-- The number of bytes as a word. -/
def size (buffer : Buffer) : UInt64 :=
  UInt64.ofNatLT buffer.bytes.length
    (Nat.lt_trans buffer.length_lt (by decide))

def isEmpty (buffer : Buffer) : Bool := buffer.bytes.isEmpty

/-- The characters of the buffer, ill-formed parts replaced. -/
def text (buffer : Buffer) : List Char := Text.Utf8.lossy buffer.bytes

/-- The leading bytes in hexadecimal, at most `count` of them. -/
def headHex (buffer : Buffer) (count : Nat) : String :=
  Text.Hex.ofBytes (buffer.bytes.take count)

end Buffer
end WhitespaceBench
