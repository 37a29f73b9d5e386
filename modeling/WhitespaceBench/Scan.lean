import WhitespaceBench.Whitespace
import WhitespaceBench.Summary

namespace WhitespaceBench
namespace Scan

/-!
# Sequential scans

Four views of one classification of a byte sequence: the answer for each byte,
the number of whitespace bytes, their positions, and the summary.  The benchmark
pass itself discards its answers; it is described by its trace, the list of
classifications in the order in which they are made.
-/

/-- The classification of each byte, in order. -/
def classify (bytes : List UInt8) : List Bool :=
  bytes.map Whitespace.contains

def count (bytes : List UInt8) : Nat :=
  (bytes.filter Whitespace.contains).length

/-- The indices of the whitespace bytes, ascending. -/
def positions (bytes : List UInt8) : List Nat :=
  bytes.zipIdx.filterMap fun entry =>
    if Whitespace.contains entry.1 then some entry.2 else none

/-- The totals of a scan.  A slice is shorter than 64 bits can count. -/
def summarize (bytes : List UInt8) : Summary :=
  ⟨UInt64.ofNat bytes.length, UInt64.ofNat (count bytes)⟩

/-- The number of whitespace characters of a decoded text. -/
def countChars (text : List Char) : Nat :=
  (text.filter Whitespace.containsChar).length

/-- The classifications made by one pass over bytes, in ascending order. -/
def trace (bytes : List UInt8) : List Bool :=
  bytes.map fun byte => Whitespace.contains byte

/-- The classifications made by one pass over the characters of a text. -/
def traceChars (text : List Char) : List Bool :=
  text.map Whitespace.containsChar

end Scan
end WhitespaceBench
