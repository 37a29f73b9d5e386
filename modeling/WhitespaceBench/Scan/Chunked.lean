import WhitespaceBench.Scan

namespace WhitespaceBench
namespace Scan

/-!
# Scans over disjoint chunks

A chunked scanner cuts the bytes into consecutive chunks of equal length, the
last one possibly shorter, scans each chunk on its own and joins the results.
Which neighbouring results are joined first is the scheduler's business, and so
is the number of empty results that it joins in between; `Joining` describes any
such order.  The scanner itself joins from left to right.
-/

/-- Cuts consecutive pieces of at most `width` elements off a list, behind those
already cut.  The first argument bounds the number of cuts. -/
def cut {Unit : Type} (width : Nat) : Nat -> List (List Unit) -> List Unit -> List (List Unit)
  | 0, done, _ => done.reverse
  | _ + 1, done, [] => done.reverse
  | bound + 1, done, unit :: units =>
      cut width bound ((unit :: units).take width :: done) ((unit :: units).drop width)

/-- The consecutive pieces of `width` elements, the last one possibly shorter. -/
def pieces {Unit : Type} (width : Nat) (units : List Unit) : List (List Unit) :=
  cut width units.length [] units

/-- An order in which neighbouring results may be joined: any binary tree over
the results from left to right, with identities inserted at any places. -/
inductive Joining (Result : Type) where
  | identity
  | result (value : Result)
  | join (first second : Joining Result)

namespace Joining

/-- The results of the leaves from left to right. -/
def results {Result : Type} : Joining Result -> List Result
  | identity => []
  | result value => [value]
  | join first second => first.results ++ second.results

/-- Joins counts with checked addition. -/
def sum : Joining UInt64 -> Option UInt64
  | identity => some 0
  | result value => some value
  | join first second =>
      match first.sum with
      | none => none
      | some left =>
          match second.sum with
          | none => none
          | some right => Word.add? left right

def merged : Joining Summary -> Option Summary
  | identity => some Summary.empty
  | result value => some value
  | join first second =>
      match first.merged with
      | none => none
      | some left =>
          match second.merged with
          | none => none
          | some right => left.merge right

end Joining

/-- A scanner over chunks of fixed length, run by a pool of workers. -/
structure ChunkedScanner where
  threads : UInt64
  chunkSize : UInt64
  chunkSize_pos : 0 < chunkSize.toNat

namespace ChunkedScanner

/-- A pool that is asked for no threads has one per processor of its machine,
and a chunk holds at least one byte. -/
def create (processors threads chunkSize : UInt64) : ChunkedScanner :=
  if positive : 0 < chunkSize.toNat then
    ⟨if threads = 0 then processors else threads, chunkSize, positive⟩
  else
    ⟨if threads = 0 then processors else threads, 1, by decide⟩

/-- The chunks that a pass over the bytes hands to the workers. -/
def chunks (scanner : ChunkedScanner) (bytes : List UInt8) : List (List UInt8) :=
  pieces scanner.chunkSize.toNat bytes

/-- The number of whitespace bytes, summed over the chunks. -/
def count (scanner : ChunkedScanner) (bytes : List UInt8) : Nat :=
  (scanner.chunks bytes).foldl (fun total chunk => total + Scan.count chunk) 0

/-- The classification of each byte, in input order.  The bytes are cut into chunks as they
are for the other scans, although a scheduler may cut them anywhere and joins the answers
in order: any cut into consecutive pieces gives the same, which is `AgreesOn.pieces`. -/
def classify (scanner : ChunkedScanner) (bytes : List UInt8) : List Bool :=
  (scanner.chunks bytes).flatMap Scan.classify

/-- The summaries of the chunks, merged from left to right. -/
def summarize (scanner : ChunkedScanner) (bytes : List UInt8) : Option Summary :=
  ((scanner.chunks bytes).map Scan.summarize).foldlM Summary.merge Summary.empty

/-- The traces of the chunks, one for each; a pass runs them in any interleaving. -/
def traces (scanner : ChunkedScanner) (bytes : List UInt8) : List (List Bool) :=
  (scanner.chunks bytes).map Scan.trace

end ChunkedScanner
end Scan
end WhitespaceBench
