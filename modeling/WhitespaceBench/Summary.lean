import WhitespaceBench.Word

namespace WhitespaceBench

/-!
# Totals of a counting scan

A summary says how many units a scan visited and how many of them were
whitespace.  Summaries of disjoint ranges are merged by adding both totals, and
a merge whose totals do not fit in 64 bits has no result.
-/

structure Summary where
  scanned : UInt64
  whitespace : UInt64
deriving Repr, DecidableEq

namespace Summary

/-- The summary of a scan that visited nothing. -/
def empty : Summary := ⟨0, 0⟩

/-- The units that were not whitespace; zero where the totals disagree. -/
def nonWhitespace (summary : Summary) : UInt64 :=
  if summary.whitespace ≤ summary.scanned then summary.scanned - summary.whitespace else 0

/-- The fraction of units that were whitespace, and zero for an empty scan. -/
def ratio (summary : Summary) : Float :=
  if summary.scanned = 0 then 0.0
  else summary.whitespace.toFloat / summary.scanned.toFloat

/-- The summary of two disjoint ranges.  Both totals have to fit. -/
def merge (first second : Summary) : Option Summary :=
  match Word.add? first.scanned second.scanned with
  | none => none
  | some scanned =>
      match Word.add? first.whitespace second.whitespace with
      | none => none
      | some whitespace => some ⟨scanned, whitespace⟩

end Summary
end WhitespaceBench
