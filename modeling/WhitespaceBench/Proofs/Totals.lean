import Mathlib
import WhitespaceBench.Scan.Chunked

namespace WhitespaceBench

/-!
# Checked totals do not depend on the order of additions

A checked addition fails exactly when the exact sum does not fit in a word.  The
totals of a list therefore fail to add up in one grouping exactly when they fail in
every grouping: a part of a sum that does not fit leaves no room for the rest, since
nothing is ever subtracted.  Both facts are stated once, by comparing a joining with
the exact total of its leaves.
-/

namespace Word

def ofNat? (number : Nat) : Option UInt64 :=
  if fits : number < UInt64.size then some (UInt64.ofNatLT number fits) else none

theorem add?_eq_ofNat? (first second : UInt64) :
    add? first second = ofNat? (first.toNat + second.toNat) := rfl

@[simp] theorem ofNat?_toNat (word : UInt64) : ofNat? word.toNat = some word := by
  unfold ofNat?
  rw [dif_pos word.toNat_lt_size]
  exact congrArg some (UInt64.toNat_inj.mp (UInt64.toNat_ofNatLT ..))

theorem ofNat?_of_lt {number : Nat} (fits : number < UInt64.size) :
    ofNat? number = some (UInt64.ofNat number) := by
  unfold ofNat?
  rw [dif_pos fits, UInt64.ofNatLT_eq_ofNat]

@[simp] theorem ofNat?_eq_none_iff {number : Nat} :
    ofNat? number = none <-> UInt64.size ≤ number := by
  unfold ofNat?
  split
  · rename_i fits
    exact ⟨fun impossible => (by cases impossible), fun large => absurd fits (Nat.not_lt.mpr large)⟩
  · rename_i large
    exact ⟨fun _ => Nat.le_of_not_lt large, fun _ => rfl⟩

theorem toNat_of_ofNat?_eq_some {number : Nat} {word : UInt64} (same : ofNat? number = some word) :
    word.toNat = number := by
  unfold ofNat? at same
  split at same
  · rw [← Option.some.inj same]
    exact UInt64.toNat_ofNatLT ..
  · cases same

/-- Adding two numbers that were checked before is checking their exact sum.  If one
of them does not fit, then neither does the sum. -/
theorem add?_ofNat? (first second : Nat) :
    (match ofNat? first with
      | none => none
      | some left =>
          match ofNat? second with
          | none => none
          | some right => add? left right) = ofNat? (first + second) := by
  cases left : ofNat? first with
  | none =>
      have large := ofNat?_eq_none_iff.mp left
      exact (ofNat?_eq_none_iff.mpr (Nat.le_add_right_of_le large)).symm
  | some leftWord =>
      cases right : ofNat? second with
      | none =>
          have large := ofNat?_eq_none_iff.mp right
          exact (ofNat?_eq_none_iff.mpr (Nat.le_add_left_of_le large)).symm
      | some rightWord =>
          change add? leftWord rightWord = _
          rw [add?_eq_ofNat?, toNat_of_ofNat?_eq_some left, toNat_of_ofNat?_eq_some right]

end Word

namespace Summary

def ofTotals? (scanned whitespace : Nat) : Option Summary :=
  match Word.ofNat? scanned with
  | none => none
  | some scannedWord =>
      match Word.ofNat? whitespace with
      | none => none
      | some whitespaceWord => some ⟨scannedWord, whitespaceWord⟩

@[simp] theorem ofTotals?_toNat (summary : Summary) :
    ofTotals? summary.scanned.toNat summary.whitespace.toNat = some summary := by
  simp [ofTotals?]

theorem ofTotals?_of_lt {scanned whitespace : Nat} (scannedFits : scanned < UInt64.size)
    (whitespaceFits : whitespace < UInt64.size) :
    ofTotals? scanned whitespace = some ⟨UInt64.ofNat scanned, UInt64.ofNat whitespace⟩ := by
  simp only [ofTotals?, Word.ofNat?_of_lt scannedFits, Word.ofNat?_of_lt whitespaceFits]

/-- Merging two summaries of exact totals is the summary of the sums. -/
theorem merge_ofTotals? (scanned whitespace otherScanned otherWhitespace : Nat) :
    (match ofTotals? scanned whitespace with
      | none => none
      | some left =>
          match ofTotals? otherScanned otherWhitespace with
          | none => none
          | some right => left.merge right) =
      ofTotals? (scanned + otherScanned) (whitespace + otherWhitespace) := by
  rw [ofTotals?.eq_def (scanned + otherScanned), ← Word.add?_ofNat? scanned,
    ← Word.add?_ofNat? whitespace]
  unfold ofTotals?
  -- The two sides notice an overflow at different steps, so every total is looked at.
  cases Word.ofNat? scanned with
  | none => rfl
  | some scannedWord =>
      cases Word.ofNat? otherScanned with
      | none => cases Word.ofNat? whitespace <;> rfl
      | some otherScannedWord =>
          cases Word.ofNat? whitespace with
          | none => cases added : Word.add? scannedWord otherScannedWord <;> simp only [added]
          | some whitespaceWord =>
              cases Word.ofNat? otherWhitespace with
              | none => cases added : Word.add? scannedWord otherScannedWord <;> simp only [added]
              | some otherWhitespaceWord => rfl

/-- Where the totals agree, what is not whitespace makes up the rest. -/
theorem whitespace_add_nonWhitespace {summary : Summary}
    (agree : summary.whitespace ≤ summary.scanned) :
    summary.whitespace.toNat + summary.nonWhitespace.toNat = summary.scanned.toNat := by
  have le := UInt64.le_iff_toNat_le.mp agree
  rw [nonWhitespace, if_pos agree, UInt64.toNat_sub_of_le _ _ agree]
  omega

end Summary

namespace Scan
namespace Joining

/-- The exact totals of the leaves of a joining of summaries. -/
def totalScanned (results : List Summary) : Nat :=
  (results.map fun summary => summary.scanned.toNat).sum

def totalWhitespace (results : List Summary) : Nat :=
  (results.map fun summary => summary.whitespace.toNat).sum

/-- Whatever the order of the additions, the result is the exact sum of the leaves if
it fits, and an overflow if it does not. -/
theorem sum_eq_ofNat? (joining : Joining UInt64) :
    joining.sum = Word.ofNat? (joining.results.map UInt64.toNat).sum := by
  induction joining with
  | identity => rfl
  | result value => simp [sum, results]
  | join first second firstSum secondSum =>
      simp only [sum, results, List.map_append, List.sum_append]
      rw [firstSum, secondSum]
      exact Word.add?_ofNat? _ _

/-- Whatever the order of the merges, the result has the exact totals of the leaves if
both fit, and there is an overflow if one does not. -/
theorem merged_eq_ofTotals? (joining : Joining Summary) :
    joining.merged =
      Summary.ofTotals? (totalScanned joining.results) (totalWhitespace joining.results) := by
  induction joining with
  | identity => rfl
  | result value => simp [merged, results, totalScanned, totalWhitespace]
  | join first second firstMerged secondMerged =>
      simp only [merged, results, totalScanned, totalWhitespace, List.map_append, List.sum_append]
      rw [firstMerged, secondMerged]
      exact Summary.merge_ofTotals? _ _ _ _

/-- The joining that goes from left to right, starting from a given one. -/
def fromLeft {Result : Type} (start : Joining Result) (values : List Result) : Joining Result :=
  values.foldl (fun joined value => .join joined (.result value)) start

@[simp] theorem results_fromLeft {Result : Type} (start : Joining Result) (values : List Result) :
    (fromLeft start values).results = start.results ++ values := by
  induction values generalizing start with
  | nil => exact (List.append_nil _).symm
  | cons value values ih =>
      rw [fromLeft, List.foldl_cons, ← fromLeft, ih]
      simp [results]

/-- Folding the checked merge over summaries is the joining from left to right. -/
theorem merged_fromLeft (start : Joining Summary) (values : List Summary) :
    (fromLeft start values).merged = start.merged.bind (values.foldlM Summary.merge) := by
  induction values generalizing start with
  | nil => cases joined : start.merged <;> simp only [fromLeft, List.foldl_nil, joined] <;> rfl
  | cons value values ih =>
      rw [fromLeft, List.foldl_cons, ← fromLeft, ih]
      cases joined : start.merged with
      | none => simp only [merged, joined, Option.bind_none]
      | some summary => simp only [merged, joined, Option.bind_some, List.foldlM_cons]; rfl

end Joining
end Scan
end WhitespaceBench
