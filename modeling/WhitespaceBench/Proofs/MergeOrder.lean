import WhitespaceBench.Proofs.Totals

namespace WhitespaceBench

/-!
# Summaries are merged in any order

A merge fails when a total does not fit in a word, and a partial operation need not be
associative in its failures: an overflow might appear in one grouping and not in another.
Here it cannot.  A summary or an overflow is what a pair of exact totals amounts to, the
overflow being what every pair amounts to that is too large, and merging amounts to adding
the pairs.  So the summaries form a commutative monoid together with the overflow, because
pairs of numbers do, and what comes of merging a list of summaries depends only on the exact
totals of the list.
-/

namespace Summary

open Scan.Joining (totalScanned totalWhitespace)

/-! ## The monoid of summaries -/

/-- A summary, or the overflow that stands for all totals that are too large. -/
def Checked : Type := Option Summary

namespace Checked

/-- The overflow of a part is an overflow of the whole. -/
def add : Checked -> Checked -> Checked
  | none, _ => none
  | some _, none => none
  | some first, some second => first.merge second

instance : Zero Checked := ⟨some empty⟩

instance : Add Checked := ⟨add⟩

/-- What exact totals of scanned units and of whitespace amount to. -/
def ofTotals (totals : Nat × Nat) : Checked := ofTotals? totals.1 totals.2

/-- The overflow is what one unit more than a word can count amounts to. -/
theorem ofTotals_surjective : Function.Surjective ofTotals
  | none => ⟨(UInt64.size, 0), rfl⟩
  | some summary => ⟨(summary.scanned.toNat, summary.whitespace.toNat), ofTotals?_toNat summary⟩

theorem ofTotals_add (first second : Nat × Nat) :
    ofTotals (first + second) = ofTotals first + ofTotals second := by
  refine (merge_ofTotals? first.1 first.2 second.1 second.2).symm.trans ?_
  change _ = add (ofTotals? first.1 first.2) (ofTotals? second.1 second.2)
  cases ofTotals? first.1 first.2 with
  | none => rfl
  | some left => cases ofTotals? second.1 second.2 <;> rfl

/-- The laws are inherited from pairs of numbers. -/
instance : AddCommMonoid Checked where
  nsmul := nsmulRec
  zero_add checked := by
    rcases ofTotals_surjective checked with ⟨totals, rfl⟩
    exact (ofTotals_add 0 totals).symm.trans (congrArg ofTotals (zero_add totals))
  add_zero checked := by
    rcases ofTotals_surjective checked with ⟨totals, rfl⟩
    exact (ofTotals_add totals 0).symm.trans (congrArg ofTotals (add_zero totals))
  add_comm first second := by
    rcases ofTotals_surjective first with ⟨left, rfl⟩
    rcases ofTotals_surjective second with ⟨right, rfl⟩
    rw [← ofTotals_add, ← ofTotals_add, add_comm]
  add_assoc first second third := by
    rcases ofTotals_surjective first with ⟨left, rfl⟩
    rcases ofTotals_surjective second with ⟨middle, rfl⟩
    rcases ofTotals_surjective third with ⟨right, rfl⟩
    rw [← ofTotals_add, ← ofTotals_add, ← ofTotals_add, ← ofTotals_add, add_assoc]

end Checked

theorem merge_comm (first second : Summary) : first.merge second = second.merge first :=
  add_comm (G := Checked) (some first) (some second)

@[simp] theorem empty_merge (summary : Summary) : empty.merge summary = some summary :=
  zero_add (M := Checked) (some summary)

@[simp] theorem merge_empty (summary : Summary) : summary.merge empty = some summary :=
  add_zero (M := Checked) (some summary)

/-- Both groupings of three summaries fail, or both give the same. -/
theorem merge_assoc (first second third : Summary) :
    (first.merge second).bind (fun joined => joined.merge third) =
      (second.merge third).bind first.merge := by
  have grouped := add_assoc (G := Checked) (some first) (some second) (some third)
  change Checked.add (first.merge second) (some third) =
    Checked.add (some first) (second.merge third) at grouped
  cases left : first.merge second <;> cases right : second.merge third <;>
    rw [left, right] at grouped <;> exact grouped

/-! ## Totals that agree -/

/-- What is not whitespace makes up the rest of the totals of a list, too. -/
theorem totalWhitespace_add_nonWhitespace {summaries : List Summary}
    (agree : forall summary, summary ∈ summaries -> summary.whitespace ≤ summary.scanned) :
    totalWhitespace summaries + (summaries.map fun summary => summary.nonWhitespace.toNat).sum =
      totalScanned summaries := by
  unfold totalWhitespace totalScanned
  rw [← List.sum_map_add]
  congr 1
  apply List.map_congr_left
  intro summary member
  exact whitespace_add_nonWhitespace (agree summary member)

/-- A summary with the totals of a list of summaries that agree. -/
theorem agrees_of_totals {summaries : List Summary}
    (agree : forall summary, summary ∈ summaries -> summary.whitespace ≤ summary.scanned)
    {result : Summary} (scanned : result.scanned.toNat = totalScanned summaries)
    (whitespace : result.whitespace.toNat = totalWhitespace summaries) :
    result.whitespace ≤ result.scanned ∧
      result.nonWhitespace.toNat =
        (summaries.map fun summary => summary.nonWhitespace.toNat).sum := by
  have parts := totalWhitespace_add_nonWhitespace agree
  have le : result.whitespace ≤ result.scanned := UInt64.le_iff_toNat_le.mpr (by omega)
  have rest := whitespace_add_nonWhitespace le
  exact ⟨le, by omega⟩

/-! ## All orders -/

/-- All orders of merging summaries, with the empty summary anywhere between them, come to the
same. -/
def AllMergeTo (summaries : List Summary) (outcome : Option Summary) : Prop :=
  forall joining : Scan.Joining Summary, joining.results.Perm summaries ->
    joining.merged = outcome

theorem allMergeTo_ofTotals? (summaries : List Summary) :
    AllMergeTo summaries (ofTotals? (totalScanned summaries) (totalWhitespace summaries)) := by
  intro joining leaves
  have scanned := (leaves.map fun summary => summary.scanned.toNat).sum_eq
  have whitespace := (leaves.map fun summary => summary.whitespace.toNat).sum_eq
  rw [joining.merged_eq_ofTotals?]
  exact congrArg₂ ofTotals? scanned whitespace

/-- Totals that do not both fit are an overflow. -/
theorem ofTotals?_of_large {scanned whitespace : Nat}
    (large : UInt64.size ≤ scanned ∨ UInt64.size ≤ whitespace) :
    ofTotals? scanned whitespace = none := by
  unfold ofTotals?
  rcases large with large | large
  · rw [Word.ofNat?_eq_none_iff.mpr large]
  · rw [Word.ofNat?_eq_none_iff.mpr large]
    cases Word.ofNat? scanned <;> rfl

/-- Merging is commutative and associative with the empty summary as identity, failures
included.  Of every list of summaries either both exact totals fit in a word, and then every
order of merging the list, however grouped, yields the summary of the totals; or one of them
does not, and then every order fails.  If the totals of each summary agree, so do those of the
result, and what is not whitespace adds up as well. -/
theorem merge_any_order :
    (forall first second : Summary, first.merge second = second.merge first) ∧
    (forall first second third : Summary,
      (first.merge second).bind (fun joined => joined.merge third) =
        (second.merge third).bind first.merge) ∧
    (forall summary : Summary,
      empty.merge summary = some summary ∧ summary.merge empty = some summary) ∧
    forall summaries : List Summary,
      (totalScanned summaries < 2 ^ 64 ∧ totalWhitespace summaries < 2 ^ 64 ∧
        exists result : Summary, AllMergeTo summaries (some result) ∧
          result.scanned.toNat = totalScanned summaries ∧
          result.whitespace.toNat = totalWhitespace summaries ∧
          ((forall summary, summary ∈ summaries -> summary.whitespace ≤ summary.scanned) ->
            result.whitespace ≤ result.scanned ∧
              result.nonWhitespace.toNat =
                (summaries.map fun summary => summary.nonWhitespace.toNat).sum)) ∨
      ((2 ^ 64 ≤ totalScanned summaries ∨ 2 ^ 64 ≤ totalWhitespace summaries) ∧
        AllMergeTo summaries none) := by
  refine ⟨merge_comm, merge_assoc, fun summary => ⟨empty_merge summary, merge_empty summary⟩,
    fun summaries => ?_⟩
  have merged := allMergeTo_ofTotals? summaries
  by_cases fit : totalScanned summaries < 2 ^ 64 ∧ totalWhitespace summaries < 2 ^ 64
  · rw [ofTotals?_of_lt fit.1 fit.2] at merged
    have scanned := UInt64.toNat_ofNat_of_lt' fit.1
    have whitespace := UInt64.toNat_ofNat_of_lt' fit.2
    exact Or.inl ⟨fit.1, fit.2, _, merged, scanned, whitespace,
      fun agree => agrees_of_totals agree scanned whitespace⟩
  · have large : 2 ^ 64 ≤ totalScanned summaries ∨ 2 ^ 64 ≤ totalWhitespace summaries := by
      omega
    rw [ofTotals?_of_large large] at merged
    exact Or.inr ⟨large, merged⟩

/-- Two summaries just fit in a word, also from right to left and with the empty summary between
them; a third is one unit too many, wherever it stands. -/
theorem merge_any_order_limit :
    let reversed : Scan.Joining Summary :=
      .join (.result ⟨1, 1⟩) (.join .identity (.result ⟨0xFFFFFFFFFFFFFFFE, 5⟩))
    reversed.results.Perm [⟨0xFFFFFFFFFFFFFFFE, 5⟩, ⟨1, 1⟩] ∧
      (exists result : Summary, reversed.merged = some result ∧
        result.scanned.toNat = 0xFFFFFFFFFFFFFFFF ∧
        result.whitespace ≤ result.scanned ∧ result.nonWhitespace.toNat = 0xFFFFFFFFFFFFFFF9) ∧
      AllMergeTo [⟨1, 1⟩, ⟨0xFFFFFFFFFFFFFFFE, 5⟩, ⟨1, 1⟩] none := by
  intro reversed
  have leaves : reversed.results.Perm [⟨0xFFFFFFFFFFFFFFFE, 5⟩, ⟨1, 1⟩] := List.Perm.swap ..
  rcases merge_any_order with ⟨_, _, _, orders⟩
  refine ⟨leaves, ?_, ?_⟩
  · rcases orders [⟨0xFFFFFFFFFFFFFFFE, 5⟩, ⟨1, 1⟩] with
      ⟨_, _, result, merged, scanned, _, rest⟩ | ⟨large, _⟩
    · have agree := rest (by decide)
      exact ⟨result, merged reversed leaves, scanned, agree.1, agree.2⟩
    · exact absurd large (by decide)
  · rcases orders [⟨1, 1⟩, ⟨0xFFFFFFFFFFFFFFFE, 5⟩, ⟨1, 1⟩] with ⟨fits, _⟩ | ⟨_, fails⟩
    · exact absurd fits (by decide)
    · exact fails

end Summary
end WhitespaceBench
