import WhitespaceBench.Proofs.SequentialScan
import WhitespaceBench.Proofs.Totals

namespace WhitespaceBench
namespace Scan

/-!
# Four views of one classification

A sequential scan answers for each byte, counts the bytes with a positive answer, lists their
places, or sums up.  Each view is made by a traversal of its own, and all of them can be read
off the first: the places are the indices of the positive answers, in ascending order, so that
they tell the answers again once the number of bytes is known.
-/

variable (bytes : List UInt8)

/-! ## Answers -/

@[simp] theorem length_classify : (classify bytes).length = bytes.length :=
  List.length_map _

/-- The answer for a byte depends on nothing but the byte. -/
theorem getElem?_classify (index : Nat) :
    (classify bytes)[index]? =
      bytes[index]?.map fun byte => decide (byte ∈ [0x20, 0x09, 0x0A, 0x0D]) := by
  rw [classify, List.getElem?_map]
  congr 1
  funext byte
  rw [Bool.eq_iff_iff, decide_eq_true_iff]
  exact Whitespace.contains_iff_mem byte

theorem count_eq_count_classify : count bytes = (classify bytes).count true :=
  (count_true_map Whitespace.contains bytes).symm

/-! ## Places -/

theorem positions_eq_findIdxs : positions bytes = bytes.findIdxs Whitespace.contains := by
  rw [List.findIdxs_eq_filterMap_zipIdx, positions]
  congr 1
  funext entry
  cases Whitespace.contains entry.1 <;> rfl

@[simp] theorem mem_positions (index : Nat) :
    index ∈ positions bytes <-> (classify bytes)[index]? = some true := by
  rw [positions_eq_findIdxs, List.mem_findIdxs_iff_exists_getElem_pos,
    List.getElem?_eq_some_iff]
  simp only [classify, List.length_map, List.getElem_map]

@[simp] theorem length_positions : (positions bytes).length = count bytes := by
  rw [positions_eq_findIdxs, List.length_findIdxs, List.countP_eq_length_filter, count]

/-- The answers of a given number, of which those at certain places are positive. -/
def answersAt (length : Nat) (places : List Nat) : List Bool :=
  (List.range length).map fun place => decide (place ∈ places)

theorem classify_eq_answersAt : classify bytes = answersAt bytes.length (positions bytes) := by
  apply List.ext_getElem
  · simp [answersAt]
  · intro index answered _
    simp only [answersAt, List.getElem_map, List.getElem_range]
    rw [Bool.eq_iff_iff, decide_eq_true_iff, mem_positions, List.getElem?_eq_getElem answered,
      Option.some.injEq]

/-! ## Totals -/

/-- A sequence has no more whitespace than bytes, and what remains are the negative answers. -/
theorem summarize_agrees {bytes : List UInt8} (addressable : bytes.length < 0x8000000000000000) :
    (summarize bytes).whitespace.toNat + (summarize bytes).nonWhitespace.toNat =
        (summarize bytes).scanned.toNat ∧
      (summarize bytes).nonWhitespace.toNat = (classify bytes).count false := by
  have scanned := summarize_scanned addressable
  have whitespace := summarize_whitespace addressable
  have agree : (summarize bytes).whitespace ≤ (summarize bytes).scanned := by
    rw [UInt64.le_iff_toNat_le, scanned, whitespace]
    exact count_le_length bytes
  have parts := Summary.whitespace_add_nonWhitespace agree
  have answers := List.count_true_add_count_false (classify bytes)
  rw [← count_eq_count_classify, length_classify] at answers
  exact ⟨parts, by omega⟩

/-- What the scans of bytes say, each told by the answers for the bytes. -/
structure Views : Prop where
  length : (classify bytes).length = bytes.length
  /-- The bytes with a positive answer are space, tab, newline and carriage return. -/
  answer : forall index : Nat, (classify bytes)[index]? =
    bytes[index]?.map fun byte => decide (byte ∈ [0x20, 0x09, 0x0A, 0x0D])
  ascending : (positions bytes).Pairwise (· < ·)
  place : forall index : Nat, index ∈ positions bytes <->
    index < bytes.length ∧ (classify bytes)[index]? = some true
  /-- The places and the number of bytes tell the answers. -/
  recovered : classify bytes = answersAt bytes.length (positions bytes)
  counted : count bytes = (positions bytes).length ∧
    count bytes = (classify bytes).count true ∧ count bytes ≤ bytes.length
  /-- The totals are exact, since a sequence that is in memory is shorter than 2^63 bytes. -/
  summary : bytes.length < 0x8000000000000000 ->
    (summarize bytes).scanned.toNat = bytes.length ∧
    (summarize bytes).whitespace.toNat = count bytes ∧
    (summarize bytes).whitespace.toNat + (summarize bytes).nonWhitespace.toNat =
      (summarize bytes).scanned.toNat ∧
    (summarize bytes).nonWhitespace.toNat = (classify bytes).count false

/-- The four scans of any bytes are views of one classification. -/
theorem views_of_classification : Views bytes where
  length := length_classify bytes
  answer := getElem?_classify bytes
  ascending := by
    rw [positions_eq_findIdxs]
    exact List.pairwise_findIdxs
  place := fun index => by
    rw [mem_positions, iff_and_self, ← length_classify bytes]
    exact fun positive => (List.getElem?_eq_some_iff.mp positive).1
  recovered := classify_eq_answersAt bytes
  counted := ⟨(length_positions bytes).symm, count_eq_count_classify bytes, count_le_length bytes⟩
  summary := fun addressable =>
    ⟨summarize_scanned addressable, summarize_whitespace addressable, summarize_agrees addressable⟩

/-- Whitespace between letters, a vertical tab and a byte beyond ASCII. -/
theorem views_of_classification_sample :
    let bytes : List UInt8 := [0x41, 0x20, 0x09, 0x0B, 0xA0, 0x0D]
    bytes.length < 0x8000000000000000 ∧
      [false, true, true, false, false, true] = answersAt bytes.length (positions bytes) ∧
      (summarize bytes).whitespace.toNat + (summarize bytes).nonWhitespace.toNat = 6 ∧
      (summarize bytes).nonWhitespace.toNat = 3 := by
  intro bytes
  have addressable : bytes.length < 0x8000000000000000 := by decide
  have views := views_of_classification bytes
  rcases views.summary addressable with ⟨scanned, _, parts, others⟩
  exact ⟨addressable, views.recovered, parts.trans scanned, others⟩

end Scan
end WhitespaceBench
