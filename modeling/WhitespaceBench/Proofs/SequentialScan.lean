import Mathlib
import WhitespaceBench.Scan

namespace WhitespaceBench
namespace Scan

/-!
# Scanning a sequence piece by piece

Every byte is classified on its own, so a sequential scan of a sequence can be put
together from the scans of consecutive pieces of it, wherever the cuts are.  Counts are
exact as long as the sequence can be addressed.
-/

/-- The whitespace among answers. -/
theorem count_true_map {Unit : Type} (answer : Unit -> Bool) (units : List Unit) :
    (units.map answer).count true = (units.filter answer).length := by
  rw [List.count_eq_countP, List.countP_map, ← List.countP_eq_length_filter]
  apply List.countP_congr
  intro unit _
  simp

/-- The classification of a sequence is the classification of its pieces in order. -/
theorem classify_flatten (parts : List (List UInt8)) :
    classify parts.flatten = parts.flatMap classify :=
  List.map_flatten

/-- The count over a sequence is the sum of the counts over its pieces. -/
@[simp] theorem count_flatten (parts : List (List UInt8)) :
    count parts.flatten = (parts.map count).sum := by
  unfold count
  rw [List.filter_flatten, List.length_flatten, List.map_map]
  rfl

theorem count_le_length (bytes : List UInt8) : count bytes ≤ bytes.length :=
  List.length_filter_le _ _

/-- The number of bytes of a sequence that can be addressed. -/
theorem length_lt_size {bytes : List UInt8} (addressable : bytes.length < 0x8000000000000000) :
    bytes.length < UInt64.size :=
  Nat.lt_trans addressable (by decide)

theorem count_lt_size {bytes : List UInt8} (addressable : bytes.length < 0x8000000000000000) :
    count bytes < UInt64.size :=
  Nat.lt_of_le_of_lt (count_le_length bytes) (length_lt_size addressable)

@[simp] theorem summarize_scanned {bytes : List UInt8}
    (addressable : bytes.length < 0x8000000000000000) :
    (summarize bytes).scanned.toNat = bytes.length :=
  UInt64.toNat_ofNat_of_lt' (length_lt_size addressable)

@[simp] theorem summarize_whitespace {bytes : List UInt8}
    (addressable : bytes.length < 0x8000000000000000) :
    (summarize bytes).whitespace.toNat = count bytes :=
  UInt64.toNat_ofNat_of_lt' (count_lt_size addressable)

/-- A piece of a sequence that can be addressed can be addressed. -/
theorem length_lt_of_mem {parts : List (List UInt8)} {part : List UInt8} (member : part ∈ parts)
    (addressable : parts.flatten.length < 0x8000000000000000) :
    part.length < 0x8000000000000000 :=
  Nat.lt_of_le_of_lt (List.sublist_flatten_of_mem member).length_le addressable

/-- The exact totals of the summaries of pieces are those of the whole sequence. -/
theorem summarize_totals (parts : List (List UInt8))
    (addressable : parts.flatten.length < 0x8000000000000000) :
    ((parts.map summarize).map fun summary => summary.scanned.toNat).sum = parts.flatten.length ∧
      ((parts.map summarize).map fun summary => summary.whitespace.toNat).sum =
        count parts.flatten := by
  constructor
  · rw [List.map_map, List.length_flatten]
    congr 1
    apply List.map_congr_left
    intro part member
    exact summarize_scanned (length_lt_of_mem member addressable)
  · rw [List.map_map, count_flatten]
    congr 1
    apply List.map_congr_left
    intro part member
    exact summarize_whitespace (length_lt_of_mem member addressable)

end Scan
end WhitespaceBench
