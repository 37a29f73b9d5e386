import WhitespaceBench.Proofs.ScanViews

namespace WhitespaceBench
namespace Scan

/-!
# Sequential scans of consecutive pieces

A sequence may be cut anywhere, also into pieces of different lengths and into empty ones, and
each scan of it can be put together from the scans of the pieces.  Answers are put behind one
another and counts are added.  Places have to be shifted by the number of bytes in front of
their piece, and summaries are merged one after the other, where no total overflows because the
whole sequence can be addressed.  The last two are shown for one cut first; the pieces are then
taken off one by one.
-/

/-! ## Places -/

theorem positions_append (first second : List UInt8) :
    positions (first ++ second) =
      positions first ++ (positions second).map fun place => place + first.length := by
  have shifted : second.findIdxs Whitespace.contains first.length =
      (second.findIdxs Whitespace.contains).map fun place => place + first.length :=
    List.findIdxs_start
  rw [positions_eq_findIdxs, positions_eq_findIdxs, positions_eq_findIdxs,
    List.findIdxs_append, Nat.zero_add, shifted]

/-- The number of bytes in front of the piece of an index. -/
def offset (parts : List (List UInt8)) (index : Nat) : Nat :=
  ((parts.take index).map List.length).sum

/-- The places in consecutive pieces, counted from the beginning of the first. -/
def shiftedPositions (parts : List (List UInt8)) : List Nat :=
  parts.zipIdx.flatMap fun entry =>
    (positions entry.1).map fun place => place + offset parts entry.2

/-- One more piece in front shifts the places in all others by its length. -/
@[simp] theorem shiftedPositions_cons (part : List UInt8) (parts : List (List UInt8)) :
    shiftedPositions (part :: parts) =
      positions part ++ (shiftedPositions parts).map fun place => place + part.length := by
  unfold shiftedPositions
  rw [List.zipIdx_cons', List.flatMap_cons, List.flatMap_map, List.map_flatMap]
  congr 1
  · exact List.map_id _
  · congr 1
    funext entry
    rw [List.map_map]
    apply List.map_congr_left
    intro place _
    change place + (part.length + offset parts entry.2) = place + offset parts entry.2 + part.length
    omega

theorem positions_flatten (parts : List (List UInt8)) :
    positions parts.flatten = shiftedPositions parts := by
  induction parts with
  | nil => rfl
  | cons part parts ih =>
      rw [List.flatten_cons, positions_append, ih, shiftedPositions_cons]

/-! ## Summaries -/

@[simp] theorem count_append (first second : List UInt8) :
    count (first ++ second) = count first + count second := by
  unfold count
  rw [List.filter_append, List.length_append]

/-- Merging the summaries of two neighbours is the summary of both. -/
theorem merge_summarize {first second : List UInt8}
    (addressable : (first ++ second).length < 0x8000000000000000) :
    (summarize first).merge (summarize second) = some (summarize (first ++ second)) := by
  have lengths : (first ++ second).length = first.length + second.length := List.length_append
  have counts := count_append first second
  have front : first.length < 0x8000000000000000 := by omega
  have back : second.length < 0x8000000000000000 := by omega
  have merged := Summary.merge_ofTotals? first.length (count first) second.length (count second)
  rw [← lengths, ← counts,
    Summary.ofTotals?_of_lt (length_lt_size front) (count_lt_size front),
    Summary.ofTotals?_of_lt (length_lt_size back) (count_lt_size back),
    Summary.ofTotals?_of_lt (length_lt_size addressable) (count_lt_size addressable)] at merged
  exact merged

/-- Merging from left to right keeps the summary of all bytes so far. -/
theorem foldlM_merge_summarize (before : List UInt8) (parts : List (List UInt8))
    (addressable : (before ++ parts.flatten).length < 0x8000000000000000) :
    (parts.map summarize).foldlM Summary.merge (summarize before) =
      some (summarize (before ++ parts.flatten)) := by
  induction parts generalizing before with
  | nil => rw [List.flatten_nil, List.append_nil]; rfl
  | cons part parts ih =>
      rw [List.flatten_cons, ← List.append_assoc] at addressable ⊢
      have soFar : (before ++ part).length < 0x8000000000000000 :=
        Nat.lt_of_le_of_lt (List.sublist_append_left _ _).length_le addressable
      rw [List.map_cons, List.foldlM_cons, merge_summarize soFar]
      exact ih (before ++ part) addressable

/-! ## All scans -/

/-- However a sequence is cut into consecutive pieces, its classification is that of the pieces
in order, its count is the sum of theirs, its places are theirs, each shifted by the number of
bytes in front of the piece, and its summary is what their summaries merge to from left to
right. -/
theorem scans_flatten (parts : List (List UInt8)) :
    classify parts.flatten = parts.flatMap classify ∧
      count parts.flatten = (parts.map count).sum ∧
      positions parts.flatten = shiftedPositions parts ∧
      (parts.flatten.length < 0x8000000000000000 ->
        (parts.map summarize).foldlM Summary.merge Summary.empty =
          some (summarize parts.flatten)) :=
  ⟨classify_flatten parts, count_flatten parts, positions_flatten parts,
    foldlM_merge_summarize [] parts⟩

/-- An empty piece between two others and one at the end, with whitespace on both sides of every
cut. -/
theorem scans_flatten_empty :
    let parts : List (List UInt8) := [[0x61, 0x20], [], [0x09], [0x0D, 0x0B, 0x0A], []]
    parts.flatten.length < 0x8000000000000000 ∧
      positions parts.flatten = [1] ++ [0 + 2] ++ [0 + 3, 2 + 3] ∧
      (parts.map summarize).foldlM Summary.merge Summary.empty = some ⟨6, 4⟩ := by
  intro parts
  have addressable : parts.flatten.length < 0x8000000000000000 := by decide
  rcases scans_flatten parts with ⟨_, _, places, summary⟩
  exact ⟨addressable, places, summary addressable⟩

end Scan
end WhitespaceBench
