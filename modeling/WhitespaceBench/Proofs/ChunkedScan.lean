import WhitespaceBench.Proofs.SequentialScan
import WhitespaceBench.Proofs.Totals

namespace WhitespaceBench
namespace Scan

/-!
# A chunked scan is a sequential scan

The chunks of a scan are the consecutive pieces of its bytes, all of them of the asked
length except possibly the last.  Their results, joined in any order that the scheduler
may choose and with any number of empty results in between, are the result of one
sequential scan, and no addition on the way overflows.
-/

variable {Unit : Type}

/-- The pieces that are already cut stay in front. -/
theorem cut_eq_append (width bound : Nat) (done : List (List Unit)) (units : List Unit) :
    cut width bound done units = done.reverse ++ cut width bound [] units := by
  induction bound generalizing done units with
  | zero => exact (List.append_nil _).symm
  | succ bound ih =>
      cases units with
      | nil => exact (List.append_nil _).symm
      | cons unit units =>
          simp only [cut]
          rw [ih, ih [_], List.reverse_cons, List.reverse_singleton, List.append_assoc]

/-- One cut: a first piece, and the pieces of what is left. -/
theorem cut_cons (width bound : Nat) (unit : Unit) (units : List Unit) :
    cut width (bound + 1) [] (unit :: units) =
      (unit :: units).take width :: cut width bound [] ((unit :: units).drop width) := by
  rw [cut, cut_eq_append, List.reverse_singleton, List.singleton_append]

theorem length_drop_le {width bound : Nat} (pos : 0 < width) {unit : Unit} {units : List Unit}
    (enough : (unit :: units).length ≤ bound + 1) :
    ((unit :: units).drop width).length ≤ bound := by
  rw [List.length_drop]
  omega

/-- The pieces make up the whole. -/
theorem flatten_cut {width : Nat} (pos : 0 < width) (bound : Nat) (units : List Unit)
    (enough : units.length ≤ bound) : (cut width bound [] units).flatten = units := by
  induction bound generalizing units with
  | zero => exact (List.eq_nil_of_length_eq_zero (Nat.le_zero.mp enough)).symm
  | succ bound ih =>
      cases units with
      | nil => rfl
      | cons unit units =>
          rw [cut_cons, List.flatten_cons, ih _ (length_drop_le pos enough),
            List.take_append_drop]

/-- A piece is told by its index: it starts at that multiple of the width. -/
theorem getElem?_cut {width : Nat} (pos : 0 < width) (bound : Nat) (units : List Unit)
    (enough : units.length ≤ bound) (index : Nat) :
    (cut width bound [] units)[index]? =
      if index * width < units.length then some ((units.drop (index * width)).take width)
      else none := by
  induction bound generalizing units index with
  | zero =>
      have empty := List.eq_nil_of_length_eq_zero (Nat.le_zero.mp enough)
      subst empty
      rfl
  | succ bound ih =>
      cases units with
      | nil => rfl
      | cons unit units =>
          rw [cut_cons]
          cases index with
          | zero =>
              have someUnit : 0 < (unit :: units).length := Nat.zero_lt_succ _
              rw [Nat.zero_mul, if_pos someUnit]
              rfl
          | succ index =>
              -- Behind the first piece, the same piece has the index before.
              rw [List.getElem?_cons_succ, ih _ (length_drop_le pos enough), List.length_drop,
                List.drop_drop, Nat.succ_mul, Nat.add_comm (index * width)]
              congr 1
              exact propext (by omega)

namespace ChunkedScanner

variable (scanner : ChunkedScanner) (bytes : List UInt8)

@[simp] theorem flatten_chunks : (scanner.chunks bytes).flatten = bytes :=
  flatten_cut scanner.chunkSize_pos bytes.length bytes (Nat.le_refl _)

theorem count_eq_sum : scanner.count bytes = ((scanner.chunks bytes).map Scan.count).sum := by
  rw [List.sum_eq_foldl, List.foldl_map]
  rfl

/-- What a chunked scan of bytes has in common with a sequential one. -/
structure AgreesOn : Prop where
  /-- The chunks are the consecutive pieces of the chunk size, the last one possibly
  shorter. -/
  chunks : forall index, (scanner.chunks bytes)[index]? =
    if index * scanner.chunkSize.toNat < bytes.length then
      some ((bytes.drop (index * scanner.chunkSize.toNat)).take scanner.chunkSize.toNat)
    else none
  count : scanner.count bytes = Scan.count bytes
  classify : scanner.classify bytes = Scan.classify bytes
  summarize : scanner.summarize bytes = some (Scan.summarize bytes)
  /-- Both totals of the summary are exact. -/
  exact : (Scan.summarize bytes).scanned.toNat = bytes.length ∧
    (Scan.summarize bytes).whitespace.toNat = Scan.count bytes
  /-- Any joining of the counts of the chunks adds up to the count. -/
  sum : forall joining : Joining UInt64,
    joining.results.map UInt64.toNat = (scanner.chunks bytes).map Scan.count ->
      joining.sum.map UInt64.toNat = some (Scan.count bytes)
  /-- Any joining of the summaries of the chunks is the summary. -/
  merged : forall joining : Joining Summary,
    joining.results = (scanner.chunks bytes).map Scan.summarize ->
      joining.merged = some (Scan.summarize bytes)
  /-- Any cut into consecutive pieces is classified as the whole. -/
  pieces : forall parts : List (List UInt8), parts.flatten = bytes ->
    parts.flatMap Scan.classify = Scan.classify bytes

variable {bytes}

/-- The counts of the chunks add up in any order. -/
theorem sum_joined (addressable : bytes.length < 0x8000000000000000)
    (joining : Joining UInt64)
    (leaves : joining.results.map UInt64.toNat = (scanner.chunks bytes).map Scan.count) :
    joining.sum.map UInt64.toNat = some (Scan.count bytes) := by
  have fits := count_lt_size addressable
  rw [joining.sum_eq_ofNat?, leaves, ← count_flatten, scanner.flatten_chunks,
    Word.ofNat?_of_lt fits, Option.map_some, UInt64.toNat_ofNat_of_lt' fits]

/-- The summaries of the chunks merge in any order. -/
theorem merged_joined (addressable : bytes.length < 0x8000000000000000)
    (joining : Joining Summary)
    (leaves : joining.results = (scanner.chunks bytes).map Scan.summarize) :
    joining.merged = some (Scan.summarize bytes) := by
  have whole := scanner.flatten_chunks bytes
  have totals := summarize_totals (scanner.chunks bytes) (whole.symm ▸ addressable)
  rw [whole] at totals
  rw [joining.merged_eq_ofTotals?, leaves, Joining.totalScanned, Joining.totalWhitespace,
    totals.1, totals.2,
    Summary.ofTotals?_of_lt (length_lt_size addressable) (count_lt_size addressable)]
  rfl

/-- The scanner itself merges from left to right. -/
theorem summarize_eq (addressable : bytes.length < 0x8000000000000000) :
    scanner.summarize bytes = some (Scan.summarize bytes) := by
  have folded := Joining.merged_fromLeft .identity ((scanner.chunks bytes).map Scan.summarize)
  have leaves := Joining.results_fromLeft .identity ((scanner.chunks bytes).map Scan.summarize)
  exact folded.symm.trans (scanner.merged_joined addressable _ leaves)

@[simp] theorem count_eq : scanner.count bytes = Scan.count bytes := by
  simp [count_eq_sum, ← count_flatten]

@[simp] theorem classify_eq : scanner.classify bytes = Scan.classify bytes := by
  simp [ChunkedScanner.classify, ← classify_flatten]

@[simp] theorem create_chunkSize (processors threads chunkSize : UInt64) :
    (create processors threads chunkSize).chunkSize.toNat = max 1 chunkSize.toNat := by
  unfold create
  split
  · rename_i positive
    exact (Nat.max_eq_right positive).symm
  · rename_i zero
    exact (Nat.max_eq_left (Nat.le_succ_of_le (Nat.le_of_not_lt zero))).symm

/-- A scanner of any chunk size, which is at least one byte, and of any number of
threads agrees with the sequential scanner on all bytes that can be addressed. -/
theorem create_agreesOn (processors threads chunkSize : UInt64) (bytes : List UInt8)
    (addressable : bytes.length < 0x8000000000000000) :
    (create processors threads chunkSize).chunkSize.toNat = max 1 chunkSize.toNat ∧
      (create processors threads chunkSize).AgreesOn bytes := by
  refine ⟨create_chunkSize processors threads chunkSize, ?_⟩
  generalize create processors threads chunkSize = scanner
  exact {
    chunks := getElem?_cut scanner.chunkSize_pos bytes.length bytes (Nat.le_refl _)
    count := scanner.count_eq
    classify := scanner.classify_eq
    summarize := scanner.summarize_eq addressable
    exact := ⟨summarize_scanned addressable, summarize_whitespace addressable⟩
    sum := scanner.sum_joined addressable
    merged := scanner.merged_joined addressable
    pieces := fun parts whole => by rw [← whole, classify_flatten] }

/-- Blanks on both sides of every chunk boundary, with a last chunk that is shorter. -/
theorem create_agreesOn_boundaries :
    ([0x20, 0x20, 0x61, 0x20, 0x09] : List UInt8).length < 0x8000000000000000 ∧
      (create 1 3 2).AgreesOn [0x20, 0x20, 0x61, 0x20, 0x09] ∧
      (create 1 0 0).AgreesOn [0x20, 0x20, 0x61, 0x20, 0x09] :=
  ⟨by decide, (create_agreesOn 1 3 2 _ (by decide)).2, (create_agreesOn 1 0 0 _ (by decide)).2⟩

end ChunkedScanner
end Scan
end WhitespaceBench
