import WhitespaceBench.Proofs.HarnessReport

namespace WhitespaceBench

/-!
# What a pass visits

A pass discards its answers, so only its trace shows whether it did what it was timed for.
Workers that share a pass may interleave in any way, as long as each keeps its own order.
Whatever the interleaving, every unit of the view that is walked is visited once, with the
answer that a sequential scan gives, and the whitespace among the answers is the count that
the report shows.

To tell that a unit is visited once, and not merely that the answers add up, the units are
given their places in the view; a worker knows the places of the units in its chunk.
-/

namespace Scan

/-! ## Interleavings -/

/-- An order in which workers may go through their items, each in its own order: whoever
still has an item may be next. -/
inductive Interleaves {Item : Type} : List (List Item) -> List Item -> Prop where
  | done {traces : List (List Item)} (finished : forall trace, trace ∈ traces -> trace = []) :
      Interleaves traces []
  | step {before after : List (List Item)} {item : Item} {rest pass : List Item}
      (later : Interleaves (before ++ rest :: after) pass) :
      Interleaves (before ++ (item :: rest) :: after) (item :: pass)

namespace Interleaves

variable {Item Image : Type}

/-- Every item is met once. -/
theorem perm {traces : List (List Item)} {pass : List Item} (order : Interleaves traces pass) :
    pass.Perm traces.flatten := by
  induction order with
  | done finished => rw [List.flatten_eq_nil_iff.mpr finished]
  | step _ ih =>
      rw [List.flatten_append, List.flatten_cons] at ih ⊢
      exact (ih.cons _).trans List.perm_middle.symm

/-- One worker has no choice. -/
theorem eq_of_single {trace pass : List Item} (order : Interleaves [trace] pass) :
    pass = trace := by
  generalize same : [trace] = traces at order
  induction order generalizing trace with
  | done finished => exact (finished trace (same ▸ List.mem_singleton_self trace)).symm
  | step _ ih =>
      rcases List.append_eq_singleton_iff.mp same.symm with ⟨rfl, alone⟩ | ⟨_, impossible⟩
      · cases alone
        rw [ih rfl]
      · cases impossible

/-- A worker without items changes nothing. -/
theorem idle {traces : List (List Item)} {pass : List Item} (order : Interleaves traces pass) :
    Interleaves ([] :: traces) pass := by
  induction order with
  | done finished => exact .done (List.forall_mem_cons.mpr ⟨rfl, finished⟩)
  | step _ ih => exact @step _ ([] :: _) _ _ _ _ ih

/-- The workers may go one after the other. -/
theorem oneByOne (traces : List (List Item)) : Interleaves traces traces.flatten := by
  induction traces with
  | nil => exact .done (List.forall_mem_nil _)
  | cons trace traces ih =>
      induction trace with
      | nil => exact ih.idle
      | cons item rest later => exact @step _ [] _ _ _ _ later

/-- An interleaving of images is the image of an interleaving. -/
theorem exists_of_map {image : Item -> Image} {traces : List (List Item)} {pass : List Image}
    (order : Interleaves (traces.map (List.map image)) pass) :
    exists origin, Interleaves traces origin ∧ origin.map image = pass := by
  generalize same : traces.map (List.map image) = images at order
  induction order generalizing traces with
  | done finished =>
      refine ⟨[], .done fun trace listed => ?_, rfl⟩
      have empty := finished (trace.map image) (same ▸ List.mem_map_of_mem listed)
      exact List.map_eq_nil_iff.mp empty
  | step _ ih =>
      rcases List.map_eq_append_iff.mp same with ⟨before, others, rfl, rfl, split⟩
      rcases List.map_eq_cons_iff.mp split with ⟨trace, after, rfl, moved, rfl⟩
      rcases List.map_eq_cons_iff.mp moved with ⟨item, rest, rfl, rfl, rfl⟩
      have remaining : (before ++ rest :: after).map (List.map image) =
          before.map (List.map image) ++ rest.map image :: after.map (List.map image) := by
        rw [List.map_append, List.map_cons]
      rcases ih remaining with ⟨origin, order, rfl⟩
      exact ⟨item :: origin, .step order, rfl⟩

end Interleaves

/-! ## Places -/

variable {Unit Image : Type}

/-- Pieces of images are images of pieces. -/
theorem cut_map (image : Unit -> Image) (width bound : Nat) (units : List Unit) :
    cut width bound [] (units.map image) = (cut width bound [] units).map (List.map image) := by
  induction bound generalizing units with
  | zero => rfl
  | succ bound ih =>
      cases units with
      | nil => rfl
      | cons unit units =>
          rw [List.map_cons, cut_cons, cut_cons, ← List.map_cons, ← List.map_take, ← List.map_drop,
            ih, List.map_cons]

@[simp] theorem pieces_map (image : Unit -> Image) (width : Nat) (units : List Unit) :
    pieces width (units.map image) = (pieces width units).map (List.map image) := by
  rw [pieces, List.length_map, cut_map]
  rfl

theorem flatten_pieces {width : Nat} (pos : 0 < width) (units : List Unit) :
    (pieces width units).flatten = units :=
  flatten_cut pos units.length units (Nat.le_refl _)

end Scan

namespace Harness

open Scan

/-- The answers to all units of a view of a buffer, in ascending order. -/
def answers (mode : ScanMode) (buffer : Buffer) : List Bool :=
  match mode with
  | .bytes => buffer.bytes.map Whitespace.contains
  | .chars => buffer.text.map Whitespace.containsChar

/-- How the units of a view are shared among workers: in consecutive chunks, or not at all. -/
def shares {Unit : Type} (settings : ScannerSettings) (units : List Unit) : List (List Unit) :=
  if settings.parallel then pieces (max 1 settings.chunkSize.toNat) units else [units]

@[simp] theorem shares_map {Unit Image : Type} (settings : ScannerSettings) (image : Unit -> Image)
    (units : List Unit) :
    shares settings (units.map image) = (shares settings units).map (List.map image) := by
  unfold shares
  split
  · exact pieces_map image _ units
  · rfl

@[simp] theorem flatten_shares {Unit : Type} (settings : ScannerSettings) (units : List Unit) :
    (shares settings units).flatten = units := by
  unfold shares
  split
  · exact flatten_pieces (Nat.le_max_left 1 _) units
  · exact List.flatten_singleton

variable {machine : Machine} {config : Config} {buffer : Buffer} {harness : Harness}

/-- The three harnesses that can be made for a buffer. -/
theorem scanning_of_ofBuffer (made : (ofBuffer machine config buffer).result = .ok harness) :
    harness.buffer = buffer ∧
      (config.scanner.parallel = true ∧ config.scanner.mode = .bytes ∧
          harness.scanning = .chunks (ChunkedScanner.create machine.processors
            config.scanner.maxThreads config.scanner.chunkSize) ∨
        config.scanner.parallel = false ∧ config.scanner.mode = .bytes ∧
          harness.scanning = .bytes ∨
        config.scanner.parallel = false ∧ config.scanner.mode = .chars ∧
          harness.scanning = .chars) := by
  cases shared : config.scanner.parallel with
  | false =>
      rcases ofBuffer_alone machine config buffer (Bool.eq_false_iff.mp shared) with
        ⟨scanning, mode, alone, result⟩
      cases result.symm.trans made
      refine ⟨rfl, Or.inr ?_⟩
      cases scanning with
      | bytes => exact Or.inl ⟨rfl, mode.symm, rfl⟩
      | chars => exact Or.inr ⟨rfl, mode.symm, rfl⟩
      | chunks scanner => cases alone
  | true =>
      cases view : config.scanner.mode with
      | chars =>
          unfold ofBuffer at made
          rw [if_pos shared, view] at made
          cases made
      | bytes =>
          have outcome := ofBuffer_shared_bytes machine config buffer shared view
          cases started : machine.startWorkers (askedWorkers machine config) with
          | error reason => cases (outcome.1 reason started).symm.trans made
          | ok nothing =>
              cases (outcome.2 started).symm.trans made
              exact ⟨rfl, Or.inl ⟨rfl, rfl, rfl⟩⟩

/-- A harness walks the configured view of its buffer, shared as configured. -/
theorem traces_of_ofBuffer (made : (ofBuffer machine config buffer).result = .ok harness) :
    harness.traces = shares config.scanner (answers config.scanner.mode buffer) := by
  unfold traces shares
  rcases scanning_of_ofBuffer made with
    ⟨rfl, ⟨shared, mode, scanning⟩ | ⟨alone, mode, scanning⟩ | ⟨alone, mode, scanning⟩⟩
  · rw [if_pos shared, mode, scanning, ← ChunkedScanner.create_chunkSize machine.processors
      config.scanner.maxThreads]
    exact (pieces_map Whitespace.contains _ harness.buffer.bytes).symm
  · rw [if_neg (Bool.eq_false_iff.mp alone), mode, scanning]
    rfl
  · rw [if_neg (Bool.eq_false_iff.mp alone), mode, scanning]
    rfl

/-- The whitespace among the answers is what the harness counts. -/
theorem count_answers (made : (ofBuffer machine config buffer).result = .ok harness) :
    (answers config.scanner.mode buffer).count true = harness.whitespaceCount := by
  unfold whitespaceCount
  rcases scanning_of_ofBuffer made with
    ⟨rfl, ⟨_, mode, scanning⟩ | ⟨_, mode, scanning⟩ | ⟨_, mode, scanning⟩⟩
  · rw [mode, scanning]
    exact (count_true_map _ _).trans (ChunkedScanner.count_eq _).symm
  · rw [mode, scanning]
    exact count_true_map _ _
  · rw [mode, scanning]
    exact count_true_map _ _

/-! ## Passes -/

/-- What one pass over a view does: it visits every unit once, and a walk that is not shared
visits them in ascending order. -/
structure Covers (pass : List Bool) (settings : ScannerSettings) (view : List Bool) : Prop where
  /-- The answers are those of visits to the places of the view, each place once. -/
  once : exists visits, Interleaves (shares settings view.zipIdx) visits ∧
    visits.map Prod.fst = pass ∧ visits.Perm view.zipIdx
  perm : pass.Perm view
  ascending : settings.parallel = false -> pass = view

theorem covers_of_interleaves {settings : ScannerSettings} {view pass : List Bool}
    (order : Interleaves (shares settings view) pass) : Covers pass settings view where
  once := by
    have places : view.zipIdx.map Prod.fst = view := List.zipIdx_map_fst 0 view
    rw [← places, shares_map] at order
    rcases order.exists_of_map with ⟨visits, visited, same⟩
    exact ⟨visits, visited, same, by simpa using visited.perm⟩
  perm := by simpa using order.perm
  ascending := by
    intro alone
    rw [shares, if_neg (Bool.eq_false_iff.mp alone)] at order
    exact order.eq_of_single

/-- Passes that make the same number of answers, and meet the same whitespace, add up. -/
theorem answers_of_passes {size whitespace count : Nat} {passes : List (List Bool)}
    (each : forall pass, Interleaves harness.traces pass ->
      pass.length = size ∧ pass.count true = whitespace)
    (done : List.Forall₂ Interleaves (harness.passes count) passes) :
    passes.length = count ∧ passes.flatten.length = count * size ∧
      passes.flatten.count true = count * whitespace := by
  induction count generalizing passes with
  | zero =>
      cases done
      simp
  | succ count ih =>
      cases done with
      | cons first others =>
          rcases ih others with ⟨number, length, found⟩
          rcases each _ first with ⟨size, whitespace⟩
          rw [List.length_cons, List.flatten_cons, List.length_append, List.count_append, number,
            length, found, size, whitespace, Nat.succ_mul, Nat.succ_mul]
          exact ⟨rfl, Nat.add_comm _ _, Nat.add_comm _ _⟩

/-- A harness that was made for a buffer walks the configured view of it, in one trace or
chunk by chunk.  However the workers interleave, a pass visits every unit of the view once and
meets as much whitespace as the harness counts, so that repeated passes meet that multiple of
it. -/
theorem ofBuffer_passes_cover (made : (ofBuffer machine config buffer).result = .ok harness) :
    harness.traces = shares config.scanner (answers config.scanner.mode buffer) ∧
    Interleaves harness.traces (answers config.scanner.mode buffer) ∧
    (forall pass, Interleaves harness.traces pass ->
      Covers pass config.scanner (answers config.scanner.mode buffer) ∧
        pass.count true = harness.whitespaceCount) ∧
    forall count passes, List.Forall₂ Interleaves (harness.passes count) passes ->
      passes.length = count ∧
        passes.flatten.length = count * (answers config.scanner.mode buffer).length ∧
        passes.flatten.count true = count * harness.whitespaceCount := by
  have traces := traces_of_ofBuffer made
  have covers (pass : List Bool) (order : Interleaves harness.traces pass) :
      Covers pass config.scanner (answers config.scanner.mode buffer) :=
    covers_of_interleaves (traces ▸ order)
  have counted (pass : List Bool) (order : Interleaves harness.traces pass) :
      pass.count true = harness.whitespaceCount := by
    rw [(covers pass order).perm.count_eq, count_answers made]
  refine ⟨traces, ?_, fun pass order => ⟨covers pass order, counted pass order⟩, ?_⟩
  · have whole := Interleaves.oneByOne harness.traces
    rwa [traces, flatten_shares, ← traces] at whole
  · intro count passes done
    exact answers_of_passes
      (fun pass order => ⟨(covers pass order).perm.length_eq, counted pass order⟩) done

/-- The last chunk goes first, and a character is torn apart by a chunk boundary. -/
theorem ofBuffer_passes_cover_interleaved :
    let machine := Machine.bounded 1 0x40000000
    let config : Config := { Config.default 1 with scanner := ⟨.bytes, true, 3, 2⟩ }
    let buffer : Buffer := ⟨[0x20, 0xE2, 0x82, 0x09, 0xFF], by decide⟩
    exists harness, (ofBuffer machine config buffer).result = .ok harness ∧
      harness.traces = [[true, false], [false, true], [false]] ∧
      Interleaves harness.traces [false, false, true, true, false] ∧
      Covers [false, false, true, true, false] config.scanner [true, false, false, true, false] ∧
      harness.whitespaceCount = 2 := by
  intro machine config buffer
  let harness : Harness := ⟨buffer, .chunks (ChunkedScanner.create 1 3 2), config.harness⟩
  have made : (ofBuffer machine config buffer).result = .ok harness := rfl
  have order : Interleaves harness.traces [false, false, true, true, false] :=
    @Interleaves.step _ [[true, false], [false, true]] [] false [] _ <|
    @Interleaves.step _ [[true, false]] [[]] false [true] _ <|
    @Interleaves.step _ [] [[true], []] true [false] _ <|
    @Interleaves.step _ [[false]] [[]] true [] _ <|
    @Interleaves.step _ [] [[], []] false [] _ <| .done (by decide)
  have covered := (ofBuffer_passes_cover made).2.2.1 _ order
  exact ⟨harness, made, rfl, order, covered.1, covered.2.symm⟩

end Harness
end WhitespaceBench
