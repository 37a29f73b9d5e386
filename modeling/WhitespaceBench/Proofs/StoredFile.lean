import Mathlib
import WhitespaceBench.Store

namespace WhitespaceBench

/-!
# What was written is read back

A file that was written holds the bytes that were written, and can be written again.  The
path leads to the same place afterwards: only the place itself has changed, and it is no
directory, neither before nor after, so no path leads through it.
-/

namespace Text.Utf8

/-- Encoded text is well formed and is decoded to what it was. -/
@[simp] theorem decode?_encode (text : List Char) : decode? (encode text) = some text := by
  have encoded : (encode text).toByteArray = (String.ofList text).toByteArray := by
    rw [String.toByteArray_ofList, List.utf8Encode, encode]
  rw [decode?, encoded, String.fromUTF8?, dif_pos (String.ofList text).isValidUTF8]
  exact congrArg some String.toList_ofList

end Text.Utf8

namespace Store

variable {store : Store}

@[simp] theorem node?_put_self (store : Store) {place : Location} (inner : place ≠ [])
    (node : Node) :
    (store.put place node).node? place = some node := by
  cases place with
  | nil => exact absurd rfl inner
  | cons name names => simp [node?, put]

theorem lookup_filter_ne {place other : Location} (different : other ≠ place)
    (nodes : List (Location × Node)) :
    (nodes.filter fun entry => entry.1 ≠ place).lookup other = nodes.lookup other := by
  induction nodes with
  | nil => rfl
  | cons entry nodes ih =>
      by_cases here : entry.1 = place
      · rw [List.filter_cons_of_neg (by simp [here]), ih, List.lookup_cons]
        have apart : (other == entry.1) = false := by
          rw [here]
          exact beq_eq_false_iff_ne.mpr different
        rw [apart]
      · rw [List.filter_cons_of_pos (by simp [here]), List.lookup_cons, List.lookup_cons, ih]

@[simp] theorem node?_put_of_ne (store : Store) {place other : Location} (different : other ≠ place)
    (node : Node) : (store.put place node).node? other = store.node? other := by
  cases other with
  | nil => rfl
  | cons name names =>
      have apart : (name :: names == place) = false := beq_eq_false_iff_ne.mpr different
      change List.lookup (name :: names) ((place, node) :: store.nodes.filter _) = _
      rw [List.lookup_cons, apart]
      exact lookup_filter_ne different store.nodes

/-- Where a name leads from a place, if it is not too long. -/
def next? (name : String) (place : Location) : Option Location :=
  if name = "" ∨ name = "." then some place
  else if name = ".." then some place.tail
  else if nameLimit < name.utf8ByteSize then none
  else some (name :: place)

/-- A walk goes on from a directory only, and what is stored decides nothing else about it. -/
theorem walk_cons_iff {name : String} {names : List String} {start result : Location} :
    store.walk (name :: names) start = .ok result <->
      store.node? start = some .directory ∧
        exists next, next? name start = some next ∧ store.walk names next = .ok result := by
  rw [walk]
  cases store.node? start with
  | none => simp
  | some node =>
      cases node with
      | file bytes => simp
      | directory =>
          unfold next?
          dsimp only
          split_ifs <;> simp

/-- A change at a place that is no directory changes no way to any place. -/
theorem walk_put {place : Location} (outer : store.node? place ≠ some .directory) (node : Node)
    {names : List String} {start result : Location} (walked : store.walk names start = .ok result) :
    (store.put place node).walk names start = .ok result := by
  induction names generalizing start with
  | nil => exact walked
  | cons name names ih =>
      rcases walk_cons_iff.mp walked with ⟨directory, next, leads, others⟩
      have different : start ≠ place := by
        rintro rfl
        exact outer directory
      exact walk_cons_iff.mpr ⟨by simp [different, directory], next, leads, ih others⟩

/-- What is put at a place twice is put there once. -/
@[simp] theorem put_put (store : Store) (place : Location) (node : Node) :
    (store.put place node).put place node = store.put place node := by
  simp [put, List.filter_filter]

/-- Names that end in a slash lead to a directory, or nowhere. -/
theorem node?_of_walk_concat {names : List String} {start place : Location}
    (walked : store.walk (names ++ [""]) start = .ok place) :
    store.node? place = some .directory := by
  induction names generalizing start with
  | nil =>
      rcases walk_cons_iff.mp walked with ⟨directory, next, leads, stays⟩
      cases leads
      cases stays
      exact directory
  | cons name names ih =>
      rcases walk_cons_iff.mp walked with ⟨_, next, _, others⟩
      exact ih others

theorem read_eq_ok_iff {path : String} {bytes : List UInt8} :
    store.read path = .ok bytes <->
      exists place, store.resolve path = .ok place ∧ store.node? place = some (.file bytes) := by
  rw [read]
  cases store.resolve path with
  | error fault => simp
  | ok place =>
      cases held : store.node? place with
      | none => simp [held]
      | some node => cases node <;> simp [held]

theorem readText_eq_ok_iff {path : String} {text : List Char} :
    store.readText path = .ok text <->
      exists bytes, store.read path = .ok bytes ∧ Text.Utf8.decode? bytes = some text := by
  rw [readText]
  cases store.read path with
  | error fault => simp
  | ok bytes => cases decoded : Text.Utf8.decode? bytes <;> simp [decoded]

/-- A path at which a file can be written: it leads to a place that is no directory. -/
structure LeadsTo (store : Store) (path : String) (place : Location) : Prop where
  sound : pathFault? path = none
  named : (names path).getLast? ≠ some ""
  walked : store.walk (names path) [] = .ok place
  outer : store.node? place ≠ some .directory

namespace LeadsTo

variable {path : String} {place : Location}

theorem inner (leads : store.LeadsTo path place) : place ≠ [] := by
  rintro rfl
  exact leads.outer rfl

theorem write (leads : store.LeadsTo path place) (bytes : List UInt8) :
    store.write path bytes = .ok (store.put place (.file bytes)) := by
  rw [Store.write, leads.sound]
  dsimp only
  rw [target, if_neg leads.named, leads.walked]
  dsimp only
  split
  · rename_i directory
    exact absurd directory leads.outer
  · rfl

theorem put (leads : store.LeadsTo path place) (bytes : List UInt8) :
    (store.put place (.file bytes)).LeadsTo path place where
  sound := leads.sound
  named := leads.named
  walked := walk_put leads.outer _ leads.walked
  outer := by simp [leads.inner]

theorem resolve (leads : store.LeadsTo path place) : store.resolve path = .ok place := by
  rw [Store.resolve, leads.sound]
  exact leads.walked

theorem read (leads : store.LeadsTo path place) {bytes : List UInt8}
    (found : store.node? place = some (.file bytes)) : store.read path = .ok bytes :=
  read_eq_ok_iff.mpr ⟨place, leads.resolve, found⟩

theorem holds_iff (leads : store.LeadsTo path place) :
    store.holds path = (store.node? place).isSome := by
  rw [holds, leads.resolve]

end LeadsTo

theorem holds_of_read {path : String} {bytes : List UInt8}
    (present : store.read path = .ok bytes) : store.holds path = true := by
  rcases read_eq_ok_iff.mp present with ⟨place, resolved, held⟩
  rw [holds, resolved]
  dsimp only
  rw [held]
  rfl

/-- Where a file was read, another can be written. -/
theorem leadsTo_of_read {path : String} {bytes : List UInt8}
    (found : store.read path = .ok bytes) : exists place, store.LeadsTo path place := by
  rcases read_eq_ok_iff.mp found with ⟨place, resolved, held⟩
  have outer : store.node? place ≠ some .directory := by
    rw [held]
    exact fun same => nomatch same
  rw [resolve] at resolved
  split at resolved
  · cases resolved
  · rename_i sound
    refine ⟨place, sound, fun slash => ?_, resolved, outer⟩
    rcases List.getLast?_eq_some_iff.mp slash with ⟨before, split⟩
    rw [split] at resolved
    exact outer (node?_of_walk_concat resolved)

/-- Where a file was written, the path leads to a place that is no directory. -/
theorem leadsTo_of_write {path : String} {bytes : List UInt8} {next : Store}
    (written : store.write path bytes = .ok next) : exists place, store.LeadsTo path place := by
  rw [write] at written
  split at written
  · cases written
  · rename_i sound
    split at written
    · cases written
    · rename_i place found
      rw [target] at found
      split at found
      · split at found <;> cases found
      · rename_i ending
        split at written
        · cases written
        · rename_i outer
          exact ⟨place, sound, ending, found, fun directory => outer directory⟩

end Store
end WhitespaceBench
