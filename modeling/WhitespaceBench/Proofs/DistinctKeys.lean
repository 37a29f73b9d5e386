import WhitespaceBench.Proofs.WrittenDocument

namespace WhitespaceBench
namespace Toml

/-!
# No key of a document is given twice

Every table of a document that was read has different keys: a statement that would give a
key a second value is refused, and a table that is opened late is moved as a whole.  So a
table is determined by what its keys lead to, and the order of its entries is a matter of
spelling.
-/

/-- The keys of a table differ, and so do those of every table in it. -/
inductive Value.IsDistinct : Value -> Prop where
  | scalar (span : Option Span) (scalar : Scalar) : IsDistinct (.scalar span scalar)
  | array {span : Option Span} {form : ArrayForm} {items : List Value}
      (each : forall item, item ∈ items -> IsDistinct item) :
      IsDistinct (.array span form items)
  | table {span : Option Span} {form : TableForm} {entries : List (Key × Value)}
      (names : (Entries.names entries).Nodup)
      (each : forall entry, entry ∈ entries -> IsDistinct entry.2) :
      IsDistinct (.table span form entries)

namespace Entries

/-- The keys of entries differ, and so do those of every table in them. -/
structure AreDistinct (entries : Entries) : Prop where
  names : entries.names.Nodup
  each : forall entry, entry ∈ entries -> entry.2.IsDistinct

@[simp] theorem areDistinct_nil : AreDistinct [] :=
  ⟨List.nodup_nil, List.forall_mem_nil _⟩

theorem AreDistinct.table {entries : Entries} (distinct : entries.AreDistinct)
    (span : Option Span) (form : TableForm) : (Value.table span form entries).IsDistinct :=
  .table distinct.names distinct.each

theorem areDistinct_of_table {span : Option Span} {form : TableForm} {entries : Entries}
    (distinct : (Value.table span form entries).IsDistinct) : entries.AreDistinct := by
  cases distinct with
  | table names each => exact ⟨names, each⟩

@[simp] theorem areDistinct_cons {entry : Key × Value} {entries : Entries} :
    AreDistinct (entry :: entries) <->
      entry.1.name ∉ entries.names ∧ entry.2.IsDistinct ∧ entries.AreDistinct := by
  constructor
  · rintro ⟨names, each⟩
    rw [Entries.names, List.map_cons, List.nodup_cons] at names
    rw [List.forall_mem_cons] at each
    exact ⟨names.1, each.1, names.2, each.2⟩
  · rintro ⟨absent, first, others⟩
    exact ⟨List.nodup_cons.mpr ⟨absent, others.names⟩,
      List.forall_mem_cons.mpr ⟨first, others.each⟩⟩

/-- A change that keeps keys distinct inside a value keeps them distinct around it; no name
but that of the key may be new. -/
theorem AreDistinct.alter {entries changed : Entries} {key : Key}
    {change : Option Value -> Option Value} (distinct : entries.AreDistinct)
    (keeps : forall present value, (forall old, present = some old -> old.IsDistinct) ->
      change present = some value -> value.IsDistinct)
    (altered : entries.alter key change = some changed) :
    changed.AreDistinct ∧
      forall name, name ∈ changed.names -> name = key.name ∨ name ∈ entries.names := by
  induction entries generalizing changed with
  | nil =>
      rw [Entries.alter] at altered
      cases made : change none with
      | none => simp [made] at altered
      | some value =>
          rw [made] at altered
          cases altered
          have nothing : forall old, (none : Option Value) = some old -> old.IsDistinct := by
            intro old present
            cases present
          have inner := keeps none value nothing made
          exact ⟨areDistinct_cons.mpr ⟨List.not_mem_nil, inner, areDistinct_nil⟩,
            fun name member => Or.inl (List.mem_singleton.mp member)⟩
  | cons entry entries ih =>
      rcases areDistinct_cons.mp distinct with ⟨absent, first, others⟩
      rw [Entries.alter] at altered
      by_cases same : entry.1.name = key.name
      · rw [if_pos same] at altered
        cases made : change (some entry.2) with
        | none => simp [made] at altered
        | some value =>
            rw [made] at altered
            cases altered
            have inner := keeps (some entry.2) value
              (fun old present => Option.some.inj present ▸ first) made
            exact ⟨areDistinct_cons.mpr ⟨absent, inner, others⟩, fun name member => Or.inr member⟩
      · rw [if_neg same] at altered
        cases later : Entries.alter key change entries with
        | none => simp [later] at altered
        | some rest =>
            rw [later] at altered
            cases altered
            rcases ih others later with ⟨restDistinct, known⟩
            have fresh : entry.1.name ∉ rest.names := by
              intro member
              rcases known _ member with new | old
              · exact same new
              · exact absent old
            refine ⟨areDistinct_cons.mpr ⟨fresh, first, restDistinct⟩, ?_⟩
            intro name member
            rcases List.mem_cons.mp member with here | member
            · exact Or.inr (List.mem_cons.mpr (Or.inl here))
            · exact (known name member).imp_right fun old => List.mem_cons_of_mem _ old

/-- A new key at the end. -/
theorem AreDistinct.append {entries : Entries} {key : Key} {value : Value}
    (distinct : entries.AreDistinct) (absent : key.name ∉ entries.names)
    (inner : value.IsDistinct) : AreDistinct (entries ++ [(key, value)]) := by
  constructor
  · rw [Entries.names, List.map_append]
    refine List.nodup_append.mpr ⟨distinct.names, List.nodup_singleton _, ?_⟩
    intro first member second last same
    rw [same, List.mem_singleton.mp last] at member
    exact absent member
  · intro entry member
    rcases List.mem_append.mp member with member | last
    · exact distinct.each entry member
    · exact List.mem_singleton.mp last ▸ inner

theorem AreDistinct.erase {entries : Entries} (distinct : entries.AreDistinct) (name : String) :
    (entries.erase name).AreDistinct ∧ name ∉ (entries.erase name).names := by
  refine ⟨⟨distinct.names.sublist (List.filter_sublist.map _), ?_⟩, ?_⟩
  · exact fun entry member => distinct.each entry (List.mem_filter.mp member).1
  · intro member
    rcases List.mem_map.mp member with ⟨entry, kept, named⟩
    have other := (List.mem_filter.mp kept).2
    simp [named] at other

theorem mem_of_get? {entries : Entries} {name : String} {value : Value}
    (found : entries.get? name = some value) :
    exists key : Key, key.name = name ∧ (key, value) ∈ entries := by
  induction entries with
  | nil => cases found
  | cons entry entries ih =>
      rw [get?] at found
      by_cases same : entry.1.name = name
      · rw [if_pos same] at found
        cases found
        exact ⟨entry.1, same, List.mem_cons_self⟩
      · rw [if_neg same] at found
        rcases ih found with ⟨key, named, member⟩
        exact ⟨key, named, List.mem_cons_of_mem _ member⟩

theorem not_mem_of_get? {entries : Entries} {name : String}
    (missing : entries.get? name = none) : name ∉ entries.names := by
  induction entries with
  | nil => exact List.not_mem_nil
  | cons entry entries ih =>
      rw [get?] at missing
      by_cases same : entry.1.name = name
      · rw [if_pos same] at missing
        cases missing
      · rw [if_neg same] at missing
        rw [names, List.map_cons, List.mem_cons, not_or]
        exact ⟨Ne.symm same, ih missing⟩

theorem get?_of_mem {entries : Entries} (distinct : entries.names.Nodup) {key : Key}
    {value : Value} (member : (key, value) ∈ entries) : entries.get? key.name = some value := by
  induction entries with
  | nil => exact absurd member List.not_mem_nil
  | cons entry entries ih =>
      rw [names, List.map_cons, List.nodup_cons] at distinct
      rw [get?]
      rcases List.mem_cons.mp member with rfl | later
      · exact if_pos rfl
      · have other : entry.1.name ≠ key.name := by
          intro same
          exact distinct.1 (List.mem_map.mpr ⟨_, later, same.symm⟩)
        rw [if_neg other]
        exact ih distinct.2 later

/-- Entries with different keys lead to the same values in any order. -/
theorem get?_of_perm {entries others : Entries} (distinct : entries.names.Nodup)
    (same : entries.Perm others) (name : String) : others.get? name = entries.get? name := by
  cases found : entries.get? name with
  | none =>
      apply get?_of_not_mem
      intro member
      exact not_mem_of_get? found ((same.map _).mem_iff.mpr member)
  | some value =>
      rcases mem_of_get? found with ⟨key, rfl, member⟩
      exact get?_of_mem ((same.map _).nodup_iff.mp distinct) (same.mem_iff.mp member)

end Entries

/-- A change of entries that keeps their keys distinct. -/
def KeepsDistinct (change : Entries -> Option Entries) : Prop :=
  forall entries changed, entries.AreDistinct -> change entries = some changed ->
    changed.AreDistinct

/-! ## Assignments -/

theorem changeNewest_isDistinct {change : Entries -> Option Entries}
    (keeps : KeepsDistinct change) {tables changed : List Value}
    (each : forall table, table ∈ tables -> table.IsDistinct)
    (made : changeNewest change tables = some changed) :
    forall table, table ∈ changed -> table.IsDistinct := by
  unfold changeNewest at made
  split at made
  · rename_i span form entries older
    cases own : change entries with
    | none => simp [own] at made
    | some next =>
        rw [own] at made
        cases made
        have newest := Entries.areDistinct_of_table (List.forall_mem_cons.mp each).1
        exact List.forall_mem_cons.mpr ⟨(keeps entries next newest own).table span form,
          (List.forall_mem_cons.mp each).2⟩
  · cases made

theorem assign_keepsDistinct (path : List Key) (key : Key) {value : Value}
    (given : value.IsDistinct) : KeepsDistinct (assign path key value) := by
  induction path with
  | nil =>
      intro entries changed distinct made
      refine (distinct.alter ?_ made).1
      intro present result _ assigned
      cases present with
      | none =>
          cases assigned
          exact given
      | some old => cases assigned
  | cons step path ih =>
      intro entries changed distinct made
      refine (distinct.alter ?_ made).1
      intro present result held assigned
      split at assigned
      · split at assigned
        · cases assigned
        · rename_i inner made
          cases assigned
          exact (ih [] inner Entries.areDistinct_nil made).table none .dotted
      · rename_i span inner
        split at assigned
        · cases assigned
        · rename_i next made
          cases assigned
          have own := Entries.areDistinct_of_table (held _ rfl)
          exact (ih inner next own made).table span .dotted
      · rename_i span inner
        split at assigned
        · cases assigned
        · split at assigned
          · cases assigned
          · rename_i next made
            cases assigned
            have own := Entries.areDistinct_of_table (held _ rfl)
            exact (ih inner next own made).table span .implicit
      · rename_i span tables
        split at assigned
        · cases assigned
        · split at assigned
          · cases assigned
          · rename_i next made
            cases assigned
            cases held _ rfl with
            | array each => exact .array (changeNewest_isDistinct ih each made)
      · cases assigned

theorem assignAll_keepsDistinct {assignments : List Assignment}
    (given : forall assignment, assignment ∈ assignments -> assignment.value.IsDistinct) :
    KeepsDistinct (assignAll assignments) := by
  induction assignments with
  | nil =>
      intro entries changed distinct made
      cases made
      exact distinct
  | cons assignment assignments ih =>
      intro entries changed distinct made
      rw [assignAll] at made
      split at made
      · cases made
      · rename_i next assigned
        rw [List.forall_mem_cons] at given
        have first := assign_keepsDistinct assignment.path assignment.key given.1 entries next
          distinct assigned
        exact ih given.2 next changed first made

/-! ## Values -/

/-- A reader whose values have distinct keys. -/
def ReadsDistinct (read : List Char -> Option (Value × List Char)) : Prop :=
  forall text value rest, read text = some (value, rest) -> value.IsDistinct

theorem items_isDistinct {read : List Char -> Option (Value × List Char)}
    (reads : ReadsDistinct read) {steps text rest : List Char} {values : List Value}
    (made : items read steps text = some (values, rest)) :
    forall value, value ∈ values -> value.IsDistinct := by
  induction steps generalizing text values with
  | nil => cases made
  | cons step steps ih =>
      rw [items] at made
      split at made
      · cases made
      · rename_i item behind first
        have head := reads text item behind first
        have alone : forall value, value ∈ [item] -> value.IsDistinct :=
          List.forall_mem_singleton.mpr head
        split at made
        · cases made
          exact alone
        · split at made
          · cases made
            exact alone
          · split at made
            · cases made
            · rename_i others last later
              cases made
              exact List.forall_mem_cons.mpr ⟨head, ih later⟩
        · cases made

theorem assignment_isDistinct {read : List Char -> Option (Value × List Char)}
    (reads : ReadsDistinct read) {text rest : List Char} {assigned : Assignment}
    (made : assignment read text = some (assigned, rest)) : assigned.value.IsDistinct := by
  unfold assignment at made
  split at made
  · split at made
    · cases made
    · rename_i found
      cases made
      exact reads _ _ _ found
  · cases made

theorem inlineAssignments_isDistinct {read : List Char -> Option (Value × List Char)}
    (reads : ReadsDistinct read) {steps text rest : List Char} {assignments : List Assignment}
    (made : inlineAssignments read steps text = some (assignments, rest)) :
    forall assigned, assigned ∈ assignments -> assigned.value.IsDistinct := by
  induction steps generalizing text assignments with
  | nil => cases made
  | cons step steps ih =>
      rw [inlineAssignments] at made
      split at made
      · cases made
      · rename_i first behind found
        have head := assignment_isDistinct reads found
        split at made
        · cases made
          exact List.forall_mem_singleton.mpr head
        · split at made
          · cases made
          · rename_i others last later
            cases made
            exact List.forall_mem_cons.mpr ⟨head, ih later⟩
        · cases made

theorem scalarValue_readsDistinct : ReadsDistinct scalarValue := by
  intro text value rest made
  unfold scalarValue at made
  split at made
  · cases made
  · cases made
    exact .scalar _ _

theorem arrayBody_isDistinct {read : List Char -> Option (Value × List Char)}
    (reads : ReadsDistinct read) {text rest : List Char} {values : List Value}
    (made : arrayBody read text = some (values, rest)) :
    forall value, value ∈ values -> value.IsDistinct := by
  unfold arrayBody at made
  split at made
  · cases made
    exact List.forall_mem_nil _
  · exact items_isDistinct reads made

theorem tableBody_areDistinct {read : List Char -> Option (Value × List Char)}
    (reads : ReadsDistinct read) {text rest : List Char} {entries : Entries}
    (made : tableBody read text = some (entries, rest)) : entries.AreDistinct := by
  unfold tableBody at made
  split at made
  · cases made
    exact Entries.areDistinct_nil
  · split at made
    · cases made
    · rename_i assignments behind found
      split at made
      · cases made
      · rename_i own assigned
        cases made
        exact assignAll_keepsDistinct (inlineAssignments_isDistinct reads found) [] entries
          Entries.areDistinct_nil assigned

theorem value_readsDistinct (depth : Nat) : ReadsDistinct (value depth) := by
  induction depth with
  | zero => exact scalarValue_readsDistinct
  | succ depth ih =>
      intro text read rest made
      unfold value at made
      split at made
      · split at made
        · cases made
        · rename_i found
          cases made
          exact .array (arrayBody_isDistinct ih found)
      · split at made
        · cases made
        · rename_i found
          cases made
          exact (tableBody_areDistinct ih found).table _ .inline
      · exact scalarValue_readsDistinct text read rest made

/-! ## Statements and sections -/

/-- The value of an assignment has distinct keys. -/
def Statement.IsDistinct : Statement -> Prop
  | header _ => True
  | assignment assigned => assigned.value.IsDistinct

theorem statement_isDistinct {text rest : List Char} {read : Statement}
    (made : statement text = some (read, rest)) : read.IsDistinct := by
  unfold statement at made
  split at made
  · split at made
    · cases made
    · cases made
      exact trivial
  · split at made
    · cases made
    · rename_i found
      cases made
      exact assignment_isDistinct (value_readsDistinct depthLimit) found

theorem statements_isDistinct {bound : Nat} {text : List Char} {read : List Statement}
    (made : statements bound text = some read) :
    forall said, said ∈ read -> said.IsDistinct := by
  induction bound generalizing text read with
  | zero =>
      rw [statements] at made
      split at made
      · cases made
        exact List.forall_mem_nil _
      · cases made
  | succ bound ih =>
      rw [statements] at made
      split at made
      · cases made
        exact List.forall_mem_nil _
      · split at made
        · split at made
          · cases made
          · exact ih made
        · split at made
          · cases made
          · rename_i first behind found
            split at made
            · cases made
            · split at made
              · cases made
              · rename_i more later
                cases made
                exact List.forall_mem_cons.mpr ⟨statement_isDistinct found, ih later⟩

/-- The outline of statements has no other assignments. -/
theorem outline_isDistinct {read : List Statement}
    (each : forall said, said ∈ read -> said.IsDistinct) :
    (forall assigned, assigned ∈ (outline read).1 -> assigned.value.IsDistinct) ∧
    forall part, part ∈ (outline read).2 ->
      forall assigned, assigned ∈ part.assignments -> assigned.value.IsDistinct := by
  induction read with
  | nil => exact ⟨List.forall_mem_nil _, List.forall_mem_nil _⟩
  | cons said read ih =>
      rw [List.forall_mem_cons] at each
      rcases ih each.2 with ⟨own, sections⟩
      cases said with
      | header header =>
          exact ⟨List.forall_mem_nil _, List.forall_mem_cons.mpr ⟨own, sections⟩⟩
      | assignment assigned =>
          exact ⟨List.forall_mem_cons.mpr ⟨each.1, own⟩, sections⟩

theorem within_keepsDistinct {change : Entries -> Option Entries} (keeps : KeepsDistinct change)
    (path : List Key) : KeepsDistinct (within path change) := by
  induction path with
  | nil => exact keeps
  | cons step path ih =>
      intro entries changed distinct made
      refine (distinct.alter ?_ made).1
      intro present result held followed
      split at followed
      · split at followed
        · cases followed
        · rename_i inner made
          cases followed
          exact (ih [] inner Entries.areDistinct_nil made).table none .implicit
      · rename_i span form inner
        split at followed
        · cases followed
        · split at followed
          · cases followed
          · rename_i next made
            cases followed
            have own := Entries.areDistinct_of_table (held _ rfl)
            exact (ih inner next own made).table span form
      · rename_i span tables
        split at followed
        · cases followed
        · rename_i next made
          cases followed
          cases held _ rfl with
          | array each => exact .array (changeNewest_isDistinct ih each made)
      · cases followed

section Placing

variable {part : Section}
    (given : forall assigned, assigned ∈ part.assignments -> assigned.value.IsDistinct)

include given

theorem openTable_keepsDistinct : KeepsDistinct (openTable part) := by
  intro entries changed distinct made
  unfold openTable at made
  dsimp only at made
  split at made
  · rename_i missing
    split at made
    · cases made
    · rename_i own assigned
      cases made
      have inner := assignAll_keepsDistinct given [] own Entries.areDistinct_nil assigned
      exact distinct.append (Entries.not_mem_of_get? missing) (inner.table _ .header)
  · rename_i span present found
    split at made
    · cases made
    · rename_i own assigned
      cases made
      rcases Entries.mem_of_get? found with ⟨key, _, member⟩
      have passed := Entries.areDistinct_of_table (distinct.each _ member)
      have inner := assignAll_keepsDistinct given present own passed assigned
      rcases distinct.erase part.header.key.name with ⟨others, absent⟩
      exact others.append absent (inner.table _ .header)
  · cases made

theorem addElement_keepsDistinct : KeepsDistinct (addElement part) := by
  intro entries changed distinct made
  unfold addElement at made
  dsimp only at made
  split at made
  · cases made
  · rename_i own assigned
    have inner := assignAll_keepsDistinct given [] own Entries.areDistinct_nil assigned
    refine (distinct.alter ?_ made).1
    intro present result held added
    split at added
    · cases added
      exact .array (List.forall_mem_singleton.mpr (inner.table _ .header))
    · cases added
      cases held _ rfl with
      | array each =>
          exact .array (List.forall_mem_cons.mpr ⟨inner.table _ .header, each⟩)
    · cases added

theorem placeSection_keepsDistinct : KeepsDistinct (placeSection part) := by
  unfold placeSection
  apply within_keepsDistinct
  split
  · exact addElement_keepsDistinct given
  · exact openTable_keepsDistinct given

end Placing

theorem placeSections_keepsDistinct {sections : List Section}
    (given : forall part, part ∈ sections ->
      forall assigned, assigned ∈ part.assignments -> assigned.value.IsDistinct) :
    KeepsDistinct (placeSections sections) := by
  induction sections with
  | nil =>
      intro entries changed distinct made
      cases made
      exact distinct
  | cons part sections ih =>
      intro entries changed distinct made
      rw [placeSections] at made
      split at made
      · cases made
      · rename_i next placed
        rw [List.forall_mem_cons] at given
        have first := placeSection_keepsDistinct given.1 entries next distinct placed
        exact ih given.2 next changed first made

/-- A document that was read is a table, and none of its tables has a key twice. -/
theorem parse_areDistinct {text : List Char} {root : Value} (parsed : parse text = some root) :
    exists span, exists entries : Entries,
      root = .table span .header entries ∧ entries.AreDistinct := by
  unfold parse at parsed
  dsimp only at parsed
  split at parsed
  · cases parsed
  · rename_i read said
    rcases outline_isDistinct (statements_isDistinct said) with ⟨own, sections⟩
    unfold assemble at parsed
    dsimp only at parsed
    split at parsed
    · cases parsed
    · rename_i entries assigned
      split at parsed
      · cases parsed
      · rename_i placed made
        cases parsed
        have before := assignAll_keepsDistinct own [] entries Entries.areDistinct_nil assigned
        exact ⟨_, placed, rfl, placeSections_keepsDistinct sections entries placed before made⟩

end Toml
end WhitespaceBench
