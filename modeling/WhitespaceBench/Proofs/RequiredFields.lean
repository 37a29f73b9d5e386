import WhitespaceBench.Proofs.GivenSettings

namespace WhitespaceBench

open Decode Toml

/-!
# Records in which nothing may be left out

A set of default values is read by the rules of a configuration, except that every setting
but the seed has to be given.  So a document is read as a set of default values exactly if it
gives all of these settings an admissible value, and then it is what these values say; what
reading starts from has no influence.
-/

namespace Toml

section Records

variable {Record Result : Type} {shape : Shape Value Mismatch Record Result}

/-- The names that were given are those of the fields among the entries. -/
theorem mem_given_of_readEntries {entries : Entries} {start last : Draft Record}
    (read : readEntries shape entries start = .ok last) {name : String}
    (known : exists field, shape.named? name = some field) :
    name ∈ last.given <-> name ∈ start.given ∨ name ∈ entries.names := by
  induction entries generalizing start with
  | nil =>
      cases read
      simp [Entries.names]
  | cons entry entries ih =>
      rw [readEntries] at read
      split at read
      · cases read
      · rename_i next first
        rw [ih read, Entries.names, Entries.names, List.map_cons, List.mem_cons]
        rcases readEntry_cases first with ⟨unknown, rfl⟩ | ⟨field, record, _, _, rfl⟩
        · have other : name ≠ entry.1.name := by
            rintro rfl
            rcases known with ⟨field, known⟩
            cases unknown.symm.trans known
          simp [other]
        · rw [List.mem_cons]
          tauto

end Records

section Complete

variable {Record : Type} {shape : Shape Value Mismatch Record Record} {slots : List (Slot shape)}

/-- A table is read as a complete record exactly if its entries are, and every slot has one. -/
theorem readRecord_complete_eq_ok_iff (complete : shape.IsComplete)
    (covered : shape.HasSlots slots) {span : Option Span} {form : TableForm} {entries : Entries}
    {final : Record} :
    readRecord shape (.table span form entries) = .ok final <->
      (exists given, readEntries shape entries ⟨shape.initial, []⟩ = .ok ⟨final, given⟩) ∧
        forall slot, slot ∈ slots -> slot.field.name ∈ entries.names := by
  cases read : readEntries shape entries ⟨shape.initial, []⟩ with
  | error error => simp [readRecord, readContent, readTable, read]
  | ok draft =>
      rcases draft with ⟨record, given⟩
      have present : shape.missing? given = none <->
          forall slot, slot ∈ slots -> slot.field.name ∈ entries.names := by
        rw [Shape.missing?_eq_none_iff, ← covered.all, List.forall_mem_map]
        refine forall₂_congr fun slot member => ?_
        have listed : slot.field ∈ shape.fields := Shape.mem_of_named? slot.named
        have named := mem_given_of_readEntries read ⟨_, slot.named⟩
        simp only [List.not_mem_nil, false_or] at named
        rw [complete.required _ listed, named]
        simp
      cases missing : shape.missing? given with
      | none =>
          have all := present.mp missing
          rw [and_iff_left all]
          simp [readRecord, readContent, readTable, read, missing, finish, complete.finish]
      | some name =>
          have lacking : Not (forall slot, slot ∈ slots -> slot.field.name ∈ entries.names) := by
            rw [← present, missing]
            exact Option.some_ne_none name
          simp [readRecord, readContent, readTable, read, missing, lacking]

/-- A table is read as a complete record exactly if it has a value for every slot, which is
read as the part of the record there. -/
theorem readRecord_complete_iff (complete : shape.IsComplete) (covered : shape.HasSlots slots)
    {span : Option Span} {form : TableForm} {entries : Entries} (distinct : entries.names.Nodup)
    {final : Record} :
    readRecord shape (.table span form entries) = .ok final <->
      forall slot, slot ∈ slots -> exists value, entries.get? slot.field.name = some value ∧
        slot.read value = .ok (slot.view final) := by
  rw [readRecord_complete_eq_ok_iff complete covered,
    readEntries_iff_told complete.strict covered distinct, ← forall₂_and]
  refine forall₂_congr fun slot _ => ?_
  cases found : entries.get? slot.field.name with
  | none =>
      simp [Entries.not_mem_of_get? found]
  | some value =>
      have present : slot.field.name ∈ entries.names := by
        rcases Entries.mem_of_get? found with ⟨key, named, member⟩
        exact named ▸ List.mem_map_of_mem member
      simp [present, Slot.Told, Told]

/-- A table has to be there if a complete record is read from it. -/
theorem given_record_iff (complete : shape.IsComplete) (covered : shape.HasSlots slots)
    (nonempty : slots ≠ []) {given : Option Value}
    (tables : forall value, given = some value -> value.IsDistinctTable) (final : Record) :
    (exists value, given = some value ∧ readRecord shape value = .ok final) <->
      forall slot, slot ∈ slots -> exists value,
        (given.bind fun table => table.key? slot.field.name) = some value ∧
          slot.read value = .ok (slot.view final) := by
  cases given with
  | none =>
      rcases List.exists_mem_of_ne_nil slots nonempty with ⟨slot, member⟩
      simp only [reduceCtorEq, false_and, exists_false, Option.bind_none, imp_false, false_iff]
      exact fun none => none slot member
  | some table =>
      rcases tables table rfl with ⟨span, form, entries, rfl, distinct⟩
      simp only [Option.some.injEq, exists_eq_left', Option.bind_some]
      exact readRecord_complete_iff complete covered distinct.names

end Complete
end Toml

/-- A document gives a setting the value that it has in a configuration. -/
def Toml.Value.Gives (root : Value) (setting : Setting) (config : Config) : Prop :=
  exists value, root.setting? setting = some value ∧ setting.Takes value config

/-! ## Sections -/

namespace Defaults

def lengthSlots (initial : UInt64) : List (Slot (lengthShape dialect initial)) := [
  .ofName "length" id rfl (fun _ _ => rfl) (by simp [lengthShape])]

theorem lengthHasSlots (initial : UInt64) :
    (lengthShape dialect initial).HasSlots (lengthSlots initial) where
  all := rfl
  ext := by
    intro first second same
    simpa [lengthSlots, Slot.ofName] using same

theorem lengthIsComplete (initial : UInt64) : (lengthShape dialect initial).IsComplete where
  strict := rfl
  required := by simp [lengthShape]
  finish := rfl

theorem length_given_iff {initial : UInt64} {root : Value} (config : Config)
    (tables : forall value, root.key? "buffer" = some value -> value.IsDistinctTable) :
    (exists value, root.key? "buffer" = some value ∧
        readRecord (lengthShape dialect initial) value = .ok config.buffer.length) <->
      root.Gives .length config := by
  refine (given_record_iff (lengthIsComplete initial) (lengthHasSlots initial) nofun tables
    _).trans ?_
  simp [lengthSlots, Slot.ofName, Value.Gives, Value.setting?, Setting.table, Setting.key,
    Setting.Takes]

end Defaults

namespace ScannerSettings

theorem isComplete (initial : ScannerSettings) : (shape dialect .complete initial).IsComplete where
  strict := rfl
  required := by simp [shape, Strictness.complete]
  finish := rfl

theorem given_iff {initial : ScannerSettings} {root : Value} (config : Config)
    (tables : forall value, root.key? "scanner" = some value -> value.IsDistinctTable) :
    (exists value, root.key? "scanner" = some value ∧
        readRecord (shape dialect .complete initial) value = .ok config.scanner) <->
      root.Gives .mode config ∧ root.Gives .parallel config ∧ root.Gives .maxThreads config ∧
        root.Gives .chunkSize config := by
  refine (given_record_iff (isComplete initial) (hasSlots .complete initial) nofun tables
    _).trans ?_
  simp [slots, Slot.ofName, Value.Gives, Value.setting?, Setting.table, Setting.key, Setting.Takes]

end ScannerSettings

namespace HarnessSettings

theorem isComplete (initial : HarnessSettings) : (shape dialect .complete initial).IsComplete where
  strict := rfl
  required := by simp [shape, Strictness.complete]
  finish := rfl

theorem given_iff {initial : HarnessSettings} {root : Value} (config : Config)
    (tables : forall value, root.key? "harness" = some value -> value.IsDistinctTable) :
    (exists value, root.key? "harness" = some value ∧
        readRecord (shape dialect .complete initial) value = .ok config.harness) <->
      root.Gives .iterations config ∧ root.Gives .warmupIterations config ∧
        root.Gives .reportFormat config := by
  refine (given_record_iff (isComplete initial) (hasSlots .complete initial) nofun tables
    _).trans ?_
  simp [slots, Slot.ofName, Value.Gives, Value.setting?, Setting.table, Setting.key, Setting.Takes]

end HarnessSettings

namespace LoggingSettings

theorem isComplete (initial : LoggingSettings) : (shape dialect .complete initial).IsComplete where
  strict := rfl
  required := by simp [shape, Strictness.complete]
  finish := rfl

theorem given_iff {initial : LoggingSettings} {root : Value} (config : Config)
    (tables : forall value, root.key? "logging" = some value -> value.IsDistinctTable) :
    (exists value, root.key? "logging" = some value ∧
        readRecord (shape dialect .complete initial) value = .ok config.logging) <->
      root.Gives .level config := by
  refine (given_record_iff (isComplete initial) (hasSlots .complete initial) nofun tables
    _).trans ?_
  simp [slots, Slot.ofName, Value.Gives, Value.setting?, Setting.table, Setting.key, Setting.Takes]

end LoggingSettings

/-! ## Whole sets of default values -/

namespace Defaults

/-- The slots of a set of default values: one for each section. -/
def slots (initial : Defaults) : List (Slot (shape dialect initial)) := [
  .ofName "buffer" length rfl (fun _ _ => rfl) (by simp [shape]),
  .ofName "scanner" scanner rfl (fun _ _ => rfl) (by simp [shape]),
  .ofName "harness" harness rfl (fun _ _ => rfl) (by simp [shape]),
  .ofName "logging" logging rfl (fun _ _ => rfl) (by simp [shape])]

theorem hasSlots (initial : Defaults) : (shape dialect initial).HasSlots (slots initial) where
  all := rfl
  ext := by
    rintro ⟨_, _, _, _⟩ ⟨_, _, _, _⟩ same
    simpa [slots, Slot.ofName] using same

theorem isComplete (initial : Defaults) : (shape dialect initial).IsComplete where
  strict := rfl
  required := by simp [shape]
  finish := rfl

/-- A document gives all settings but the seed section by section. -/
theorem forall_gives_iff {root : Value} {config : Config} :
    (forall setting : Setting, setting ≠ .seed -> root.Gives setting config) <->
      root.Gives .length config ∧
      (root.Gives .mode config ∧ root.Gives .parallel config ∧ root.Gives .maxThreads config ∧
        root.Gives .chunkSize config) ∧
      (root.Gives .iterations config ∧ root.Gives .warmupIterations config ∧
        root.Gives .reportFormat config) ∧
      root.Gives .level config := by
  constructor
  · intro given
    exact ⟨given _ nofun, ⟨given _ nofun, given _ nofun, given _ nofun, given _ nofun⟩,
      ⟨given _ nofun, given _ nofun, given _ nofun⟩, given _ nofun⟩
  · rintro ⟨length, ⟨mode, parallel, threads, size⟩, ⟨iterations, warmup, format⟩, level⟩
    intro setting other
    cases setting with
    | length => exact length
    | seed => exact absurd rfl other
    | mode => exact mode
    | parallel => exact parallel
    | maxThreads => exact threads
    | chunkSize => exact size
    | iterations => exact iterations
    | warmupIterations => exact warmup
    | reportFormat => exact format
    | level => exact level

/-- A document is read as a set of default values exactly if it gives every setting but the
seed, and gives it the value that it has there. -/
theorem decode_iff_gives {initial final : Defaults} {root : Value}
    (distinct : root.IsDistinctTable) (tables : root.HasTables) :
    Defaults.decode initial dialect root = .ok final <->
      forall setting : Setting, setting ≠ .seed -> root.Gives setting final.config := by
  have sections := Config.isDistinctTable_of_key? distinct tables
  rcases distinct with ⟨span, form, entries, rfl, each⟩
  refine (readRecord_complete_iff (isComplete initial) (hasSlots initial) each.names).trans ?_
  simp only [slots, List.forall_mem_cons, List.not_mem_nil, false_implies, implies_true, and_true]
  refine Iff.trans ?_ forall_gives_iff.symm
  exact and_congr (length_given_iff final.config (sections .length))
    (and_congr (ScannerSettings.given_iff final.config (sections .mode))
      (and_congr (HarnessSettings.given_iff final.config (sections .iterations))
        (LoggingSettings.given_iff final.config (sections .level))))

end Defaults

end WhitespaceBench
