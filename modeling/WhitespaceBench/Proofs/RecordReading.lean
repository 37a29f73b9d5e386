import WhitespaceBench.Proofs.WrittenDocument
import WhitespaceBench.Toml.Decode

namespace WhitespaceBench
namespace Toml

open Decode

/-!
# Records are read from what was written

A record is read entry by entry.  Which entries fill a record, and with what, is stated
as a derivation with one step for each entry; the places of the values do not matter for
it.  Plain values are read as what they were written for, as long as numbers fit in the
type that is read.
-/

section Records

variable {Record Result : Type}

/-- Entries fill a record: each is a field, and its value is stored. -/
inductive Fills (shape : Shape Value Mismatch Record Result) :
    List (String × (Value -> Prop)) -> Record -> Record -> Prop where
  | nil (record : Record) : Fills shape [] record record
  | cons {item : String × (Value -> Prop)} {items : List (String × (Value -> Prop))}
      {field : Field Value Mismatch Record} {record next last : Record}
      (named : shape.named? item.1 = some field)
      (stored : forall value, item.2 value -> field.store value record = .ok next)
      (later : Fills shape items next last) : Fills shape (item :: items) record last

/-- One more entry fills a field that stores what is read. -/
theorem Fills.read {shape : Shape Value Mismatch Record Result} {name : String}
    {content : Value -> Prop} {items : List (String × (Value -> Prop))} {required : Bool}
    {Inner : Type} {read : Value -> Except Mismatch Inner} {place : Inner -> Record -> Record}
    {inner : Inner} {record last : Record}
    (named : shape.named? name = some ⟨name, required, storing read place⟩)
    (found : forall value, content value -> read value = .ok inner)
    (later : Fills shape items (place inner record) last) :
    Fills shape ((name, content) :: items) record last := by
  refine Fills.cons named (fun value shown => ?_) later
  change storing read place value record = _
  rw [storing, found value shown]

/-- The names that were given come in front of the earlier ones, the latest first. -/
theorem readEntries_of_fills {shape : Shape Value Mismatch Record Result} {entries : Entries}
    {items : List (String × (Value -> Prop))} {record last : Record} {given : List String}
    (held : List.Forall₂ Holds entries items) (fills : Fills shape items record last)
    (distinct : (items.map Prod.fst ++ given).Nodup) :
    readEntries shape entries ⟨record, given⟩ =
      .ok ⟨last, (items.map Prod.fst).reverse ++ given⟩ := by
  induction fills generalizing entries given with
  | nil record =>
      cases held
      rfl
  | cons named stored later ih =>
      rename_i item items field record next last
      cases held with
      | cons first others =>
          rename_i entry entries
          -- The name moves from those still to come to those that were given.
          have rearranged : (items.map Prod.fst ++ item.1 :: given).Nodup :=
            List.perm_middle.nodup_iff.mpr distinct
          have fresh : Not (given.contains item.1 = true) := by
            intro member
            have apart := (List.nodup_cons.mp distinct).1
            exact apart (List.mem_append.mpr (Or.inr (List.contains_iff_mem.mp member)))
          have read : readEntry shape ⟨record, given⟩ entry = .ok ⟨next, item.1 :: given⟩ := by
            rw [readEntry, first.named, named]
            dsimp only
            rw [if_neg fresh, stored entry.2 first.shown]
          rw [readEntries, read]
          dsimp only
          rw [ih others rearranged, List.map_cons, List.reverse_cons, List.append_assoc]
          rfl

/-- Nothing is missing once every required field is given. -/
theorem missing?_eq_none {shape : Shape Value Mismatch Record Result} {given : List String}
    (complete : forall field, field ∈ shape.fields -> field.required = true ->
      field.name ∈ given) : shape.missing? given = none := by
  rw [Shape.missing?, Option.map_eq_none_iff, List.find?_eq_none]
  intro field member absent
  rw [Bool.and_eq_true, Bool.not_eq_true'] at absent
  have present := List.contains_iff_mem.mpr (complete field member absent.1)
  exact absurd (present.symm.trans absent.2) (by decide)

/-- A table that holds all required fields is read as the record that it fills. -/
theorem readRecord_of_fills {shape : Shape Value Mismatch Record Result} {span : Option Span}
    {form : TableForm} {entries : Entries} {items : List (String × (Value -> Prop))}
    {last : Record} {result : Result}
    (held : List.Forall₂ Holds entries items) (fills : Fills shape items shape.initial last)
    (distinct : (items.map Prod.fst).Nodup)
    (complete : forall field, field ∈ shape.fields -> field.required = true ->
      field.name ∈ items.map Prod.fst)
    (finished : shape.finish last = .ok result) :
    readRecord shape (.table span form entries) = .ok result := by
  have apart : (items.map Prod.fst ++ []).Nodup := by rwa [List.append_nil]
  have read := readEntries_of_fills held fills apart
  have present : shape.missing? ((items.map Prod.fst).reverse ++ []) = none := by
    apply missing?_eq_none
    intro field member required
    rw [List.append_nil, List.mem_reverse]
    exact complete field member required
  simp only [readRecord, readContent, readTable, read, present, finish, finished]

/-- A written table is read as the record that it fills. -/
theorem readRecord_of_shown {shape : Shape Value Mismatch Record Result} {sheet : Sheet}
    {value : Value} {last : Record} {result : Result} (shown : sheet.Shown value)
    (writable : sheet.IsWritable) (fills : Fills shape sheet.items shape.initial last)
    (complete : forall field, field ∈ shape.fields -> field.required = true ->
      field.name ∈ sheet.lines.map Prod.fst)
    (finished : shape.finish last = .ok result) : readRecord shape value = .ok result := by
  rcases shown with ⟨span, own, rfl, held⟩
  have names : sheet.items.map Prod.fst = sheet.lines.map Prod.fst := by
    rw [Sheet.items, List.map_map]
    rfl
  rw [← names] at complete
  exact readRecord_of_fills held fills (names ▸ writable.distinct) complete finished

end Records

/-! ## Plain values -/

theorem readUnsigned_number (expected : String) {bound size : Nat} (below : size < bound)
    (small : size < 0x8000000000000000) {value : Value} (shown : (Plain.number size).Shown value) :
    readUnsigned expected bound value = .ok ⟨size, below⟩ := by
  rcases shown with ⟨span, rfl⟩
  have signed : (Int64.ofInt size).toInt = size :=
    Int64.toInt_ofInt_of_le (by omega) (by omega)
  have fits : 0 ≤ (size : Int) ∧ size < bound := ⟨Int.natCast_nonneg size, below⟩
  simp only [readUnsigned, Plain.scalar, signed, Int.toNat_natCast, dif_pos fits]

/-- A 64-bit word without its highest bit. -/
theorem word_number (expected : String) {word : UInt64} (small : word.toNat < 0x8000000000000000)
    {value : Value} (shown : (Plain.number word.toNat).Shown value) :
    dialect.word expected value = .ok word := by
  have read : dialect.unsigned expected UInt64.size value = .ok ⟨word.toNat, word.toNat_lt_size⟩ :=
    readUnsigned_number expected word.toNat_lt_size small shown
  rw [Dialect.word, read]
  rfl

/-- A 32-bit count. -/
theorem count_number {count : UInt32} {value : Value}
    (shown : (Plain.number count.toNat).Shown value) : dialect.count value = .ok count := by
  have below : count.toNat < UInt32.size := count.toNat_lt_size
  have read : dialect.unsigned "u32" UInt32.size value = .ok ⟨count.toNat, below⟩ :=
    readUnsigned_number "u32" below (Nat.lt_trans below (by decide)) shown
  rw [Dialect.count, read]
  rfl

theorem optional_of_read {Inner : Type} {read : Value -> Except Mismatch Inner} {inner : Inner}
    {value : Value} (found : read value = .ok inner) :
    dialect.optional read value = .ok (some inner) := by
  change readOptional read value = _
  rw [readOptional, found]

theorem boolean_flag {flag : Bool} {value : Value} (shown : (Plain.flag flag).Shown value) :
    dialect.boolean value = .ok flag := by
  rcases shown with ⟨span, rfl⟩
  rfl

theorem text_text {content : String} {value : Value} (shown : (Plain.text content).Shown value) :
    dialect.text value = .ok content := by
  rcases shown with ⟨span, rfl⟩
  rfl

theorem choice_text {Choice : Type} {choices : List (String × Choice)} {name : String}
    {choice : Choice} (known : choices.lookup name = some choice) {value : Value}
    (shown : (Plain.text name).Shown value) : dialect.choice choices value = .ok choice := by
  rcases shown with ⟨span, rfl⟩
  change alternative choices name span = _
  rw [alternative, known]

end Toml
end WhitespaceBench
