import WhitespaceBench.Proofs.DistinctKeys
import WhitespaceBench.Proofs.RecordReading

namespace WhitespaceBench

/-!
# Records are determined by what their fields are given

Reading a table stores one entry after the other.  What comes of it can be said without
going through the entries: a part of the record is what was read for its field, if the
table has that key, and otherwise stays what it was.  This holds as soon as each field has
a part of the record to itself, which is the content of a slot.
-/

namespace Decode

/-- What becomes of a part of a record: without a value it stays as it was, and with one it
is what is read. -/
def Told {Value Inner : Type} (means : Value -> Inner -> Prop) (given : Option Value)
    (initial final : Inner) : Prop :=
  match given with
  | none => final = initial
  | some value => means value final

theorem told_iff_cases {Value Inner : Type} {means : Value -> Inner -> Prop} {given : Option Value}
    {initial final : Inner} :
    Told means given initial final <->
      (given = none -> final = initial) ∧
        forall value, given = some value -> means value final := by
  cases given <;> simp [Told]

theorem exists_told {Value Inner : Type} {means : Value -> Inner -> Prop} {given : Option Value}
    (initial : Inner)
    (readable : forall value, given = some value -> exists final, means value final) :
    exists final, Told means given initial final := by
  cases given with
  | none => exact ⟨initial, rfl⟩
  | some value => exact readable value rfl

section Slots

variable {Value Error Record Result : Type}

@[simp] theorem storing_eq_ok_iff {Inner : Type} {read : Value -> Except Error Inner}
    {place : Inner -> Record -> Record} {value : Value} {record next : Record} :
    storing read place value record = .ok next <->
      exists inner, read value = .ok inner ∧ next = place inner record := by
  unfold storing
  cases read value with
  | error error => simp
  | ok inner => simp [eq_comm]

/-- Storing the field leaves a part of the record as it was. -/
def Field.Keeps {Part : Type} (field : Field Value Error Record) (view : Record -> Part) : Prop :=
  forall value record next, field.store value record = .ok next -> view next = view record

@[simp] theorem keeps_storing {Inner Part : Type} {name : String} {required : Bool}
    {read : Value -> Except Error Inner} {place : Inner -> Record -> Record}
    {view : Record -> Part} (kept : forall inner record, view (place inner record) = view record) :
    (⟨name, required, storing read place⟩ : Field Value Error Record).Keeps view := by
  intro value record next stored
  rcases storing_eq_ok_iff.mp stored with ⟨inner, _, rfl⟩
  exact kept inner record

/-- A field together with the part of the record that belongs to it: what is read comes to
stand there, and no other field changes it. -/
structure Slot (shape : Shape Value Error Record Result) where
  Inner : Type
  field : Field Value Error Record
  read : Value -> Except Error Inner
  place : Inner -> Record -> Record
  view : Record -> Inner
  named : shape.named? field.name = some field
  stores : field.store = storing read place
  placed : forall inner record, view (place inner record) = inner
  apart : forall other, other ∈ shape.fields -> other.name ≠ field.name -> other.Keeps view

namespace Slot

variable {shape : Shape Value Error Record Result}

/-- The slot of a field, from its name and its part of the record. -/
def ofName {Inner : Type} (name : String) (view : Record -> Inner) {required : Bool}
    {read : Value -> Except Error Inner} {place : Inner -> Record -> Record}
    (named : shape.named? name = some ⟨name, required, storing read place⟩)
    (placed : forall inner record, view (place inner record) = inner)
    (apart : forall other, other ∈ shape.fields -> other.name ≠ name -> other.Keeps view) :
    Slot shape :=
  ⟨Inner, ⟨name, required, storing read place⟩, read, place, view, named, rfl, placed, apart⟩

/-- What becomes of the part of a slot. -/
def Told (slot : Slot shape) (given : Option Value) (initial final : Record) : Prop :=
  Decode.Told (fun value inner => slot.read value = .ok inner) given (slot.view initial)
    (slot.view final)

end Slot

/-- The slots of all fields, which together make up the record. -/
structure Shape.HasSlots (shape : Shape Value Error Record Result) (slots : List (Slot shape)) :
    Prop where
  all : slots.map Slot.field = shape.fields
  ext : forall first second : Record,
    (forall slot, slot ∈ slots -> slot.view first = slot.view second) -> first = second

/-- A record in which everything may be left out, and everything else may be added. -/
structure Shape.IsLenient (shape : Shape Value Error Record Record) : Prop where
  strict : shape.strict = false
  optional : forall field, field ∈ shape.fields -> field.required = false
  finish : shape.finish = .ok

/-- A record in which nothing may be left out, although everything else may be added. -/
structure Shape.IsComplete (shape : Shape Value Error Record Record) : Prop where
  strict : shape.strict = false
  required : forall field, field ∈ shape.fields -> field.required = true
  finish : shape.finish = .ok

theorem Shape.missing?_eq_none_iff {shape : Shape Value Error Record Result}
    {given : List String} :
    shape.missing? given = none <->
      forall field, field ∈ shape.fields -> field.required = true -> field.name ∈ given := by
  simp [Shape.missing?]

theorem Shape.name_of_named? {shape : Shape Value Error Record Result} {name : String}
    {field : Field Value Error Record} (found : shape.named? name = some field) :
    field.name = name := by
  have equal := List.find?_some found
  exact beq_iff_eq.mp equal

theorem Shape.mem_of_named? {shape : Shape Value Error Record Result} {name : String}
    {field : Field Value Error Record} (found : shape.named? name = some field) :
    field ∈ shape.fields :=
  List.mem_of_find?_eq_some found

end Slots
end Decode

namespace Toml

open Decode

/-! ## Tables -/

section Tables

variable {Record Result : Type} {shape : Shape Value Mismatch Record Result}

/-- One entry that is read without a fault: its name is unknown and nothing changes, or it
is the name of a field, which stores the value. -/
theorem readEntry_cases {draft next : Draft Record} {entry : Key × Value}
    (read : readEntry shape draft entry = .ok next) :
    (shape.named? entry.1.name = none ∧ next = draft) ∨
    exists field record, shape.named? entry.1.name = some field ∧
      field.store entry.2 draft.record = .ok record ∧
      next = ⟨record, entry.1.name :: draft.given⟩ := by
  unfold readEntry at read
  split at read
  · rename_i unknown
    split at read
    · cases read
    · cases read
      exact Or.inl ⟨unknown, rfl⟩
  · rename_i field known
    split at read
    · cases read
    · split at read
      · cases read
      · rename_i record stored
        cases read
        exact Or.inr ⟨field, record, known, stored, rfl⟩

/-- The part of a slot is told by the entry of its name, wherever that stands. -/
theorem told_of_readEntries (slot : Slot shape) {entries : Entries} {start last : Draft Record}
    (distinct : entries.names.Nodup) (read : readEntries shape entries start = .ok last) :
    slot.Told (entries.get? slot.field.name) start.record last.record := by
  induction entries generalizing start with
  | nil =>
      cases read
      exact rfl
  | cons entry entries ih =>
      rw [Entries.names, List.map_cons, List.nodup_cons] at distinct
      rw [readEntries] at read
      split at read
      · cases read
      · rename_i next first
        have later := ih distinct.2 read
        rw [Entries.get?]
        rcases readEntry_cases first with ⟨unknown, rfl⟩ | ⟨field, record, known, stored, rfl⟩
        · have other : entry.1.name ≠ slot.field.name := by
            intro same
            rw [same, slot.named] at unknown
            cases unknown
          rw [if_neg other]
          exact later
        · by_cases same : entry.1.name = slot.field.name
          · -- No later entry has the name, so what is stored here remains.
            rw [if_pos same]
            rw [Entries.get?_of_not_mem (same ▸ distinct.1)] at later
            rw [same, slot.named] at known
            cases known
            rw [slot.stores] at stored
            rcases storing_eq_ok_iff.mp stored with ⟨inner, found, rfl⟩
            have kept : slot.view last.record = inner := later.trans (slot.placed inner _)
            change slot.read entry.2 = .ok (slot.view last.record)
            rwa [kept]
          · rw [if_neg same]
            have name := Shape.name_of_named? known
            have listed := Shape.mem_of_named? known
            have untouched := slot.apart field listed (name ▸ same) _ _ _ stored
            unfold Slot.Told at later ⊢
            rwa [← untouched]

/-- Entries are read without a fault if every field accepts the value of its name. -/
theorem readEntries_isOk (lenient : shape.strict = false) {entries : Entries}
    (start : Draft Record) (distinct : (Entries.names entries ++ start.given).Nodup)
    (accepted : forall field value, shape.named? field.name = some field ->
      entries.get? field.name = some value ->
      forall record, exists next, field.store value record = .ok next) :
    exists last, readEntries shape entries start = .ok last := by
  induction entries generalizing start with
  | nil => exact ⟨start, rfl⟩
  | cons entry entries ih =>
      have fresh : entry.1.name ∉ Entries.names entries ++ start.given :=
        (List.nodup_cons.mp distinct).1
      rw [List.mem_append, not_or] at fresh
      have later : forall field value, shape.named? field.name = some field ->
          Entries.get? entries field.name = some value ->
          forall record, exists next, field.store value record = .ok next := by
        intro field value known found
        have other : entry.1.name ≠ field.name := by
          intro same
          rw [Entries.get?_of_not_mem (same ▸ fresh.1)] at found
          cases found
        exact accepted field value known ((if_neg other).trans found)
      rw [readEntries, readEntry]
      cases known : shape.named? entry.1.name with
      | none =>
          simp only [lenient, Bool.false_eq_true, if_false]
          exact ih _ (List.nodup_cons.mp distinct).2 later
      | some field =>
          have name := Shape.name_of_named? known
          have given : Not (start.given.contains entry.1.name = true) :=
            fun member => fresh.2 (List.contains_iff_mem.mp member)
          rcases accepted field entry.2 (name ▸ known) (if_pos name.symm) start.record with
            ⟨record, stored⟩
          simp only [if_neg given, stored]
          exact ih _ (List.perm_middle.nodup_iff.mpr distinct) later

end Tables

section Records

variable {Record : Type} {shape : Shape Value Mismatch Record Record} {slots : List (Slot shape)}

theorem readRecord_table_eq_ok_iff (lenient : shape.IsLenient) {span : Option Span}
    {form : TableForm} {entries : Entries} {final : Record} :
    readRecord shape (.table span form entries) = .ok final <->
      exists given, readEntries shape entries ⟨shape.initial, []⟩ = .ok ⟨final, given⟩ := by
  have complete (given : List String) : shape.missing? given = none := by
    apply missing?_eq_none
    intro field member required
    rw [lenient.optional field member] at required
    cases required
  cases read : readEntries shape entries ⟨shape.initial, []⟩ with
  | error error => simp [readRecord, readContent, readTable, read]
  | ok draft =>
      rcases draft with ⟨record, given⟩
      simp [readRecord, readContent, readTable, read, complete, finish, lenient.finish]

/-- Entries are read as a record exactly if they tell every part of the record. -/
theorem readEntries_iff_told (passes : shape.strict = false) (covered : shape.HasSlots slots)
    {entries : Entries} (distinct : entries.names.Nodup) {final : Record} :
    (exists given, readEntries shape entries ⟨shape.initial, []⟩ = .ok ⟨final, given⟩) <->
      forall slot, slot ∈ slots ->
        slot.Told (entries.get? slot.field.name) shape.initial final := by
  constructor
  · rintro ⟨given, read⟩ slot _
    exact told_of_readEntries slot distinct read
  · intro told
    have accepted : forall field value, shape.named? field.name = some field ->
        entries.get? field.name = some value ->
        forall record, exists next, field.store value record = .ok next := by
      intro field value known found record
      have listed := Shape.mem_of_named? known
      rw [← covered.all] at listed
      rcases List.mem_map.mp listed with ⟨slot, member, rfl⟩
      have read : slot.Told (some value) shape.initial final := found ▸ told slot member
      rw [slot.stores]
      exact ⟨_, storing_eq_ok_iff.mpr ⟨_, read, rfl⟩⟩
    have apart : (entries.names ++ []).Nodup := by rwa [List.append_nil]
    rcases readEntries_isOk passes ⟨shape.initial, []⟩ apart accepted with
      ⟨⟨record, given⟩, read⟩
    -- Both records are told the same, part by part.
    have equal : record = final := by
      apply covered.ext
      intro slot member
      have first := told_of_readEntries slot distinct read
      have second := told slot member
      unfold Slot.Told Decode.Told at first second
      cases found : entries.get? slot.field.name with
      | none =>
          rw [found] at first second
          exact first.trans second.symm
      | some value =>
          rw [found] at first second
          exact Except.ok.inj (first.symm.trans second)
    exact ⟨given, equal ▸ read⟩

/-- A table is read as a record exactly if the table tells every part of the record. -/
theorem readRecord_table_iff (lenient : shape.IsLenient) (covered : shape.HasSlots slots)
    {span : Option Span} {form : TableForm} {entries : Entries} (distinct : entries.names.Nodup)
    {final : Record} :
    readRecord shape (.table span form entries) = .ok final <->
      forall slot, slot ∈ slots ->
        slot.Told (entries.get? slot.field.name) shape.initial final := by
  rw [readRecord_table_eq_ok_iff lenient]
  exact readEntries_iff_told lenient.strict covered distinct

end Records

/-- The value of a key, where there is a table. -/
def Value.key? : Value -> String -> Option Value
  | .table _ _ entries, name => Entries.get? entries name
  | _, _ => none

/-- A value that is a table, with different keys. -/
def Value.IsDistinctTable (value : Value) : Prop :=
  exists span form, exists entries : Entries,
    value = .table span form entries ∧ entries.AreDistinct

/-- A table that may be left out tells every part of a record, or leaves all as it was. -/
theorem told_record_iff {Record : Type} {shape : Shape Value Mismatch Record Record}
    {slots : List (Slot shape)} (lenient : shape.IsLenient) (covered : shape.HasSlots slots)
    {given : Option Value} (tables : forall value, given = some value -> value.IsDistinctTable)
    {final : Record} :
    Told (fun value record => readRecord shape value = .ok record) given shape.initial final <->
      forall slot, slot ∈ slots ->
        slot.Told (given.bind fun value => value.key? slot.field.name) shape.initial final := by
  cases given with
  | none =>
      constructor
      · intro same slot _
        exact congrArg slot.view same
      · exact fun same => covered.ext final shape.initial same
  | some value =>
      rcases tables value rfl with ⟨span, form, entries, rfl, distinct⟩
      exact readRecord_table_iff lenient covered distinct.names

/-- A text is read as what its document is read as. -/
theorem decode_of_parse {Result : Type}
    {read : Dialect Value Mismatch -> Value -> Except Mismatch Result} {text : List Char}
    {root : Value} (parsed : parse text = some root) {result : Result} :
    Toml.decode read text = .ok result <-> read dialect root = .ok result := by
  rw [Toml.decode, parsed]
  cases decoded : read dialect root <;> simp [decoded]

/-! ## Plain values -/

namespace Value

/-- A value is a number that is not negative. -/
def IsNumber (value : Value) (size : Nat) : Prop :=
  exists span number, value = .scalar span (.integer number) ∧ number.toInt = size

def IsFlag (value : Value) (flag : Bool) : Prop :=
  exists span, value = .scalar span (.boolean flag)

def IsText (value : Value) (content : String) : Prop :=
  exists span, value = .scalar span (.string content)

/-- A value names an alternative: by a string, or by the only key of a table with nothing
in it. -/
inductive Names : Value -> String -> Prop where
  | string (span : Option Span) (name : String) : Names (.scalar span (.string name)) name
  | emptyTable (span inner : Option Span) (form innerForm : TableForm) (key : Key) :
      Names (.table span form [(key, .table inner innerForm [])]) key.name
  | emptyArray (span inner : Option Span) (form : TableForm) (innerForm : ArrayForm) (key : Key) :
      Names (.table span form [(key, .array inner innerForm [])]) key.name

/-- A number of a document does not need the sign bit. -/
theorem IsNumber.lt {value : Value} {size : Nat} (number : value.IsNumber size) :
    size < 0x8000000000000000 := by
  rcases number with ⟨span, signed, _, equal⟩
  have bound := Int64.toInt_lt signed
  omega

end Value

@[simp] theorem readUnsigned_iff {expected : String} {bound : Nat} {value : Value}
    {number : { number : Nat // number < bound }} :
    readUnsigned expected bound value = .ok number <-> value.IsNumber number.1 := by
  constructor
  · intro read
    unfold readUnsigned at read
    split at read
    · rename_i span signed
      split at read
      · rename_i fits
        cases read
        exact ⟨span, signed, rfl, (Int.toNat_of_nonneg fits.1).symm⟩
      · cases read
    · cases read
  · rintro ⟨span, signed, rfl, equal⟩
    have fits : 0 ≤ signed.toInt ∧ signed.toInt.toNat < bound := by
      have below := number.2
      omega
    have same : signed.toInt.toNat = number.1 := by omega
    simp only [readUnsigned, dif_pos fits]
    exact congrArg Except.ok (Subtype.ext same)

@[simp] theorem word_iff {expected : String} {value : Value} {word : UInt64} :
    dialect.word expected value = .ok word <-> value.IsNumber word.toNat := by
  have read := @readUnsigned_iff expected UInt64.size value ⟨word.toNat, word.toNat_lt_size⟩
  rw [← read]
  change _ <-> dialect.unsigned expected UInt64.size value = _
  unfold Dialect.word
  cases dialect.unsigned expected UInt64.size value with
  | error error => simp
  | ok number => simp [Subtype.ext_iff, ← UInt64.toNat_inj]

@[simp] theorem size_iff {value : Value} {size : UInt64} :
    dialect.size value = .ok size <-> value.IsNumber size.toNat :=
  word_iff

@[simp] theorem count_iff {value : Value} {count : UInt32} :
    dialect.count value = .ok count <-> value.IsNumber count.toNat := by
  have read := @readUnsigned_iff "u32" UInt32.size value ⟨count.toNat, count.toNat_lt_size⟩
  rw [← read]
  change _ <-> dialect.unsigned "u32" UInt32.size value = _
  unfold Dialect.count
  cases dialect.unsigned "u32" UInt32.size value with
  | error error => simp
  | ok number => simp [Subtype.ext_iff, ← UInt32.toNat_inj]

@[simp] theorem optional_iff {Inner : Type} {read : Value -> Except Mismatch Inner} {value : Value}
    {inner : Option Inner} :
    dialect.optional read value = .ok inner <->
      exists found, inner = some found ∧ read value = .ok found := by
  change readOptional read value = _ <-> _
  unfold readOptional
  cases read value with
  | error error => simp
  | ok found => simp [eq_comm]

@[simp] theorem boolean_iff {value : Value} {flag : Bool} :
    dialect.boolean value = .ok flag <-> value.IsFlag flag := by
  change readBoolean value = _ <-> exists span, value = .scalar span (.boolean flag)
  unfold readBoolean
  split
  · simp
  · rename_i other
    simp only [reduceCtorEq, false_iff, not_exists]
    exact fun span => other span flag

@[simp] theorem text_iff {value : Value} {content : String} :
    dialect.text value = .ok content <-> value.IsText content := by
  change readText value = _ <-> exists span, value = .scalar span (.string content)
  unfold readText
  split
  · simp
  · rename_i other
    simp only [reduceCtorEq, false_iff, not_exists]
    exact fun span => other span content

@[simp] theorem readNothing_iff {value : Value} :
    readNothing value = .ok () <->
      (exists span form, value = .table span form []) ∨
        exists span form, value = .array span form [] := by
  unfold readNothing
  split <;> simp

@[simp] theorem alternative_iff {Choice : Type} {choices : List (String × Choice)} {name : String}
    {span : Option Span} {choice : Choice} :
    alternative choices name span = .ok choice <-> choices.lookup name = some choice := by
  unfold alternative
  cases choices.lookup name <;> simp

@[simp] theorem choice_iff {Choice : Type} {choices : List (String × Choice)} {value : Value}
    {choice : Choice} :
    dialect.choice choices value = .ok choice <->
      exists name, value.Names name ∧ choices.lookup name = some choice := by
  change readChoice choices value = _ <-> _
  constructor
  · intro read
    unfold readChoice at read
    split at read
    · exact ⟨_, .string _ _, alternative_iff.mp read⟩
    · cases read
    · split at read
      · cases read
      · rename_i found
        split at read
        · cases read
        · rename_i nothing
          cases read
          rcases readNothing_iff.mp nothing with ⟨inner, form, rfl⟩ | ⟨inner, form, rfl⟩
          · exact ⟨_, .emptyTable .., alternative_iff.mp found⟩
          · exact ⟨_, .emptyArray .., alternative_iff.mp found⟩
    · cases read
    · cases read
  · rintro ⟨name, names, known⟩
    cases names with
    | string span => exact alternative_iff.mpr known
    | emptyTable span inner form innerForm key =>
        simp only [readChoice, alternative_iff.mpr known]
        rfl
    | emptyArray span inner form innerForm key =>
        have nothing : readNothing (.array inner innerForm []) = .ok () :=
          readNothing_iff.mpr (Or.inr ⟨inner, innerForm, rfl⟩)
        simp only [readChoice, alternative_iff.mpr known, nothing]

/-- Where every alternative has one name, a value is read as the alternative that it names. -/
theorem choice_named_iff {Choice : Type} {choices : List (String × Choice)}
    {name : Choice -> String} (known : forall choice, choices.lookup (name choice) = some choice)
    (only : forall pair, pair ∈ choices -> pair.1 = name pair.2) {value : Value} {choice : Choice} :
    dialect.choice choices value = .ok choice <-> value.Names (name choice) := by
  refine choice_iff.trans ⟨?_, fun names => ⟨name choice, names, known choice⟩⟩
  rintro ⟨given, names, found⟩
  rcases List.lookup_eq_some_iff.mp found with ⟨before, after, split, _⟩
  have member : (given, choice) ∈ choices := by simp [split]
  exact only _ member ▸ names

end Toml
end WhitespaceBench
