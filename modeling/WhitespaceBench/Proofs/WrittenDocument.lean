import WhitespaceBench.Proofs.WrittenLines

namespace WhitespaceBench
namespace Toml

/-!
# Written tables are read back

The document that was written for tables with different names has one entry for each
table, and each of these has one entry for each value, all in the order of writing.
Since no name occurs twice, every statement adds an entry at the end and changes nothing
that is there already.
-/

namespace Entries

def names (entries : Entries) : List String :=
  entries.map fun entry => entry.1.name

theorem get?_of_not_mem {entries : Entries} {name : String} (absent : name ∉ entries.names) :
    entries.get? name = none := by
  induction entries with
  | nil => rfl
  | cons entry entries ih =>
      rw [names, List.map_cons, List.mem_cons, not_or] at absent
      rw [get?, if_neg (Ne.symm absent.1), ih absent.2]

/-- A new key comes last. -/
theorem alter_of_not_mem {entries : Entries} {key : Key} {change : Option Value -> Option Value}
    {value : Value} (absent : key.name ∉ entries.names) (made : change none = some value) :
    alter key change entries = some (entries ++ [(key, value)]) := by
  induction entries with
  | nil => rw [alter, made]; rfl
  | cons entry entries ih =>
      rw [names, List.map_cons, List.mem_cons, not_or] at absent
      rw [alter, if_neg (Ne.symm absent.1), ih absent.2]
      rfl

/-- Where names are different, a later entry has a new name. -/
theorem not_mem_names_of_nodup {entries later : Entries} {entry : Key × Value}
    (distinct : (names (entries ++ entry :: later)).Nodup) : entry.1.name ∉ entries.names := by
  intro member
  rw [names, List.map_append] at distinct
  exact (List.nodup_append.mp distinct).2.2 _ member _ List.mem_cons_self rfl

end Entries

/-! ## Assignments -/

/-- The entry that an assignment without a path makes. -/
def Assignment.entry (assignment : Assignment) : Key × Value :=
  (assignment.key, assignment.value)

/-- Assignments to different new names add their entries. -/
theorem assignAll_of_nodup {assignments : List Assignment} {entries : Entries}
    (direct : forall assignment, assignment ∈ assignments -> assignment.path = [])
    (distinct : Entries.names (entries ++ assignments.map Assignment.entry) |>.Nodup) :
    assignAll assignments entries = some (entries ++ assignments.map Assignment.entry) := by
  induction assignments generalizing entries with
  | nil => rw [assignAll, List.map_nil, List.append_nil]
  | cons assignment assignments ih =>
      rw [List.map_cons] at distinct ⊢
      have absent := Entries.not_mem_names_of_nodup distinct
      have added : assign assignment.path assignment.key assignment.value entries =
          some (entries ++ [assignment.entry]) := by
        rw [direct assignment List.mem_cons_self, assign]
        exact Entries.alter_of_not_mem absent rfl
      rw [List.append_cons] at distinct ⊢
      rw [assignAll, added]
      exact ih (fun other member => direct other (List.mem_cons_of_mem _ member)) distinct

/-! ## Sections -/

/-- A section that opens a table under the root and assigns different names in it. -/
structure Section.IsFlat (part : Section) : Prop where
  single : part.header.element = false
  direct : part.header.path = []
  assigns : forall assignment, assignment ∈ part.assignments -> assignment.path = []
  distinct : (Entries.names (part.assignments.map Assignment.entry)).Nodup

def Section.entry (part : Section) : Key × Value :=
  (part.header.key, .table (some (extended part.header.span part.assignments)) .header
    (part.assignments.map Assignment.entry))

/-- Sections of different new names add their entries. -/
theorem placeSections_of_nodup {sections : List Section} {entries : Entries}
    (flat : forall part, part ∈ sections -> part.IsFlat)
    (distinct : Entries.names (entries ++ sections.map Section.entry) |>.Nodup) :
    placeSections sections entries = some (entries ++ sections.map Section.entry) := by
  induction sections generalizing entries with
  | nil => rw [placeSections, List.map_nil, List.append_nil]
  | cons part sections ih =>
      have first := flat part List.mem_cons_self
      rw [List.map_cons] at distinct ⊢
      have absent : part.header.key.name ∉ entries.names :=
        Entries.not_mem_names_of_nodup distinct
      have own : assignAll part.assignments [] = some (part.assignments.map Assignment.entry) :=
        assignAll_of_nodup first.assigns first.distinct
      have placed : placeSection part entries = some (entries ++ [part.entry]) := by
        simp only [placeSection, first.direct, first.single, Bool.false_eq_true, if_false, within,
          openTable, Entries.get?_of_not_mem absent, own]
        rfl
      rw [List.append_cons] at distinct ⊢
      rw [placeSections, placed]
      exact ih (fun other member => flat other (List.mem_cons_of_mem _ member)) distinct

/-! ## Whole documents -/

@[simp] theorem outline_assignments (assignments : List Assignment) (more : List Statement) :
    outline (assignments.map .assignment ++ more) =
      (assignments ++ (outline more).1, (outline more).2) := by
  induction assignments with
  | nil => rfl
  | cons assignment assignments ih => rw [List.map_cons, List.cons_append, outline, ih]; rfl

/-- A written document is read as one section for each table. -/
theorem reads_writtenSheets {sheets : List Sheet}
    (writable : forall sheet, sheet ∈ sheets -> sheet.IsWritable) :
    exists read sections, Reads (writtenSheets sheets) read ∧ outline read = ([], sections) ∧
      List.Forall₂ Section.Matches sections sheets := by
  induction sheets with
  | nil => exact ⟨[], [], Reads.nil, rfl, List.Forall₂.nil⟩
  | cons sheet sheets ih =>
      rcases ih fun other member => writable other (List.mem_cons_of_mem _ member) with
        ⟨more, sections, read, outlined, matched⟩
      have behind : exists rest, writtenSheets (sheet :: sheets) = sheet.written ++ rest ∧
          Reads rest more := by
        cases sheets with
        | nil => exact ⟨[], (List.append_nil _).symm, read⟩
        | cons next others => exact ⟨'\n' :: writtenSheets (next :: others), rfl, read.blank⟩
      rcases behind with ⟨rest, written, later⟩
      rcases reads_writtenSheet (writable sheet List.mem_cons_self) later with
        ⟨part, partMatched, whole⟩
      refine ⟨_, part :: sections, written ▸ whole, ?_, List.Forall₂.cons partMatched matched⟩
      rw [outline, outline_assignments, outlined, List.append_nil]

/-- A named entry, described by what its value shows. -/
structure Holds (entry : Key × Value) (item : String × (Value -> Prop)) : Prop where
  named : entry.1.name = item.1
  shown : item.2 entry.2

/-- A value shows a plain value, wherever it stands. -/
def Plain.Shown (plain : Plain) (value : Value) : Prop :=
  exists span, value = .scalar span plain.scalar

/-- The entries of a table, described by the values that were written. -/
def Sheet.items (sheet : Sheet) : List (String × (Value -> Prop)) :=
  sheet.lines.map fun line => (line.1, line.2.Shown)

/-- A value shows the values of a table in their order. -/
def Sheet.Shown (sheet : Sheet) (value : Value) : Prop :=
  exists span own, value = .table span .header own ∧ List.Forall₂ Holds own sheet.items

/-- The entry of a table, described by its values. -/
def Sheet.item (sheet : Sheet) : String × (Value -> Prop) :=
  (sheet.name, sheet.Shown)

theorem holds_item {part : Section} {sheet : Sheet} (matched : part.Matches sheet) :
    Holds part.entry sheet.item := by
  refine ⟨matched.opens.named, _, _, rfl, ?_⟩
  rw [Sheet.items, List.forall₂_map_left_iff, List.forall₂_map_right_iff]
  exact matched.assigns.imp fun _ _ assigned => ⟨assigned.named, assigned.valued⟩

/-- Related lists agree in what related elements agree in. -/
theorem map_eq_map_of_forall₂ {First Second Name : Type} {related : First -> Second -> Prop}
    {firstName : First -> Name} {secondName : Second -> Name}
    (agree : forall first second, related first second -> firstName first = secondName second)
    {firsts : List First} {seconds : List Second} (all : List.Forall₂ related firsts seconds) :
    firsts.map firstName = seconds.map secondName := by
  induction all with
  | nil => rfl
  | cons first _ ih => rw [List.map_cons, List.map_cons, agree _ _ first, ih]

theorem exists_related_of_mem {First Second : Type} {related : First -> Second -> Prop}
    {firsts : List First} {seconds : List Second} (all : List.Forall₂ related firsts seconds)
    {first : First} (member : first ∈ firsts) :
    exists second, second ∈ seconds ∧ related first second := by
  induction all with
  | nil => exact absurd member List.not_mem_nil
  | cons holds _ ih =>
      rcases List.mem_cons.mp member with same | member
      · subst same
        exact ⟨_, List.mem_cons_self, holds⟩
      · rcases ih member with ⟨second, found, holds⟩
        exact ⟨second, List.mem_cons_of_mem _ found, holds⟩

theorem isFlat_of_matches {part : Section} {sheet : Sheet} (matched : part.Matches sheet)
    (writable : sheet.IsWritable) : part.IsFlat where
  single := matched.opens.single
  direct := matched.opens.direct
  assigns := by
    intro assignment member
    rcases exists_related_of_mem matched.assigns member with ⟨line, _, assigned⟩
    exact assigned.direct
  distinct := by
    have names : part.assignments.map (fun assignment => assignment.key.name) =
        sheet.lines.map Prod.fst :=
      map_eq_map_of_forall₂ (fun _ _ assigned => assigned.named) matched.assigns
    rw [Entries.names, List.map_map]
    exact names ▸ writable.distinct

/-- Tables that can be written together: each can be written, and their names differ. -/
structure AreWritable (sheets : List Sheet) : Prop where
  each : forall sheet, sheet ∈ sheets -> sheet.IsWritable
  distinct : (sheets.map Sheet.name).Nodup

theorem write_of_areWritable {sheets : List Sheet} (writable : AreWritable sheets) :
    write sheets = .ok (writtenSheets sheets) := by
  have faultless : sheets.findSome? Sheet.fault? = none := by
    rw [List.findSome?_eq_none_iff]
    exact fun sheet member => Sheet.fault?_of_isWritable (writable.each sheet member)
  rw [write, faultless]

/-- A byte order mark is never written. -/
@[simp] theorem skipMark_writtenSheets (sheets : List Sheet) :
    skipMark (writtenSheets sheets) = writtenSheets sheets := by
  cases sheets with
  | nil => rfl
  | cons sheet sheets => cases sheets <;> rfl

/-- A written document is read back table by table and value by value. -/
theorem parse_writtenSheets {sheets : List Sheet} (writable : AreWritable sheets) :
    exists span entries, parse (writtenSheets sheets) = some (.table span .header entries) ∧
      List.Forall₂ Holds entries (sheets.map Sheet.item) := by
  rcases reads_writtenSheets writable.each with ⟨lines, sections, reads, outlined, matched⟩
  have flat : forall part, part ∈ sections -> part.IsFlat := by
    intro part member
    rcases exists_related_of_mem matched member with ⟨sheet, found, partMatched⟩
    exact isFlat_of_matches partMatched (writable.each sheet found)
  have distinct : (Entries.names (sections.map Section.entry)).Nodup := by
    have names : sections.map (fun part => part.header.key.name) = sheets.map Sheet.name :=
      map_eq_map_of_forall₂ (fun _ _ partMatched => partMatched.opens.named) matched
    rw [Entries.names, List.map_map]
    exact names ▸ writable.distinct
  have placed : placeSections sections [] = some (sections.map Section.entry) :=
    placeSections_of_nodup flat distinct
  have read := reads _ (Nat.le_succ _)
  refine ⟨some ⟨writtenSheets sheets, writtenSheets sheets⟩, sections.map Section.entry, ?_, ?_⟩
  · simp only [parse, skipMark_writtenSheets, read, assemble, outlined, assignAll, placed]
    rfl
  · rw [List.forall₂_map_left_iff, List.forall₂_map_right_iff]
    exact matched.imp fun _ _ => holds_item

end Toml
end WhitespaceBench
