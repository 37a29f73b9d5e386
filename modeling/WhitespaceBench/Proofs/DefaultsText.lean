import WhitespaceBench.Proofs.ConfigRoundTrip
import WhitespaceBench.Proofs.RequiredFields

namespace WhitespaceBench

open Decode Toml

/-!
# Default values and configurations share their texts

The text of a configuration is also the text of a set of default values, which merely has no
use for the seed.  The difference shows once a line or a whole table is left out: a
configuration then has default values there, and a set of default values cannot be read.

What a written document gives is said in terms of the tables that were written, so that what
an omission hides can be seen without going through the text again.
-/

/-! ## What written tables give -/

namespace Toml

/-- Tables hold a plain value for a setting. -/
def Writes (sheets : List Sheet) (setting : Setting) (plain : Plain) : Prop :=
  exists sheet, sheet ∈ sheets ∧ sheet.name = setting.table ∧ (setting.key, plain) ∈ sheet.lines

theorem get?_of_holds {entries : Entries} {items : List (String × (Value -> Prop))}
    (held : List.Forall₂ Holds entries items) (distinct : entries.names.Nodup)
    {item : String × (Value -> Prop)} (member : item ∈ items) :
    exists value, entries.get? item.1 = some value ∧ item.2 value := by
  rcases exists_related_of_mem held.flip member with ⟨entry, listed, holds⟩
  refine ⟨entry.2, ?_, holds.shown⟩
  rw [← holds.named]
  exact Entries.get?_of_mem distinct listed

theorem exists_item_of_get? {entries : Entries} {items : List (String × (Value -> Prop))}
    (held : List.Forall₂ Holds entries items) {name : String} {value : Value}
    (found : entries.get? name = some value) :
    exists item, item ∈ items ∧ item.1 = name ∧ item.2 value := by
  rcases Entries.mem_of_get? found with ⟨key, named, member⟩
  rcases exists_related_of_mem held member with ⟨item, listed, holds⟩
  exact ⟨item, listed, holds.named.symm.trans named, holds.shown⟩

/-- A document shows what tables hold for the settings, and nothing else. -/
structure Value.ShowsTables (root : Value) (sheets : List Sheet) : Prop where
  distinct : root.IsDistinctTable
  tables : root.HasTables
  shown : forall setting plain, Writes sheets setting plain ->
    exists value, root.setting? setting = some value ∧ plain.Shown value
  written : forall setting value, root.setting? setting = some value ->
    exists plain, Writes sheets setting plain ∧ plain.Shown value

/-- Written tables are read as a document that shows what they hold. -/
theorem parse_shows {sheets : List Sheet} (writable : AreWritable sheets) :
    exists root, parse (writtenSheets sheets) = some root ∧ root.ShowsTables sheets := by
  rcases parse_writtenSheets writable with ⟨span, entries, parsed, held⟩
  rcases parse_areDistinct parsed with ⟨_, _, same, distinct⟩
  cases same
  have table {name : String} {value : Value} (found : Entries.get? entries name = some value) :
      exists sheet, sheet ∈ sheets ∧ sheet.name = name ∧ sheet.Shown value := by
    rcases exists_item_of_get? held found with ⟨item, listed, named, shown⟩
    rcases List.mem_map.mp listed with ⟨sheet, member, rfl⟩
    exact ⟨sheet, member, named, shown⟩
  refine ⟨_, parsed, ⟨span, .header, entries, rfl, distinct⟩, ?_, ?_, ?_⟩
  · intro setting value found
    rcases table found with ⟨sheet, _, _, inner, own, rfl, _⟩
    exact ⟨inner, .header, own, rfl⟩
  · rintro setting plain ⟨sheet, member, named, line⟩
    rcases get?_of_holds held distinct.names (List.mem_map_of_mem member) with
      ⟨_, found, inner, own, rfl, ownHeld⟩
    rcases Entries.mem_of_get? found with ⟨_, _, listed⟩
    have ownDistinct := Entries.areDistinct_of_table (distinct.each _ listed)
    rcases get?_of_holds ownHeld ownDistinct.names (List.mem_map_of_mem line) with
      ⟨value, given, shown⟩
    refine ⟨value, ?_, shown⟩
    change (Entries.get? entries setting.table).bind _ = _
    rw [← named]
    exact (congrArg (Option.bind · _) found).trans given
  · intro setting value given
    rcases Option.bind_eq_some_iff.mp given with ⟨_, found, inside⟩
    rcases table found with ⟨sheet, member, named, inner, own, rfl, ownHeld⟩
    rcases exists_item_of_get? ownHeld inside with ⟨item, listed, key, shown⟩
    rcases List.mem_map.mp listed with ⟨line, written, rfl⟩
    exact ⟨line.2, ⟨sheet, member, named, key ▸ written⟩, shown⟩

theorem isNumber_iff_of_shown {size : Nat} (small : size < 0x8000000000000000) {value : Value}
    (shown : (Plain.number size).Shown value) (other : Nat) :
    value.IsNumber other <-> other = size := by
  rcases shown with ⟨span, rfl⟩
  have signed : (Int64.ofInt size).toInt = size :=
    Int64.toInt_ofInt_of_le (by omega) (by omega)
  simp [Value.IsNumber, Plain.scalar, signed, eq_comm]

theorem isFlag_iff_of_shown {flag : Bool} {value : Value} (shown : (Plain.flag flag).Shown value)
    (other : Bool) : value.IsFlag other <-> other = flag := by
  rcases shown with ⟨span, rfl⟩
  simp [Value.IsFlag, Plain.scalar, eq_comm]

theorem isText_iff_of_shown {content : String} {value : Value}
    (shown : (Plain.text content).Shown value) (other : String) :
    value.IsText other <-> other = content := by
  rcases shown with ⟨span, rfl⟩
  simp [Value.IsText, Plain.scalar, eq_comm]

theorem names_iff_of_shown {name : String} {value : Value} (shown : (Plain.text name).Shown value)
    (other : String) : value.Names other <-> other = name := by
  rcases shown with ⟨span, rfl⟩
  constructor
  · intro names
    cases names
    rfl
  · rintro rfl
    exact .string span other

end Toml

theorem ScanMode.name_injective : Function.Injective ScanMode.name := by
  intro first second
  cases first <;> cases second <;> decide

theorem ReportFormat.name_injective : Function.Injective ReportFormat.name := by
  intro first second
  cases first <;> cases second <;> decide

namespace Setting

def plain? : Setting -> Config -> Option Plain
  | length, config => some (.number config.buffer.length.toNat)
  | seed, config => config.buffer.seed.map fun seed => .number seed.toNat
  | mode, config => some (.text config.scanner.mode.name)
  | parallel, config => some (.flag config.scanner.parallel)
  | maxThreads, config => some (.number config.scanner.maxThreads.toNat)
  | chunkSize, config => some (.number config.scanner.chunkSize.toNat)
  | iterations, config => some (.number config.harness.iterations.toNat)
  | warmupIterations, config => some (.number config.harness.warmupIterations.toNat)
  | reportFormat, config => some (.text config.harness.reportFormat.name)
  | level, config => some (.text config.logging.level)

@[simp] theorem writes_sheets_iff {config : Config} {setting : Setting} {plain : Plain} :
    Writes config.sheets setting plain <-> setting.plain? config = some plain := by
  rcases config with ⟨⟨length, seed⟩, scanner, harness, logging⟩
  cases setting <;> cases seed <;>
    simp [Writes, Config.sheets, BufferSettings.sheet, ScannerSettings.sheet,
      HarnessSettings.sheet, LoggingSettings.sheet, table, key, plain?, eq_comm]

/-- A configuration takes a written value exactly if it agrees with what was written. -/
theorem takes_iff_agrees {config : Config} (fits : config.FitsSigned) {setting : Setting}
    {plain : Plain} (written : setting.plain? config = some plain) {value : Value}
    (shown : plain.Shown value) (other : Config) :
    setting.Takes value other <-> setting.Agrees other config := by
  have small (count : UInt32) : count.toNat < 0x8000000000000000 :=
    Nat.lt_trans count.toNat_lt_size (by decide)
  cases setting with
  | seed =>
      rcases Option.map_eq_some_iff.mp written with ⟨seed, given, rfl⟩
      have number := isNumber_iff_of_shown (fits.buffer.seed seed given) shown
      simp only [Takes, Agrees, number, given, UInt64.toNat_inj]
      constructor
      · rintro ⟨word, has, same⟩
        exact same ▸ has
      · exact fun has => ⟨seed, has, rfl⟩
  | length =>
      cases written
      exact (isNumber_iff_of_shown fits.buffer.length shown _).trans UInt64.toNat_inj
  | maxThreads =>
      cases written
      exact (isNumber_iff_of_shown fits.scanner.maxThreads shown _).trans UInt64.toNat_inj
  | chunkSize =>
      cases written
      exact (isNumber_iff_of_shown fits.scanner.chunkSize shown _).trans UInt64.toNat_inj
  | iterations =>
      cases written
      exact (isNumber_iff_of_shown (small _) shown _).trans UInt32.toNat_inj
  | warmupIterations =>
      cases written
      exact (isNumber_iff_of_shown (small _) shown _).trans UInt32.toNat_inj
  | parallel =>
      cases written
      exact isFlag_iff_of_shown shown _
  | level =>
      cases written
      exact isText_iff_of_shown shown _
  | mode =>
      cases written
      exact (names_iff_of_shown shown _).trans ScanMode.name_injective.eq_iff
  | reportFormat =>
      cases written
      exact (names_iff_of_shown shown _).trans ReportFormat.name_injective.eq_iff

@[simp] theorem agrees_self (setting : Setting) (config : Config) :
    setting.Agrees config config := by
  cases setting <;> rfl

theorem key_injective : Function.Injective key := by
  intro first second
  cases first <;> cases second <;> decide

/-- Only the seed may be left out of a written text. -/
@[simp] theorem plain?_eq_none_iff {setting : Setting} {config : Config} :
    setting.plain? config = none <-> setting = .seed ∧ config.buffer.seed = none := by
  cases setting <;> simp [plain?]

theorem exists_plain? {setting : Setting} (other : setting ≠ .seed) (config : Config) :
    exists plain, setting.plain? config = some plain :=
  Option.ne_none_iff_exists'.mp fun none => other (plain?_eq_none_iff.mp none).1

end Setting

/-! ## Omissions -/

/-- A part of a written text that is left out: the line of a setting or a whole table. -/
inductive Omission where
  | line (setting : Setting)
  | table (name : String)
deriving Repr, DecidableEq

namespace Omission

def Hides : Omission -> Setting -> Prop
  | line setting, other => other = setting
  | table name, other => other.table = name

instance : (omission : Omission) -> (other : Setting) -> Decidable (omission.Hides other)
  | line setting, other => inferInstanceAs (Decidable (other = setting))
  | table name, other => inferInstanceAs (Decidable (other.table = name))

/-- What is left of a table without the line of a setting. -/
def remaining (setting : Setting) (sheet : Sheet) : Sheet where
  name := sheet.name
  lines := sheet.lines.filter fun line =>
    Not (sheet.name = setting.table ∧ line.1 = setting.key)

def applied : Omission -> List Sheet -> List Sheet
  | line setting, sheets => sheets.map (remaining setting)
  | table name, sheets => sheets.filter fun sheet => sheet.name ≠ name

@[simp] theorem writes_applied_iff {omission : Omission} {sheets : List Sheet} {setting : Setting}
    {plain : Plain} :
    Writes (omission.applied sheets) setting plain <->
      Writes sheets setting plain ∧ Not (omission.Hides setting) := by
  cases omission with
  | line hidden =>
      constructor
      · rintro ⟨_, member, named, line⟩
        rcases List.mem_map.mp member with ⟨sheet, listed, rfl⟩
        rcases List.mem_filter.mp line with ⟨written, kept⟩
        refine ⟨⟨sheet, listed, named, written⟩, ?_⟩
        rintro rfl
        exact of_decide_eq_true kept ⟨named, rfl⟩
      · rintro ⟨⟨sheet, listed, named, line⟩, shown⟩
        refine ⟨remaining hidden sheet, List.mem_map_of_mem listed, named, ?_⟩
        refine List.mem_filter.mpr ⟨line, decide_eq_true ?_⟩
        exact fun same => shown (Setting.key_injective same.2)
  | table name =>
      simp only [Writes, applied, List.mem_filter, Hides, decide_eq_true_eq]
      constructor
      · rintro ⟨sheet, ⟨member, kept⟩, named, line⟩
        exact ⟨⟨sheet, member, named, line⟩, named ▸ kept⟩
      · rintro ⟨⟨sheet, member, named, line⟩, kept⟩
        exact ⟨sheet, ⟨member, named.symm ▸ kept⟩, named, line⟩

theorem isWritable_remaining (setting : Setting) {sheet : Sheet} (writable : sheet.IsWritable) :
    (remaining setting sheet).IsWritable where
  name := writable.name
  lines := fun line member => writable.lines line (List.mem_filter.mp member).1
  distinct := writable.distinct.sublist (List.filter_sublist.map _)

/-- Tables can still be written when something is left out of them. -/
theorem areWritable_applied (omission : Omission) {sheets : List Sheet}
    (writable : AreWritable sheets) : AreWritable (omission.applied sheets) := by
  cases omission with
  | line setting =>
      refine ⟨List.forall_mem_map.mpr fun sheet member => ?_, ?_⟩
      · exact isWritable_remaining setting (writable.each sheet member)
      · rw [applied, List.map_map]
        exact writable.distinct
  | table name =>
      exact ⟨fun sheet member => writable.each sheet (List.mem_filter.mp member).1,
        writable.distinct.sublist (List.filter_sublist.map _)⟩

variable {config : Config} {root : Value} {omission : Omission}

theorem setting?_of_hides (shows : root.ShowsTables (omission.applied config.sheets))
    {setting : Setting} (hidden : omission.Hides setting) : root.setting? setting = none := by
  rw [Option.eq_none_iff_forall_not_mem]
  intro value given
  rcases shows.written setting value given with ⟨plain, written, _⟩
  exact (writes_applied_iff.mp written).2 hidden

/-- A value that is still given is one that was written. -/
theorem plain?_of_setting? (shows : root.ShowsTables (omission.applied config.sheets))
    {setting : Setting} {value : Value} (given : root.setting? setting = some value) :
    exists plain, setting.plain? config = some plain ∧ plain.Shown value := by
  rcases shows.written setting value given with ⟨plain, written, shown⟩
  exact ⟨plain, Setting.writes_sheets_iff.mp (writes_applied_iff.mp written).1, shown⟩

/-- What is left settles the configurations that have other values for what is hidden and
keep the rest.  A seed that was not written is not missed, if there is no other one. -/
theorem settles_iff (fits : config.FitsSigned)
    (shows : root.ShowsTables (omission.applied config.sheets)) {initial other : Config}
    (unseeded : initial.buffer.seed = none) :
    root.Settles initial other <->
      forall setting : Setting,
        (omission.Hides setting -> setting.Agrees other initial) ∧
        (Not (omission.Hides setting) -> setting.Agrees other config) := by
  refine forall_congr' fun setting => ?_
  by_cases hidden : omission.Hides setting
  · simp [setting?_of_hides shows hidden, hidden]
  · simp only [hidden, false_implies, not_false_eq_true, true_implies, true_and]
    cases written : setting.plain? config with
    | some plain =>
        have still := writes_applied_iff.mpr ⟨Setting.writes_sheets_iff.mpr written, hidden⟩
        rcases shows.shown setting plain still with ⟨value, given, shown⟩
        simp [given, Setting.takes_iff_agrees fits written shown]
    | none =>
        have absent : root.setting? setting = none := by
          rw [Option.eq_none_iff_forall_not_mem]
          intro value given
          rcases plain?_of_setting? shows given with ⟨plain, some, _⟩
          exact nomatch written.symm.trans some
        rcases Setting.plain?_eq_none_iff.mp written with ⟨rfl, none⟩
        simp [absent, Setting.Agrees, unseeded, none]

/-- What is left always settles a configuration. -/
theorem exists_settles (fits : config.FitsSigned)
    (shows : root.ShowsTables (omission.applied config.sheets)) (initial : Config) :
    exists other, root.Settles initial other := by
  rw [exists_settles_iff]
  intro setting value given
  rcases plain?_of_setting? shows given with ⟨plain, written, shown⟩
  have taken := (Setting.takes_iff_agrees fits written shown config).mpr
    (setting.agrees_self config)
  exact Setting.admits_of_takes taken

/-! ## What is cut out of the text -/

theorem remaining_of_name_ne {setting : Setting} {sheet : Sheet}
    (other : sheet.name ≠ setting.table) : remaining setting sheet = sheet := by
  simp [remaining, other]

/-- A table loses the line of a setting, and only that. -/
theorem written_remaining {setting : Setting} {sheet : Sheet} {plain : Plain}
    (distinct : (sheet.lines.map Prod.fst).Nodup) (named : sheet.name = setting.table)
    (line : (setting.key, plain) ∈ sheet.lines) :
    exists before after,
      sheet.written = before ++ Sheet.writtenLine (setting.key, plain) ++ after ∧
      (remaining setting sheet).written = before ++ after := by
  rcases List.append_of_mem line with ⟨front, back, lines⟩
  rw [lines, List.map_append, List.map_cons, List.nodup_middle, List.nodup_cons,
    ← List.map_append] at distinct
  have others : (front ++ back).filter (fun line => decide (line.1 ≠ setting.key)) =
      front ++ back := by
    rw [List.filter_eq_self]
    intro other member
    refine decide_eq_true fun same => distinct.1 ?_
    exact List.mem_map.mpr ⟨other, member, same⟩
  have left : (remaining setting sheet).lines = front ++ back := by
    rw [← others, List.filter_append]
    simp [remaining, named, lines]
  refine ⟨'[' :: sheet.name.toList ++ [']', '\n'] ++ front.flatMap Sheet.writtenLine,
    back.flatMap Sheet.writtenLine, ?_, ?_⟩
  · simp [Sheet.written, lines]
  · rw [Sheet.written, left]
    simp [remaining]

/-- Tables in front of another one, with an empty line behind each. -/
def leading (front : List Sheet) : List Char :=
  front.flatMap fun sheet => sheet.written ++ ['\n']

theorem writtenSheets_append_cons (front : List Sheet) (sheet : Sheet) (back : List Sheet) :
    writtenSheets (front ++ sheet :: back) = leading front ++ writtenSheets (sheet :: back) := by
  induction front with
  | nil => rfl
  | cons first front ih =>
      have step : writtenSheets (first :: (front ++ sheet :: back)) =
          first.written ++ '\n' :: writtenSheets (front ++ sheet :: back) := by
        cases front <;> rfl
      rw [List.cons_append, step, ih]
      simp [leading]

/-- Where names differ, no other table has the name of one of them. -/
theorem name_ne_of_mem {front back : List Sheet} {sheet : Sheet}
    (distinct : ((front ++ sheet :: back).map Sheet.name).Nodup) :
    forall other, other ∈ front ++ back -> other.name ≠ sheet.name := by
  rw [List.map_append, List.map_cons, List.nodup_middle, List.nodup_cons,
    ← List.map_append] at distinct
  exact fun other member same => distinct.1 (List.mem_map.mpr ⟨other, member, same⟩)

theorem writtenSheets_line {sheets : List Sheet} (writable : AreWritable sheets)
    {setting : Setting} {plain : Plain} (written : Writes sheets setting plain) :
    exists before after,
      writtenSheets sheets = before ++ Sheet.writtenLine (setting.key, plain) ++ after ∧
      writtenSheets ((line setting).applied sheets) = before ++ after := by
  rcases written with ⟨sheet, member, named, line⟩
  rcases written_remaining (writable.each sheet member).distinct named line with
    ⟨before, after, whole, left⟩
  rcases List.append_of_mem member with ⟨front, back, rfl⟩
  have others := name_ne_of_mem writable.distinct
  have applied : (Omission.line setting).applied (front ++ sheet :: back) =
      front ++ remaining setting sheet :: back := by
    have same (tables : List Sheet)
        (listed : forall other, other ∈ tables -> other ∈ front ++ back) :
        tables.map (remaining setting) = tables := by
      rw [List.map_congr_left fun other member =>
        remaining_of_name_ne (named ▸ others other (listed other member))]
      exact List.map_id' tables
    rw [Omission.applied, List.map_append, List.map_cons,
      same front fun other => List.mem_append_left back,
      same back fun other => List.mem_append_right front]
  have rest : exists rest, forall sheet : Sheet,
      writtenSheets (sheet :: back) = sheet.written ++ rest := by
    cases back with
    | nil => exact ⟨[], fun sheet => (List.append_nil _).symm⟩
    | cons next back => exact ⟨'\n' :: writtenSheets (next :: back), fun sheet => rfl⟩
  rcases rest with ⟨rest, behind⟩
  rw [applied, writtenSheets_append_cons, writtenSheets_append_cons, behind, behind, whole, left]
  exact ⟨leading front ++ before, after ++ rest, by simp, by simp⟩

theorem writtenSheets_table {sheets : List Sheet} (distinct : (sheets.map Sheet.name).Nodup)
    (several : 1 < sheets.length) {sheet : Sheet} (member : sheet ∈ sheets) :
    exists before part after, writtenSheets sheets = before ++ part ++ after ∧
      writtenSheets ((table sheet.name).applied sheets) = before ++ after ∧
      (part = sheet.written ++ ['\n'] ∨ part = '\n' :: sheet.written) := by
  rcases List.append_of_mem member with ⟨front, back, rfl⟩
  have others := name_ne_of_mem distinct
  have applied : (table sheet.name).applied (front ++ sheet :: back) = front ++ back := by
    have kept : (front ++ back).filter (fun other => decide (other.name ≠ sheet.name)) =
        front ++ back := by
      rw [List.filter_eq_self]
      exact fun other member => decide_eq_true (others other member)
    rw [← kept, List.filter_append]
    simp [Omission.applied]
  rw [applied]
  -- The empty line behind the table goes with it, or the one before if it is the last.
  cases back with
  | cons next back =>
      refine ⟨leading front, sheet.written ++ ['\n'], writtenSheets (next :: back), ?_, ?_,
        .inl rfl⟩
      · rw [writtenSheets_append_cons]
        simp [writtenSheets]
      · exact writtenSheets_append_cons front next back
  | nil =>
      rcases List.eq_nil_or_concat front with rfl | ⟨front, last, rfl⟩
      · simp at several
      · refine ⟨writtenSheets (front ++ [last]), '\n' :: sheet.written, [], ?_, ?_, .inr rfl⟩
        · rw [List.concat_eq_append, List.append_assoc, List.singleton_append,
            writtenSheets_append_cons, writtenSheets_append_cons]
          simp [writtenSheets]
        · rw [List.concat_eq_append, List.append_nil, List.append_nil]

variable (config) in
/-- The part of the text of a configuration that is left out: a line, or a table together
with the empty line that sets it apart. -/
def IsPart (part : List Char) : Omission -> Prop
  | line setting => exists plain, setting.plain? config = some plain ∧
      part = Sheet.writtenLine (setting.key, plain)
  | table name => exists sheet, sheet ∈ config.sheets ∧ sheet.name = name ∧
      (part = sheet.written ++ ['\n'] ∨ part = '\n' :: sheet.written)

/-- Some setting that has a default value is no longer given. -/
def IsFelt (omission : Omission) : Prop :=
  exists setting, setting ≠ .seed ∧ omission.Hides setting

/-- The text loses one part, and is otherwise the same. -/
theorem exists_part (writable : AreWritable config.sheets) (felt : omission.IsFelt) :
    exists before part after, writtenSheets config.sheets = before ++ part ++ after ∧
      writtenSheets (omission.applied config.sheets) = before ++ after ∧
      omission.IsPart config part := by
  rcases felt with ⟨setting, other, hidden⟩
  rcases Setting.exists_plain? other config with ⟨plain, given⟩
  have written := Setting.writes_sheets_iff.mpr given
  cases omission with
  | line missing =>
      cases hidden
      rcases writtenSheets_line writable written with ⟨before, after, whole, left⟩
      exact ⟨before, _, after, whole, left, plain, given, rfl⟩
  | table name =>
      rcases written with ⟨sheet, member, named, _⟩
      cases named.trans hidden
      have several : 1 < config.sheets.length := by
        change 1 < 4
        decide
      rcases writtenSheets_table writable.distinct several member with
        ⟨before, part, after, whole, left, cut⟩
      exact ⟨before, part, after, whole, left, sheet, member, rfl, cut⟩

end Omission

/-! ## Reading the text both ways -/

namespace Defaults

/-- The text of a configuration holds a set of default values, without the seed. -/
theorem ofToml_writtenSheets {config : Config} (fits : config.FitsSigned)
    (countable : isCountable config.logging.level.toList = true) (initial : Defaults) :
    Defaults.ofToml initial (writtenSheets config.sheets) = .ok config.withoutSeed := by
  rcases parse_shows (Config.sheets_areWritable fits countable) with ⟨root, parsed, shows⟩
  rw [Defaults.ofToml, decode_of_parse parsed, decode_iff_gives shows.distinct shows.tables]
  intro setting other
  rcases Setting.exists_plain? other config with ⟨plain, written⟩
  rcases shows.shown setting plain (Setting.writes_sheets_iff.mpr written) with
    ⟨value, given, shown⟩
  refine ⟨value, given, (Setting.takes_iff_agrees fits written shown _).mpr ?_⟩
  cases setting with
  | seed => exact absurd rfl other
  | _ => rfl

/-- Without one of its settings the text holds no set of default values. -/
theorem ofToml_applied_fails {config : Config} (fits : config.FitsSigned)
    (countable : isCountable config.logging.level.toList = true) (initial : Defaults)
    {omission : Omission} (felt : omission.IsFelt) :
    exists failure,
      Defaults.ofToml initial (writtenSheets (omission.applied config.sheets)) =
        .error failure := by
  have writable := omission.areWritable_applied (Config.sheets_areWritable fits countable)
  rcases parse_shows writable with ⟨root, parsed, shows⟩
  cases read : Defaults.ofToml initial (writtenSheets (omission.applied config.sheets)) with
  | error failure => exact ⟨failure, rfl⟩
  | ok final =>
      rcases felt with ⟨setting, other, hidden⟩
      rw [Defaults.ofToml, decode_of_parse parsed,
        decode_iff_gives shows.distinct shows.tables] at read
      rcases read setting other with ⟨value, given, _⟩
      exact nomatch (Omission.setting?_of_hides shows hidden).symm.trans given

end Defaults

/-- Without some of its settings the text holds a configuration that has default values for
them. -/
theorem Config.ofToml_applied {config : Config} (fits : config.FitsSigned)
    (countable : isCountable config.logging.level.toList = true) (defaults : Defaults)
    (omission : Omission) :
    exists other,
      Config.ofToml defaults (writtenSheets (omission.applied config.sheets)) = .ok other ∧
      forall setting : Setting,
        (omission.Hides setting -> setting.Agrees other defaults.config) ∧
        (Not (omission.Hides setting) -> setting.Agrees other config) := by
  have writable := omission.areWritable_applied (Config.sheets_areWritable fits countable)
  rcases parse_shows writable with ⟨root, parsed, shows⟩
  rcases Omission.exists_settles fits shows defaults.config with ⟨other, settled⟩
  refine ⟨other, ?_, (Omission.settles_iff fits shows rfl).mp settled⟩
  rw [Config.ofToml, decode_of_parse parsed]
  exact (Config.decode_iff_settles shows.distinct shows.tables).mpr settled

namespace Defaults

/-- A set of default values whose numbers do not need the sign bit is written exactly if its
log level has no 256 equal quotes in a row, and its text holds both these values and the
configuration that has them and no seed.  The text of a configuration holds its settings but
the seed as a set of default values; without the line of one of them, or a whole table, it
holds none, but still a configuration, with default values for what is left out. -/
theorem toml_readings (initial defaults : Defaults) :
    (forall values : Defaults, values.config.FitsSigned ->
      ((exists text, values.toml = .ok text) <->
        forall quote : Quote,
          Not (List.replicate 256 quote.character <:+: values.logging.level.toList)) ∧
      forall text, values.toml = .ok text ->
        Defaults.ofToml initial text = .ok values ∧
        Config.ofToml defaults text = .ok values.config) ∧
    forall config : Config, config.FitsSigned ->
      ((exists text, config.toml = .ok text) <->
        forall quote : Quote,
          Not (List.replicate 256 quote.character <:+: config.logging.level.toList)) ∧
      forall text, config.toml = .ok text ->
        Defaults.ofToml initial text = .ok config.withoutSeed ∧
        forall omission : Omission, omission.IsFelt ->
          exists before part after, text = before ++ part ++ after ∧
            omission.IsPart config part ∧
            before ++ after = writtenSheets (omission.applied config.sheets) ∧
            (exists failure, Defaults.ofToml initial (before ++ after) = .error failure) ∧
            exists other, Config.ofToml defaults (before ++ after) = .ok other ∧
              forall setting : Setting,
                (omission.Hides setting -> setting.Agrees other defaults.config) ∧
                (Not (omission.Hides setting) -> setting.Agrees other config) := by
  have exists_iff {config : Config} (fits : config.FitsSigned) :
      (exists text, config.toml = .ok text) <->
        forall quote : Quote,
          Not (List.replicate 256 quote.character <:+: config.logging.level.toList) := by
    refine Iff.trans ?_ (isCountable_iff config.logging.level.toList)
    rw [Config.toml_eq fits]
    split <;> simp [*]
  have written {config : Config} (fits : config.FitsSigned) {text : List Char}
      (success : config.toml = .ok text) :
      isCountable config.logging.level.toList = true ∧ text = writtenSheets config.sheets := by
    rw [Config.toml_eq fits] at success
    split at success
    · rename_i countable
      exact ⟨countable, (Except.ok.inj success).symm⟩
    · cases success
  refine ⟨fun values fits => ⟨exists_iff fits, fun text success => ?_⟩,
    fun config fits => ⟨exists_iff fits, fun text success => ?_⟩⟩
  · rcases written fits success with ⟨countable, rfl⟩
    exact ⟨ofToml_writtenSheets fits countable initial,
      Config.ofToml_writtenSheets fits countable defaults⟩
  · rcases written fits success with ⟨countable, rfl⟩
    refine ⟨ofToml_writtenSheets fits countable initial, fun omission felt => ?_⟩
    rcases Omission.exists_part (Config.sheets_areWritable fits countable) felt with
      ⟨before, part, after, whole, left, cut⟩
    refine ⟨before, part, after, whole, cut, left.symm, ?_⟩
    rw [← left]
    exact ⟨ofToml_applied_fails fits countable initial felt,
      Config.ofToml_applied fits countable defaults omission⟩

/-- A configuration with a seed, with and without its chunk size or its buffer table; and a
level with so many quotes that nothing is written. -/
theorem toml_readings_omitted :
    let config : Config := ⟨⟨7, some 9⟩, ⟨.chars, true, 2, 64⟩, ⟨1, 0, .json⟩, ⟨"\x27debug\x27"⟩⟩
    let quotes : LoggingSettings := ⟨String.ofList (List.replicate 256 '\x22')⟩
    let defaults := Defaults.ofProcessors 4
    config.FitsSigned ∧
    (exists text, config.toml = .ok text ∧
      Defaults.ofToml defaults text = .ok config.withoutSeed) ∧
    (exists failure, Defaults.ofToml defaults
      (writtenSheets ((Omission.line .chunkSize).applied config.sheets)) = .error failure) ∧
    (exists other, Config.ofToml defaults
        (writtenSheets ((Omission.table "buffer").applied config.sheets)) = .ok other ∧
      other.buffer = ⟨5000000, none⟩ ∧ other.logging.level = config.logging.level) ∧
    Not (exists text, Defaults.toml { defaults with logging := quotes } = .ok text) := by
  intro config quotes defaults
  have small : forall quote : Quote,
      Not (List.replicate 256 quote.character <:+: config.logging.level.toList) := by
    intro quote row
    have short := row.length_le
    rw [List.length_replicate] at short
    exact absurd short (by decide)
  have fits : config.FitsSigned :=
    ⟨⟨by decide, fun seed given => Option.some.inj given ▸ (by decide)⟩, ⟨by decide, by decide⟩⟩
  have readings := toml_readings defaults defaults
  rcases (readings.2 config fits).1.mpr small with ⟨text, success⟩
  rcases (readings.2 config fits).2 text success with ⟨read, omitted⟩
  refine ⟨fits, ⟨text, success, read⟩, ?_, ?_, ?_⟩
  · rcases omitted (.line .chunkSize) ⟨.chunkSize, nofun, rfl⟩ with ⟨_, _, _, _, _, left, fails, _⟩
    exact left ▸ fails
  · rcases omitted (.table "buffer") ⟨.length, nofun, rfl⟩ with
      ⟨_, _, _, _, _, left, _, other, reads, agrees⟩
    have length : other.buffer.length = 5000000 := (agrees .length).1 rfl
    have seed : other.buffer.seed = none := (agrees .seed).1 rfl
    refine ⟨other, left ▸ reads, ?_, (agrees .level).2 (by decide)⟩
    rw [← length, ← seed]
  · rw [(readings.1 { defaults with logging := quotes }
      ⟨⟨by decide, nofun⟩, by decide, by decide⟩).1]
    intro none
    apply none .double
    rw [String.toList_ofList]
    exact List.infix_rfl

end Defaults

end WhitespaceBench
