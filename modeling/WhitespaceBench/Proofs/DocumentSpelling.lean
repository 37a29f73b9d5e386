import WhitespaceBench.Proofs.GivenSettings

namespace WhitespaceBench

open Decode Toml

/-!
# Spellings of a configuration

What a document says about a configuration are the values that it gives to settings.
Nothing else matters: not where these values stand, not the order of tables and keys, not
keys that no setting has, and not a table that gives no setting a value.
-/

namespace Toml

mutual

/-- A value without its places, and without the ways in which its tables came about. -/
def Value.unplaced : Value -> Value
  | .scalar _ content => .scalar none content
  | .array _ form items => .array none form (unplacedItems items)
  | .table _ _ entries => .table none .header (unplacedEntries entries)

def unplacedItems : List Value -> List Value
  | [] => []
  | item :: items => item.unplaced :: unplacedItems items

def unplacedEntries : List (Key × Value) -> List (Key × Value)
  | [] => []
  | (key, value) :: entries => (⟨key.name, none⟩, value.unplaced) :: unplacedEntries entries

end

/-- Entries that differ in their order, or by a key that means nothing here. -/
inductive Entries.Respells (known : String -> Prop) : Entries -> Entries -> Prop where
  | order {entries others : Entries} (distinct : entries.names.Nodup)
      (same : entries.Perm others) : Respells known entries others
  | unknown {key : Key} {value : Value} {entries : Entries} (meaningless : Not (known key.name)) :
      Respells known ((key, value) :: entries) entries

/-- Documents that differ in places, in the order of their tables or keys, by unknown tables
or keys, or by an empty table. -/
inductive Value.SameSettings : Value -> Value -> Prop where
  | places {root other : Value} (same : root.unplaced = other.unplaced) : SameSettings root other
  | tables {span : Option Span} {form : TableForm} {entries others : Entries}
      (respelled : Entries.Respells (fun name => exists setting : Setting, setting.table = name)
        entries others) :
      SameSettings (.table span form entries) (.table span form others)
  | keys {span innerSpan : Option Span} {form innerForm : TableForm} {key : Key}
      {inner others rest : Entries}
      (respelled : Entries.Respells
        (fun name => exists setting : Setting, setting.table = key.name ∧ setting.key = name)
        inner others) :
      SameSettings (.table span form ((key, .table innerSpan innerForm inner) :: rest))
        (.table span form ((key, .table innerSpan innerForm others) :: rest))
  | omitted {span innerSpan : Option Span} {form innerForm : TableForm} {key : Key}
      {rest : Entries} (absent : key.name ∉ rest.names) :
      SameSettings (.table span form ((key, .table innerSpan innerForm []) :: rest))
        (.table span form rest)
  | symm {root other : Value} (same : SameSettings root other) : SameSettings other root
  | trans {root middle other : Value} (first : SameSettings root middle)
      (second : SameSettings middle other) : SameSettings root other

/-! ## Places -/

@[simp] theorem isNumber_unplaced {value : Value} {size : Nat} :
    value.unplaced.IsNumber size <-> value.IsNumber size := by
  cases value <;> simp [Value.unplaced, Value.IsNumber]

@[simp] theorem isFlag_unplaced {value : Value} {flag : Bool} :
    value.unplaced.IsFlag flag <-> value.IsFlag flag := by
  cases value <;> simp [Value.unplaced, Value.IsFlag]

@[simp] theorem isText_unplaced {value : Value} {content : String} :
    value.unplaced.IsText content <-> value.IsText content := by
  cases value <;> simp [Value.unplaced, Value.IsText]

theorem nothing_of_unplaced {value : Value} :
    (forall span form, value.unplaced = .table span form [] ->
      exists span form, value = .table span form []) ∧
    forall span form, value.unplaced = .array span form [] ->
      exists span, value = .array span form [] := by
  cases value with
  | scalar span content => simp [Value.unplaced]
  | array span form items => cases items <;> simp [Value.unplaced, unplacedItems]
  | table span form entries => cases entries <;> simp [Value.unplaced, unplacedEntries]

theorem names_of_unplaced {value : Value} {name : String} (names : value.unplaced.Names name) :
    value.Names name := by
  cases value with
  | scalar span content =>
      rw [Value.unplaced] at names
      cases names
      exact .string span name
  | array span form items =>
      rw [Value.unplaced] at names
      cases names
  | table span form entries =>
      -- There is one entry, since there still is one without places.
      rcases entries with _ | ⟨⟨key, inner⟩, others⟩
      · rw [Value.unplaced, unplacedEntries] at names
        cases names
      · rw [Value.unplaced, unplacedEntries] at names
        generalize same : inner.unplaced = content at names
        cases others with
        | cons second others =>
            rw [unplacedEntries] at names
            cases names
        | nil =>
            rw [unplacedEntries] at names
            cases names with
            | emptyTable =>
                rcases nothing_of_unplaced.1 _ _ same with ⟨innerSpan, innerForm, rfl⟩
                exact .emptyTable span innerSpan form innerForm key
            | emptyArray =>
                rcases nothing_of_unplaced.2 _ _ same with ⟨innerSpan, rfl⟩
                exact .emptyArray span innerSpan form _ key

@[simp] theorem names_unplaced {value : Value} {name : String} :
    value.unplaced.Names name <-> value.Names name := by
  refine ⟨names_of_unplaced, fun names => ?_⟩
  cases names with
  | string span => exact .string none name
  | emptyTable span inner form innerForm key =>
      exact .emptyTable none none .header .header ⟨key.name, none⟩
  | emptyArray span inner form innerForm key =>
      exact .emptyArray none none .header innerForm ⟨key.name, none⟩

@[simp] theorem get?_unplaced (entries : Entries) (name : String) :
    Entries.get? (unplacedEntries entries) name = (entries.get? name).map Value.unplaced := by
  induction entries with
  | nil => rfl
  | cons entry entries ih =>
      rw [unplacedEntries, Entries.get?, Entries.get?]
      by_cases same : entry.1.name = name
      · rw [if_pos same, if_pos same]
        rfl
      · rw [if_neg same, if_neg same, ih]

@[simp] theorem key?_unplaced (value : Value) (name : String) :
    value.unplaced.key? name = (value.key? name).map Value.unplaced := by
  cases value with
  | scalar span scalar => rfl
  | array span form items => rfl
  | table span form entries => exact get?_unplaced entries name

end Toml

@[simp] theorem setting?_unplaced (root : Value) (setting : Setting) :
    root.unplaced.setting? setting = (root.setting? setting).map Value.unplaced := by
  cases found : root.key? setting.table <;> simp [Value.setting?, found]

@[simp] theorem takes_unplaced {setting : Setting} {value : Value} {config : Config} :
    setting.Takes value.unplaced config <-> setting.Takes value config := by
  cases setting <;> simp [Setting.Takes]

@[simp] theorem settles_unplaced {root : Value} {initial config : Config} :
    root.unplaced.Settles initial config <-> root.Settles initial config := by
  simp [Value.Settles]

theorem settles_of_setting? {root other : Value}
    (same : forall setting, other.setting? setting = root.setting? setting)
    {initial config : Config} : other.Settles initial config <-> root.Settles initial config := by
  unfold Value.Settles
  simp only [same]

theorem hasTables_of_unplaced {root : Value} (tables : root.unplaced.HasTables) :
    root.HasTables := by
  intro setting value found
  have unplaced : root.unplaced.key? setting.table = some value.unplaced := by
    simp [found]
  rcases tables setting _ unplaced with ⟨span, form, entries, same⟩
  cases value with
  | scalar => cases same
  | array => cases same
  | table span form entries => exact ⟨span, form, entries, rfl⟩

/-! ## Order and unknown keys -/

theorem get?_of_respells {known : String -> Prop} {entries others : Entries}
    (respelled : Entries.Respells known entries others) {name : String} (means : known name) :
    others.get? name = entries.get? name := by
  cases respelled with
  | order distinct same => exact Entries.get?_of_perm distinct same name
  | unknown meaningless =>
      rename_i key value
      have other : key.name ≠ name := by
        intro same
        rw [same] at meaningless
        exact meaningless means
      exact (if_neg other).symm

/-- Documents with the same settings settle the same configurations. -/
theorem settles_of_sameSettings {root other : Value} (same : root.SameSettings other)
    {initial config : Config} : other.Settles initial config <-> root.Settles initial config := by
  induction same with
  | places same => rw [← settles_unplaced, ← same, settles_unplaced]
  | tables respelled =>
      apply settles_of_setting?
      intro setting
      have found := get?_of_respells respelled ⟨setting, rfl⟩
      simp only [Value.setting?, Value.key?, found]
  | keys respelled =>
      rename_i key inner others rest
      apply settles_of_setting?
      intro setting
      simp only [Value.setting?, Value.key?, Entries.get?]
      by_cases here : key.name = setting.table
      · rw [if_pos here, if_pos here]
        exact get?_of_respells respelled ⟨setting, here.symm, rfl⟩
      · rw [if_neg here, if_neg here]
  | omitted absent =>
      rename_i key rest
      apply settles_of_setting?
      intro setting
      simp only [Value.setting?, Value.key?, Entries.get?]
      by_cases here : key.name = setting.table
      · rw [if_pos here, ← here, Entries.get?_of_not_mem absent]
        rfl
      · rw [if_neg here]
  | symm _ ih => exact ih.symm
  | trans _ _ first second => exact second.trans first

namespace Config

theorem decode_of_ofToml {defaults : Defaults} {text : List Char} {root : Value} {config : Config}
    (read : Config.ofToml defaults text = .ok config) (parsed : parse text = some root) :
    Config.decode defaults dialect root = .ok config :=
  (decode_of_parse parsed).mp read

/-- A document whose sections are tables is read as a configuration exactly if every value
that it gives to a setting is admissible.  Then each setting has the value that is given to
it, and that of the default configuration if none is.  Documents that differ only in their
spelling are read as the same configuration. -/
theorem decode_parsed_iff (processors : UInt64) {text : List Char} {root : Value}
    (parsed : parse text = some root) (tables : root.HasTables) :
    ((exists config,
        Config.decode (Defaults.ofProcessors processors) dialect root = .ok config) <->
      forall setting value, root.setting? setting = some value -> setting.Admits value) ∧
    (forall config,
      Config.decode (Defaults.ofProcessors processors) dialect root = .ok config <->
        root.Settles (Config.default processors) config) ∧
    forall otherText other, parse otherText = some other -> other.HasTables ->
      root.SameSettings other -> forall config,
        Config.decode (Defaults.ofProcessors processors) dialect other = .ok config <->
          Config.decode (Defaults.ofProcessors processors) dialect root = .ok config := by
  have distinct {text : List Char} {root : Value} (parsed : parse text = some root) :
      root.IsDistinctTable := by
    rcases parse_areDistinct parsed with ⟨span, entries, same, each⟩
    exact ⟨span, .header, entries, same, each⟩
  have settled (config : Config) :
      Config.decode (Defaults.ofProcessors processors) dialect root = .ok config <->
        root.Settles (Config.default processors) config :=
    decode_iff_settles (distinct parsed) tables
  refine ⟨?_, settled, ?_⟩
  · rw [← exists_settles_iff]
    exact exists_congr settled
  · intro otherText other otherParsed otherTables same config
    rw [settled, decode_iff_settles (distinct otherParsed) otherTables]
    exact settles_of_sameSettings same

/-- A mode given through dotted keys, a seed in another base and an unknown key, against the
same settings in another order with an empty table among them. -/
theorem decode_parsed_iff_dotted :
    let config : Config :=
      ⟨⟨5000000, some 16⟩, ⟨.chars, false, 4, 65536⟩, ⟨100, 3, .text⟩, ⟨"info"⟩⟩
    exists root other,
      parse "scanner.mode.chars = []\nz = 1\n[buffer]\nseed = 0x10\n".toList = some root ∧
      parse "[buffer]\nseed = 16\n[harness]\n[scanner.mode]\nchars = []\n".toList = some other ∧
      root.HasTables ∧ other.HasTables ∧ root.SameSettings other ∧
      (forall setting value, root.setting? setting = some value -> setting.Admits value) ∧
      root.Settles (Config.default 4) config ∧
      Config.decode (Defaults.ofProcessors 4) dialect other = .ok config := by
  intro config
  let scanner : Key × Value := (⟨"scanner", none⟩, .table none .header
    [(⟨"mode", none⟩, .table none .header [(⟨"chars", none⟩, .array none .bracketed [])])])
  let unknown : Key × Value := (⟨"z", none⟩, .scalar none (.integer 1))
  let buffer : Key × Value := (⟨"buffer", none⟩, .table none .header
    [(⟨"seed", none⟩, .scalar none (.integer 16))])
  let harness : Key × Value := (⟨"harness", none⟩, .table none .header [])
  have reordered : (Value.table none .header [scanner, unknown, buffer]).SameSettings
      (.table none .header [buffer, harness, scanner]) :=
    .trans (.tables (.order (by decide) (.swap unknown scanner [buffer])))
      (.trans (.tables (.unknown fun ⟨setting, named⟩ => by
        cases setting <;> exact absurd named (by decide)))
        (.trans (.tables (.order (by decide) (.swap buffer scanner [])))
          (.trans (.symm (.omitted (by decide)))
            (.tables (.order (by decide) (.swap buffer harness [scanner]))))))
  have first : (parse "scanner.mode.chars = []\nz = 1\n[buffer]\nseed = 0x10\n".toList).map
      Value.unplaced = some (.table none .header [scanner, unknown, buffer]) := by cbv
  have second : (parse "[buffer]\nseed = 16\n[harness]\n[scanner.mode]\nchars = []\n".toList).map
      Value.unplaced = some (.table none .header [buffer, harness, scanner]) := by cbv
  have read : Config.ofToml (Defaults.ofProcessors 4)
      "scanner.mode.chars = []\nz = 1\n[buffer]\nseed = 0x10\n".toList = .ok config := by cbv
  rcases Option.map_eq_some_iff.mp first with ⟨root, parsed, places⟩
  rcases Option.map_eq_some_iff.mp second with ⟨other, otherParsed, otherPlaces⟩
  have tables : root.HasTables := by
    apply hasTables_of_unplaced
    rw [places]
    intro setting value found
    cases setting <;> cases found <;> exact ⟨_, _, _, rfl⟩
  have otherTables : other.HasTables := by
    apply hasTables_of_unplaced
    rw [otherPlaces]
    intro setting value found
    cases setting <;> cases found <;> exact ⟨_, _, _, rfl⟩
  have unplaced : root.SameSettings (.table none .header [scanner, unknown, buffer]) :=
    .places places
  have otherUnplaced : other.SameSettings (.table none .header [buffer, harness, scanner]) :=
    .places otherPlaces
  have same : root.SameSettings other := .trans unplaced (.trans reordered (.symm otherUnplaced))
  have decoded := decode_of_ofToml read parsed
  have settled := decode_parsed_iff 4 parsed tables
  exact ⟨root, other, parsed, otherParsed, tables, otherTables, same, settled.1.mp ⟨_, decoded⟩,
    (settled.2.1 config).mp decoded,
    (settled.2.2 _ other otherParsed otherTables same config).mpr decoded⟩

end Config
end WhitespaceBench
