import WhitespaceBench.Config.Toml
import WhitespaceBench.Proofs.NamedFields

namespace WhitespaceBench

open Decode Toml

/-!
# What a document says about a configuration

A document gives a value to some of the settings, or to none.  It is read as a
configuration exactly if each value is admissible for its setting; then every setting has
the value that is given to it, and its default value if none is.
-/

inductive Setting where
  | length
  | seed
  | mode
  | parallel
  | maxThreads
  | chunkSize
  | iterations
  | warmupIterations
  | reportFormat
  | level
deriving Repr, DecidableEq

namespace Setting

def table : Setting -> String
  | length | seed => "buffer"
  | mode | parallel | maxThreads | chunkSize => "scanner"
  | iterations | warmupIterations | reportFormat => "harness"
  | level => "logging"

def key : Setting -> String
  | length => "length"
  | seed => "seed"
  | mode => "mode"
  | parallel => "parallel"
  | maxThreads => "max_threads"
  | chunkSize => "chunk_size"
  | iterations => "iterations"
  | warmupIterations => "warmup_iterations"
  | reportFormat => "report_format"
  | level => "level"

/-- The values that may be given to a setting. -/
def Admits : Setting -> Value -> Prop
  | length, value | seed, value | maxThreads, value | chunkSize, value =>
      exists span number, value = .scalar span (.integer number) ∧ 0 ≤ number.toInt
  | iterations, value | warmupIterations, value =>
      exists span number, value = .scalar span (.integer number) ∧ 0 ≤ number.toInt ∧
        number.toInt ≤ 0xFFFFFFFF
  | parallel, value => exists flag, value.IsFlag flag
  | level, value => exists content, value.IsText content
  | mode, value => exists mode : ScanMode, value.Names mode.name
  | reportFormat, value => exists format : ReportFormat, value.Names format.name

/-- A configuration has exactly the value that is given to a setting. -/
def Takes : Setting -> Value -> Config -> Prop
  | length, value, config => value.IsNumber config.buffer.length.toNat
  | seed, value, config =>
      exists word, config.buffer.seed = some word ∧ value.IsNumber word.toNat
  | mode, value, config => value.Names config.scanner.mode.name
  | parallel, value, config => value.IsFlag config.scanner.parallel
  | maxThreads, value, config => value.IsNumber config.scanner.maxThreads.toNat
  | chunkSize, value, config => value.IsNumber config.scanner.chunkSize.toNat
  | iterations, value, config => value.IsNumber config.harness.iterations.toNat
  | warmupIterations, value, config => value.IsNumber config.harness.warmupIterations.toNat
  | reportFormat, value, config => value.Names config.harness.reportFormat.name
  | level, value, config => value.IsText config.logging.level

/-- Two configurations have the same value for a setting. -/
def Agrees : Setting -> Config -> Config -> Prop
  | length, first, second => first.buffer.length = second.buffer.length
  | seed, first, second => first.buffer.seed = second.buffer.seed
  | mode, first, second => first.scanner.mode = second.scanner.mode
  | parallel, first, second => first.scanner.parallel = second.scanner.parallel
  | maxThreads, first, second => first.scanner.maxThreads = second.scanner.maxThreads
  | chunkSize, first, second => first.scanner.chunkSize = second.scanner.chunkSize
  | iterations, first, second => first.harness.iterations = second.harness.iterations
  | warmupIterations, first, second =>
      first.harness.warmupIterations = second.harness.warmupIterations
  | reportFormat, first, second => first.harness.reportFormat = second.harness.reportFormat
  | level, first, second => first.logging.level = second.logging.level

end Setting

namespace Toml.Value

/-- The value that a document gives to a setting. -/
def setting? (root : Value) (setting : Setting) : Option Value :=
  (root.key? setting.table).bind fun table => table.key? setting.key

/-- Whatever stands under the name of a section is a table. -/
def HasTables (root : Value) : Prop :=
  forall (setting : Setting) value, root.key? setting.table = some value ->
    exists span form entries, value = .table span form entries

/-- A configuration has the values that a document gives, and those of another configuration
for settings that the document leaves out. -/
def Settles (root : Value) (initial config : Config) : Prop :=
  forall setting : Setting,
    (root.setting? setting = none -> setting.Agrees config initial) ∧
      forall value, root.setting? setting = some value -> setting.Takes value config

end Toml.Value

/-! ## Sections -/

@[simp] theorem ScanMode.decode_iff {value : Value} {mode : ScanMode} :
    ScanMode.decode dialect value = .ok mode <-> value.Names mode.name :=
  choice_named_iff (fun mode => by cases mode <;> rfl) (by simp [variants, name])

@[simp] theorem ReportFormat.decode_iff {value : Value} {format : ReportFormat} :
    ReportFormat.decode dialect value = .ok format <-> value.Names format.name :=
  choice_named_iff (fun format => by cases format <;> rfl) (by simp [variants, name])

namespace BufferSettings

def slots (initial : BufferSettings) : List (Slot (shape dialect initial)) := [
  .ofName "length" length rfl (fun _ _ => rfl) (by simp [shape]),
  .ofName "seed" seed rfl (fun _ _ => rfl) (by simp [shape])]

theorem hasSlots (initial : BufferSettings) :
    (shape dialect initial).HasSlots (slots initial) where
  all := rfl
  ext := by
    rintro ⟨_, _⟩ ⟨_, _⟩ same
    simpa [slots, Slot.ofName] using same

@[simp] theorem initial_shape (initial : BufferSettings) :
    (shape dialect initial).initial = initial :=
  rfl

theorem isLenient (initial : BufferSettings) : (shape dialect initial).IsLenient where
  strict := rfl
  optional := by simp [shape]
  finish := rfl

theorem told_iff {initial final : BufferSettings} {given : Option Value}
    (tables : forall value, given = some value -> value.IsDistinctTable) :
    Told (fun value record => readRecord (shape dialect initial) value = .ok record) given initial
        final <->
      Told (fun value length => value.IsNumber length.toNat)
        (given.bind fun value => value.key? "length") initial.length final.length ∧
      Told (fun value seed => exists word, seed = some word ∧ value.IsNumber word.toNat)
        (given.bind fun value => value.key? "seed") initial.seed final.seed := by
  refine (told_record_iff (isLenient initial) (hasSlots initial) tables).trans ?_
  simp [slots, Slot.ofName, Slot.Told]

end BufferSettings

namespace ScannerSettings

def slots (strictness : Strictness) (initial : ScannerSettings) :
    List (Slot (shape dialect strictness initial)) := [
  .ofName "mode" mode rfl (fun _ _ => rfl) (by simp [shape]),
  .ofName "parallel" parallel rfl (fun _ _ => rfl) (by simp [shape]),
  .ofName "max_threads" maxThreads rfl (fun _ _ => rfl) (by simp [shape]),
  .ofName "chunk_size" chunkSize rfl (fun _ _ => rfl) (by simp [shape])]

theorem hasSlots (strictness : Strictness) (initial : ScannerSettings) :
    (shape dialect strictness initial).HasSlots (slots strictness initial) where
  all := rfl
  ext := by
    rintro ⟨_, _, _, _⟩ ⟨_, _, _, _⟩ same
    simpa [slots, Slot.ofName] using same

@[simp] theorem initial_shape (strictness : Strictness) (initial : ScannerSettings) :
    (shape dialect strictness initial).initial = initial :=
  rfl

theorem isLenient (initial : ScannerSettings) : (shape dialect .lenient initial).IsLenient where
  strict := rfl
  optional := by simp [shape, Strictness.lenient]
  finish := rfl

theorem told_iff {initial final : ScannerSettings} {given : Option Value}
    (tables : forall value, given = some value -> value.IsDistinctTable) :
    Told (fun value record => readRecord (shape dialect .lenient initial) value = .ok record) given
        initial final <->
      Told (fun value mode => value.Names mode.name)
        (given.bind fun value => value.key? "mode") initial.mode final.mode ∧
      Told Value.IsFlag
        (given.bind fun value => value.key? "parallel") initial.parallel final.parallel ∧
      Told (fun value threads => value.IsNumber threads.toNat)
        (given.bind fun value => value.key? "max_threads") initial.maxThreads final.maxThreads ∧
      Told (fun value size => value.IsNumber size.toNat)
        (given.bind fun value => value.key? "chunk_size") initial.chunkSize final.chunkSize := by
  refine (told_record_iff (isLenient initial) (hasSlots .lenient initial) tables).trans ?_
  simp [slots, Slot.ofName, Slot.Told]

end ScannerSettings

namespace HarnessSettings

def slots (strictness : Strictness) (initial : HarnessSettings) :
    List (Slot (shape dialect strictness initial)) := [
  .ofName "iterations" iterations rfl (fun _ _ => rfl) (by simp [shape]),
  .ofName "warmup_iterations" warmupIterations rfl (fun _ _ => rfl) (by simp [shape]),
  .ofName "report_format" reportFormat rfl (fun _ _ => rfl) (by simp [shape])]

theorem hasSlots (strictness : Strictness) (initial : HarnessSettings) :
    (shape dialect strictness initial).HasSlots (slots strictness initial) where
  all := rfl
  ext := by
    rintro ⟨_, _, _⟩ ⟨_, _, _⟩ same
    simpa [slots, Slot.ofName] using same

@[simp] theorem initial_shape (strictness : Strictness) (initial : HarnessSettings) :
    (shape dialect strictness initial).initial = initial :=
  rfl

theorem isLenient (initial : HarnessSettings) : (shape dialect .lenient initial).IsLenient where
  strict := rfl
  optional := by simp [shape, Strictness.lenient]
  finish := rfl

theorem told_iff {initial final : HarnessSettings} {given : Option Value}
    (tables : forall value, given = some value -> value.IsDistinctTable) :
    Told (fun value record => readRecord (shape dialect .lenient initial) value = .ok record) given
        initial final <->
      Told (fun value count => value.IsNumber count.toNat)
        (given.bind fun value => value.key? "iterations") initial.iterations final.iterations ∧
      Told (fun value count => value.IsNumber count.toNat)
        (given.bind fun value => value.key? "warmup_iterations") initial.warmupIterations
        final.warmupIterations ∧
      Told (fun value format => value.Names format.name)
        (given.bind fun value => value.key? "report_format") initial.reportFormat
        final.reportFormat := by
  refine (told_record_iff (isLenient initial) (hasSlots .lenient initial) tables).trans ?_
  simp [slots, Slot.ofName, Slot.Told]

end HarnessSettings

namespace LoggingSettings

def slots (strictness : Strictness) (initial : LoggingSettings) :
    List (Slot (shape dialect strictness initial)) := [
  .ofName "level" level rfl (fun _ _ => rfl) (by simp [shape])]

theorem hasSlots (strictness : Strictness) (initial : LoggingSettings) :
    (shape dialect strictness initial).HasSlots (slots strictness initial) where
  all := rfl
  ext := by
    rintro ⟨_⟩ ⟨_⟩ same
    simpa [slots, Slot.ofName] using same

@[simp] theorem initial_shape (strictness : Strictness) (initial : LoggingSettings) :
    (shape dialect strictness initial).initial = initial :=
  rfl

theorem isLenient (initial : LoggingSettings) : (shape dialect .lenient initial).IsLenient where
  strict := rfl
  optional := by simp [shape, Strictness.lenient]
  finish := rfl

theorem told_iff {initial final : LoggingSettings} {given : Option Value}
    (tables : forall value, given = some value -> value.IsDistinctTable) :
    Told (fun value record => readRecord (shape dialect .lenient initial) value = .ok record) given
        initial final <->
      Told Value.IsText (given.bind fun value => value.key? "level") initial.level final.level := by
  refine (told_record_iff (isLenient initial) (hasSlots .lenient initial) tables).trans ?_
  simp [slots, Slot.ofName, Slot.Told]

end LoggingSettings

/-! ## Whole configurations -/

/-- A document settles a configuration section by section. -/
theorem settles_iff {root : Value} {initial config : Config} :
    root.Settles initial config <->
      (Told (fun value length => value.IsNumber length.toNat) (root.setting? .length)
          initial.buffer.length config.buffer.length ∧
        Told (fun value seed => exists word, seed = some word ∧ value.IsNumber word.toNat)
          (root.setting? .seed) initial.buffer.seed config.buffer.seed) ∧
      (Told (fun value mode => value.Names mode.name) (root.setting? .mode)
          initial.scanner.mode config.scanner.mode ∧
        Told Value.IsFlag (root.setting? .parallel)
          initial.scanner.parallel config.scanner.parallel ∧
        Told (fun value threads => value.IsNumber threads.toNat) (root.setting? .maxThreads)
          initial.scanner.maxThreads config.scanner.maxThreads ∧
        Told (fun value size => value.IsNumber size.toNat) (root.setting? .chunkSize)
          initial.scanner.chunkSize config.scanner.chunkSize) ∧
      (Told (fun value count => value.IsNumber count.toNat) (root.setting? .iterations)
          initial.harness.iterations config.harness.iterations ∧
        Told (fun value count => value.IsNumber count.toNat) (root.setting? .warmupIterations)
          initial.harness.warmupIterations config.harness.warmupIterations ∧
        Told (fun value format => value.Names format.name) (root.setting? .reportFormat)
          initial.harness.reportFormat config.harness.reportFormat) ∧
      Told Value.IsText (root.setting? .level) initial.logging.level config.logging.level := by
  simp only [told_iff_cases]
  constructor
  · intro settled
    exact ⟨⟨settled .length, settled .seed⟩,
      ⟨settled .mode, settled .parallel, settled .maxThreads, settled .chunkSize⟩,
      ⟨settled .iterations, settled .warmupIterations, settled .reportFormat⟩, settled .level⟩
  · rintro ⟨⟨length, seed⟩, ⟨mode, parallel, threads, size⟩, ⟨iterations, warmup, format⟩, level⟩
    intro setting
    cases setting with
    | length => exact length
    | seed => exact seed
    | mode => exact mode
    | parallel => exact parallel
    | maxThreads => exact threads
    | chunkSize => exact size
    | iterations => exact iterations
    | warmupIterations => exact warmup
    | reportFormat => exact format
    | level => exact level

namespace Config

/-- The slots of a configuration: one for each section. -/
def slots (defaults : Defaults) : List (Slot (shape dialect defaults)) := [
  .ofName "buffer" buffer rfl (fun _ _ => rfl) (by simp [shape]),
  .ofName "scanner" scanner rfl (fun _ _ => rfl) (by simp [shape]),
  .ofName "harness" harness rfl (fun _ _ => rfl) (by simp [shape]),
  .ofName "logging" logging rfl (fun _ _ => rfl) (by simp [shape])]

theorem hasSlots (defaults : Defaults) :
    (shape dialect defaults).HasSlots (slots defaults) where
  all := rfl
  ext := by
    rintro ⟨_, _, _, _⟩ ⟨_, _, _, _⟩ same
    simpa [slots, Slot.ofName] using same

theorem isLenient (defaults : Defaults) : (shape dialect defaults).IsLenient where
  strict := rfl
  optional := by simp [shape]
  finish := rfl

/-- A section that is there is a table with different keys. -/
theorem isDistinctTable_of_key? {root : Value} (distinct : root.IsDistinctTable)
    (tables : root.HasTables) (setting : Setting) (value : Value)
    (found : root.key? setting.table = some value) : value.IsDistinctTable := by
  rcases distinct with ⟨span, form, entries, rfl, each⟩
  rcases tables setting value found with ⟨innerSpan, innerForm, inner, rfl⟩
  rcases Entries.mem_of_get? found with ⟨key, _, member⟩
  exact ⟨innerSpan, innerForm, inner, rfl, Entries.areDistinct_of_table (each.each _ member)⟩

/-- A document is read as a configuration exactly if that has the values that the document
gives, and default values otherwise. -/
theorem decode_iff_settles {defaults : Defaults} {root : Value} {config : Config}
    (distinct : root.IsDistinctTable) (tables : root.HasTables) :
    Config.decode defaults dialect root = .ok config <-> root.Settles defaults.config config := by
  have sections := isDistinctTable_of_key? distinct tables
  rcases distinct with ⟨span, form, entries, rfl, each⟩
  refine (readRecord_table_iff (isLenient defaults) (hasSlots defaults) each.names).trans ?_
  simp only [slots, List.forall_mem_cons, List.not_mem_nil, false_implies, implies_true, and_true]
  refine Iff.trans ?_ settles_iff.symm
  exact and_congr (BufferSettings.told_iff (sections .length))
    (and_congr (ScannerSettings.told_iff (sections .mode))
      (and_congr (HarnessSettings.told_iff (sections .iterations))
        (LoggingSettings.told_iff (sections .level))))

end Config

/-! ## Admissible values -/

theorem exists_word {value : Value}
    (admitted : exists span number, value = .scalar span (.integer number) ∧ 0 ≤ number.toInt) :
    exists word : UInt64, value.IsNumber word.toNat := by
  rcases admitted with ⟨span, number, rfl, positive⟩
  have bound := Int64.toInt_lt number
  refine ⟨UInt64.ofNat number.toInt.toNat, span, number, rfl, ?_⟩
  rw [UInt64.toNat_ofNat_of_lt' (by rw [UInt64.size]; omega), Int.toNat_of_nonneg positive]

theorem exists_seed {value : Value}
    (admitted : exists span number, value = .scalar span (.integer number) ∧ 0 ≤ number.toInt) :
    exists seed : Option UInt64, exists word, seed = some word ∧ value.IsNumber word.toNat := by
  rcases exists_word admitted with ⟨word, number⟩
  exact ⟨some word, word, rfl, number⟩

theorem exists_count {value : Value}
    (admitted : exists span number, value = .scalar span (.integer number) ∧ 0 ≤ number.toInt ∧
      number.toInt ≤ 0xFFFFFFFF) : exists count : UInt32, value.IsNumber count.toNat := by
  rcases admitted with ⟨span, number, rfl, positive, bound⟩
  refine ⟨UInt32.ofNat number.toInt.toNat, span, number, rfl, ?_⟩
  rw [UInt32.toNat_ofNat_of_lt' (by rw [UInt32.size]; omega), Int.toNat_of_nonneg positive]

namespace Setting

theorem admits_of_takes {setting : Setting} {value : Value} {config : Config}
    (taken : setting.Takes value config) : setting.Admits value := by
  have word {size : Nat} (number : value.IsNumber size) :
      exists span number, value = .scalar span (.integer number) ∧ 0 ≤ number.toInt := by
    rcases number with ⟨span, number, same, equal⟩
    exact ⟨span, number, same, by omega⟩
  have count {size : UInt32} (number : value.IsNumber size.toNat) :
      exists span number, value = .scalar span (.integer number) ∧ 0 ≤ number.toInt ∧
        number.toInt ≤ 0xFFFFFFFF := by
    rcases number with ⟨span, number, same, equal⟩
    have bound := size.toNat_lt
    exact ⟨span, number, same, by omega, by omega⟩
  cases setting with
  | length => exact word taken
  | seed =>
      rcases taken with ⟨_, _, number⟩
      exact word number
  | mode => exact ⟨_, taken⟩
  | parallel => exact ⟨_, taken⟩
  | maxThreads => exact word taken
  | chunkSize => exact word taken
  | iterations => exact count taken
  | warmupIterations => exact count taken
  | reportFormat => exact ⟨_, taken⟩
  | level => exact ⟨_, taken⟩

end Setting

/-- A document whose values are all admissible settles a configuration. -/
theorem exists_settles_iff {root : Value} {initial : Config} :
    (exists config, root.Settles initial config) <->
      forall setting value, root.setting? setting = some value -> setting.Admits value := by
  constructor
  · rintro ⟨config, settled⟩ setting value given
    exact Setting.admits_of_takes ((settled setting).2 value given)
  · intro admitted
    have length := exists_told initial.buffer.length fun value given =>
      exists_word (admitted .length value given)
    have threads := exists_told initial.scanner.maxThreads fun value given =>
      exists_word (admitted .maxThreads value given)
    have size := exists_told initial.scanner.chunkSize fun value given =>
      exists_word (admitted .chunkSize value given)
    have seed := exists_told initial.buffer.seed fun value given =>
      exists_seed (admitted .seed value given)
    have iterations := exists_told initial.harness.iterations fun value given =>
      exists_count (admitted .iterations value given)
    have warmup := exists_told initial.harness.warmupIterations fun value given =>
      exists_count (admitted .warmupIterations value given)
    rcases length, seed with ⟨⟨length, lengthTold⟩, ⟨seed, seedTold⟩⟩
    rcases exists_told initial.scanner.mode (admitted .mode) with ⟨mode, modeTold⟩
    rcases exists_told initial.scanner.parallel (admitted .parallel) with ⟨parallel, parallelTold⟩
    rcases threads, size with ⟨⟨threads, threadsTold⟩, ⟨size, sizeTold⟩⟩
    rcases iterations, warmup with ⟨⟨iterations, iterationsTold⟩, ⟨warmup, warmupTold⟩⟩
    rcases exists_told initial.harness.reportFormat (admitted .reportFormat) with
      ⟨format, formatTold⟩
    rcases exists_told initial.logging.level (admitted .level) with ⟨level, levelTold⟩
    exact ⟨⟨⟨length, seed⟩, ⟨mode, parallel, threads, size⟩, ⟨iterations, warmup, format⟩, ⟨level⟩⟩,
      settles_iff.mpr ⟨⟨lengthTold, seedTold⟩, ⟨modeTold, parallelTold, threadsTold, sizeTold⟩,
        ⟨iterationsTold, warmupTold, formatTold⟩, levelTold⟩⟩

end WhitespaceBench
