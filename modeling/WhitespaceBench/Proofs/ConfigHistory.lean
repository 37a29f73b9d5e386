import WhitespaceBench.Config.File
import WhitespaceBench.Proofs.ConfigRoundTrip
import WhitespaceBench.Proofs.StoredFile

namespace WhitespaceBench

open Toml

/-!
# Histories of a configuration file

A configuration file is saved and loaded any number of times, in any order.  What a history
leaves behind is the store together with the configuration of the last save that succeeded;
the file then holds the text of that configuration, and nothing stands there as long as no
save has succeeded.  This is the invariant that every call preserves, and each answer is read
off it.

A save that fails has not looked at the store: the configuration as a whole is turned into a
text first.
-/

/-! ## Configurations that are not written -/

theorem BufferSettings.fault?_sheet {settings : BufferSettings} (large : Not settings.FitsSigned) :
    settings.sheet.fault? = some .outOfRange := by
  rcases settings with ⟨length, seed⟩
  by_cases short : length.toNat < 0x8000000000000000
  · cases seed with
    | none => exact absurd ⟨short, nofun⟩ large
    | some seed =>
        have wide : Not (seed.toNat < 0x8000000000000000) := fun narrow =>
          large ⟨short, fun _ given => Option.some.inj given ▸ narrow⟩
        simp [sheet, Sheet.fault?, Plain.fault?, short, wide]
  · simp [sheet, Sheet.fault?, Plain.fault?, short]

theorem ScannerSettings.fault?_sheet {settings : ScannerSettings}
    (large : Not settings.FitsSigned) : settings.sheet.fault? = some .outOfRange := by
  have name : (Plain.text settings.mode.name).fault? = none := by
    cases settings.mode <;> decide
  have flag : (Plain.flag settings.parallel).fault? = none := rfl
  by_cases few : settings.maxThreads.toNat < 0x8000000000000000
  · have long : Not (settings.chunkSize.toNat < 0x8000000000000000) := fun short =>
      large ⟨few, short⟩
    have threads : (Plain.number settings.maxThreads.toNat).fault? = none := if_pos few
    have size : (Plain.number settings.chunkSize.toNat).fault? = some .outOfRange := if_neg long
    simp only [sheet, Sheet.fault?, List.findSome?_cons, name, flag, threads, size]
  · have threads : (Plain.number settings.maxThreads.toNat).fault? = some .outOfRange := if_neg few
    simp only [sheet, Sheet.fault?, List.findSome?_cons, name, flag, threads]

namespace Config

/-- A number that needs the sign bit is found before any text is looked at. -/
theorem toml_of_not_fitsSigned {config : Config} (large : Not config.FitsSigned) :
    config.toml = .error .outOfRange := by
  by_cases buffer : config.buffer.FitsSigned
  · have scanner : Not config.scanner.FitsSigned := fun scanner => large ⟨buffer, scanner⟩
    have written := Sheet.fault?_of_isWritable (BufferSettings.sheet_isWritable buffer)
    have refused := ScannerSettings.fault?_sheet scanner
    simp only [toml, write, sheets, List.findSome?_cons, written, refused]
  · have refused := BufferSettings.fault?_sheet buffer
    simp only [toml, write, sheets, List.findSome?_cons, refused]

/-- The log level has 256 equal quotes in a row. -/
def HasLongRow (config : Config) : Prop :=
  exists quote : Quote, List.replicate 256 quote.character <:+: config.logging.level.toList

@[simp] theorem isCountable_level_iff (config : Config) :
    isCountable config.logging.level.toList = true <-> Not config.HasLongRow := by
  rw [isCountable_iff, HasLongRow, not_exists]
  rfl

theorem toml_of_hasLongRow {config : Config} (fits : config.FitsSigned) (row : config.HasLongRow) :
    config.toml = .error .countOverflow := by
  have uncountable : Not (isCountable config.logging.level.toList = true) := fun countable =>
    (isCountable_level_iff config).mp countable row
  rw [toml_eq fits, if_neg uncountable]

theorem toml_eq_ok_iff {config : Config} {text : List Char} :
    config.toml = .ok text <->
      config.FitsSigned ∧ Not config.HasLongRow ∧ text = writtenSheets config.sheets := by
  by_cases fits : config.FitsSigned
  · rw [toml_eq fits]
    split
    · rename_i countable
      have plain := (isCountable_level_iff config).mp countable
      exact ⟨fun same => ⟨fits, plain, (Except.ok.inj same).symm⟩, fun ⟨_, _, same⟩ => same ▸ rfl⟩
    · rename_i uncountable
      refine ⟨nofun, fun ⟨_, plain, _⟩ => ?_⟩
      exact absurd ((isCountable_level_iff config).mpr plain) uncountable
  · rw [toml_of_not_fitsSigned fits]
    exact ⟨nofun, fun ⟨fits', _⟩ => absurd fits' fits⟩

/-- What a configuration was written to is read back. -/
theorem ofToml_of_toml {config : Config} {text : List Char} (written : config.toml = .ok text)
    (defaults : Defaults) : Config.ofToml defaults text = .ok config := by
  rcases toml_eq_ok_iff.mp written with ⟨fits, plain, rfl⟩
  exact ofToml_writtenSheets fits ((isCountable_level_iff config).mpr plain) defaults

end Config

namespace ConfigFile

/-! ## Calls -/

inductive Call where
  | save (config : Config)
  | load
  | loadOrDefault
deriving Repr, DecidableEq

/-- What a history of calls has led to: the store, and the configuration of the last save
that succeeded. -/
structure History where
  store : Store
  saved : Option Config
deriving Repr, DecidableEq

theorem save_of_toml_eq_error {config : Config} {fault : WriteFault}
    (refused : config.toml = .error fault) (file : ConfigFile) (store : Store) :
    file.save config store = .error (.unwritable fault) := by
  rw [save, refused]

theorem save_of_toml {file : ConfigFile} {store : Store} {place : Location}
    (leads : store.LeadsTo file.path place) {config : Config} {text : List Char}
    (written : config.toml = .ok text) :
    file.save config store = .ok (store.put place (.file (Text.Utf8.encode text))) := by
  rw [save, written]
  dsimp only
  rw [leads.write]

namespace History

def step (file : ConfigFile) (history : History) : Call -> History
  | .save config =>
      match file.save config history.store with
      | .ok next => ⟨next, some config⟩
      | .error _ => history
  | .load => history
  | .loadOrDefault => history

/-- The calls are made one after the other, from a store in which nothing was saved yet. -/
def ofCalls (file : ConfigFile) (store : Store) (calls : List Call) : History :=
  calls.foldl (step file) ⟨store, none⟩

/-- The file holds what was saved last, if anything was, and can be written again. -/
structure IsKept (file : ConfigFile) (initial : Store) (place : Location) (history : History) :
    Prop where
  leads : history.store.LeadsTo file.path place
  untouched : history.saved = none -> history.store = initial
  held : forall config, history.saved = some config ->
    exists text, config.toml = .ok text ∧
      history.store.node? place = some (.file (Text.Utf8.encode text))

variable {file : ConfigFile} {initial : Store} {place : Location} {history : History}

theorem step_save_of_error {config : Config} {error : ConfigError}
    (failed : file.save config history.store = .error error) :
    history.step file (.save config) = history := by
  rw [step, failed]

/-- Every call keeps the file in step with what was saved last. -/
theorem IsKept.step (kept : history.IsKept file initial place) (call : Call) :
    (history.step file call).IsKept file initial place := by
  cases call with
  | save config =>
      cases written : config.toml with
      | error fault =>
          rw [step_save_of_error (save_of_toml_eq_error written file history.store)]
          exact kept
      | ok text =>
          rw [History.step, save_of_toml kept.leads written]
          refine ⟨kept.leads.put _, nofun, ?_⟩
          rintro _ ⟨rfl⟩
          exact ⟨text, written, by simp [kept.leads.inner]⟩
  | load => exact kept
  | loadOrDefault => exact kept

theorem IsKept.foldl (kept : history.IsKept file initial place) (calls : List Call) :
    (calls.foldl (History.step file) history).IsKept file initial place := by
  induction calls generalizing history with
  | nil => exact kept
  | cons call calls ih => exact ih (kept.step call)

theorem isKept_ofCalls (leads : initial.LeadsTo file.path place) (calls : List Call) :
    (ofCalls file initial calls).IsKept file initial place := by
  have start : (History.mk initial none).IsKept file initial place :=
    ⟨leads, fun _ => rfl, nofun⟩
  exact start.foldl calls

/-- A save succeeds exactly if the configuration can be written. -/
theorem IsKept.save_isOk_iff (kept : history.IsKept file initial place) (config : Config) :
    (exists next, file.save config history.store = .ok next) <->
      config.FitsSigned ∧ Not config.HasLongRow := by
  constructor
  · rintro ⟨next, success⟩
    cases written : config.toml with
    | error fault =>
        rw [save_of_toml_eq_error written] at success
        cases success
    | ok text =>
        rcases Config.toml_eq_ok_iff.mp written with ⟨fits, plain, _⟩
        exact ⟨fits, plain⟩
  · rintro ⟨fits, plain⟩
    exact ⟨_, save_of_toml kept.leads (Config.toml_eq_ok_iff.mpr ⟨fits, plain, rfl⟩)⟩

end History

/-! ## Answers -/

/-- What a file answers to each call in what a history has led to. -/
structure Answers (file : ConfigFile) (processors : UInt64) (initial : Store)
    (history : History) : Prop where
  /-- A save succeeds for these configurations and for no others. -/
  saves : forall config, (exists next, file.save config history.store = .ok next) <->
    config.FitsSigned ∧ Not config.HasLongRow
  /-- A number that is too large is refused, whatever is stored, and nothing changes. -/
  refuses : forall config, Not config.FitsSigned ->
    (forall store, file.save config store = .error (.unwritable .outOfRange)) ∧
      history.step file (.save config) = history
  /-- A level with too many equal quotes in a row is not counted, and nothing changes. -/
  overflows : forall config, config.FitsSigned -> config.HasLongRow ->
    (forall store, file.save config store = .error (.unwritable .countOverflow)) ∧
      history.step file (.save config) = history
  /-- Before the first save that succeeds there is no file. -/
  missing : history.saved = none ->
    history.store = initial ∧
    file.load (.ofProcessors processors) history.store = .error (.notFound file.path) ∧
    (file.loadOrDefault (.ofProcessors processors) history.store).result =
      .ok (Config.default processors)
  /-- From then on the file holds what was saved last. -/
  loads : forall config, history.saved = some config ->
    file.load (.ofProcessors processors) history.store = .ok config ∧
    (file.loadOrDefault (.ofProcessors processors) history.store).result = .ok config ∧
    exists text, config.toml = .ok text ∧
      history.store.read file.path = .ok (Text.Utf8.encode text)
  /-- Only a save changes anything. -/
  reads : forall call, (forall config, call ≠ .save config) -> history.step file call = history

theorem load_of_not_holds {file : ConfigFile} {store : Store}
    (missing : store.holds file.path = false) (defaults : Defaults) :
    file.load defaults store = .error (.notFound file.path) := by
  rw [load, missing]
  exact if_neg Bool.false_ne_true

/-- What is loaded comes from the bytes of the file. -/
theorem load_eq_ok_iff {file : ConfigFile} {defaults : Defaults} {store : Store}
    {config : Config} :
    file.load defaults store = .ok config <->
      exists bytes text, store.read file.path = .ok bytes ∧
        Text.Utf8.decode? bytes = some text ∧ Config.ofToml defaults text = .ok config := by
  constructor
  · intro loaded
    rw [load] at loaded
    split at loaded
    · split at loaded
      · cases loaded
      · rename_i text found
        split at loaded
        · cases loaded
        · rename_i read
          cases loaded
          rcases Store.readText_eq_ok_iff.mp found with ⟨bytes, stored, decoded⟩
          exact ⟨bytes, text, stored, decoded, read⟩
    · cases loaded
  · rintro ⟨bytes, text, stored, decoded, read⟩
    have found := Store.readText_eq_ok_iff.mpr ⟨bytes, stored, decoded⟩
    rw [load, if_pos (Store.holds_of_read stored), found]
    dsimp only
    rw [read]

/-- A file with the text of a configuration is loaded as that configuration. -/
theorem load_of_ofToml {file : ConfigFile} {defaults : Defaults} {store : Store}
    {place : Location} {config : Config} {text : List Char}
    (leads : store.LeadsTo file.path place)
    (held : store.node? place = some (.file (Text.Utf8.encode text)))
    (read : Config.ofToml defaults text = .ok config) : file.load defaults store = .ok config :=
  load_eq_ok_iff.mpr ⟨_, text, leads.read held, Text.Utf8.decode?_encode text, read⟩

theorem loadOrDefault_of_load {file : ConfigFile} {defaults : Defaults} {store : Store}
    {config : Config} (loaded : file.load defaults store = .ok config) :
    (file.loadOrDefault defaults store).result = .ok config := by
  rw [loadOrDefault, loaded]

/-- On a file that is missing at first but can be written, any history of saves and loads
leads to a file that answers as it should: saves succeed exactly for configurations whose
numbers do not need the sign bit and whose level has no 256 equal quotes in a row, the others
fail without a trace, and loads give what was saved last. -/
theorem ofCalls_answers (file : ConfigFile) (processors : UInt64) (store : Store)
    (missing : store.holds file.path = false)
    (writable : exists next, store.write file.path [] = .ok next) (calls : List Call) :
    Answers file processors store (History.ofCalls file store calls) := by
  rcases writable with ⟨next, written⟩
  rcases Store.leadsTo_of_write written with ⟨place, leads⟩
  have kept := History.isKept_ofCalls leads calls
  refine ⟨kept.save_isOk_iff, ?_, ?_, ?_, ?_, ?_⟩
  · intro config large
    have refused := save_of_toml_eq_error (Config.toml_of_not_fitsSigned large) file
    exact ⟨refused, History.step_save_of_error (refused _)⟩
  · intro config fits row
    have refused := save_of_toml_eq_error (Config.toml_of_hasLongRow fits row) file
    exact ⟨refused, History.step_save_of_error (refused _)⟩
  · intro unsaved
    have absent := load_of_not_holds missing (.ofProcessors processors)
    rw [kept.untouched unsaved]
    refine ⟨rfl, absent, ?_⟩
    rw [loadOrDefault, absent]
    rfl
  · intro config saved
    rcases kept.held config saved with ⟨text, toml, held⟩
    have read := Config.ofToml_of_toml toml (.ofProcessors processors)
    have loaded := load_of_ofToml kept.leads held read
    exact ⟨loaded, loadOrDefault_of_load loaded, text, toml, kept.leads.read held⟩
  · intro call reading
    cases call with
    | save config => exact absurd rfl (reading config)
    | load => rfl
    | loadOrDefault => rfl

/-- In an empty directory the standard file can be written. -/
theorem leadsTo_standard : Store.empty.LeadsTo standard.path [Config.fileName] where
  sound := by decide +kernel
  named := by decide +kernel
  walked := by rfl
  outer := by decide

/-- A number that is too large is refused before and a level that is nothing but quotes after
a save that succeeds; what was saved is loaded. -/
theorem ofCalls_answers_refusals :
    let plain : Config := Config.default 4
    let large : Config := { plain with buffer := ⟨0x8000000000000000, none⟩ }
    let quotes : Config := { plain with logging := ⟨String.ofList (List.replicate 256 '\x22')⟩ }
    let history := History.ofCalls standard Store.empty [.save large, .load, .save plain]
    Store.empty.holds standard.path = false ∧
      (exists next, Store.empty.write standard.path [] = .ok next) ∧
      standard.save large history.store = .error (.unwritable .outOfRange) ∧
      standard.save quotes history.store = .error (.unwritable .countOverflow) ∧
      standard.load (.ofProcessors 1) (history.step standard (.save quotes)).store = .ok plain := by
  intro plain large quotes history
  have missing : Store.empty.holds standard.path = false := leadsTo_standard.holds_iff
  have writable : exists next, Store.empty.write standard.path [] = .ok next :=
    ⟨_, leadsTo_standard.write []⟩
  have answers : Answers standard 1 Store.empty history :=
    ofCalls_answers standard 1 Store.empty missing writable _
  have saved : history.saved = some plain := by decide +kernel
  have buffer : plain.buffer.FitsSigned := ⟨by decide, nofun⟩
  have scanner : plain.scanner.FitsSigned := ⟨by decide, by decide⟩
  have row : quotes.HasLongRow := by
    refine ⟨.double, ?_⟩
    rw [String.toList_ofList]
    exact List.infix_rfl
  have refused := answers.refuses large fun fits => absurd fits.buffer.length (by decide)
  have overflowed := answers.overflows quotes ⟨buffer, scanner⟩ row
  refine ⟨missing, writable, refused.1 _, overflowed.1 _, ?_⟩
  rw [overflowed.2]
  exact (answers.loads plain saved).1

end ConfigFile
end WhitespaceBench
