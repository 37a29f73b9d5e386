import WhitespaceBench.Proofs.ConfigHistory
import WhitespaceBench.Proofs.NamedFields

namespace WhitespaceBench

open Decode Toml

/-!
# Loading and saving is a canonical form

A document can spell a configuration in many ways, and a record can be read from a table or
from an array.  However it was read, a property that the initial record has and that every
field keeps holds in the end.  Numbers of a document have a sign, so the numbers of a
configuration that was loaded do not need the sign bit, and saving it can fail only at the
log level.
-/

/-! ## What every field keeps -/

namespace Decode

variable {Value Error Record : Type}

/-- Storing the field does not give up a property of the record. -/
def Field.Maintains (field : Field Value Error Record) (holds : Record -> Prop) : Prop :=
  forall value record next, field.store value record = .ok next -> holds record -> holds next

theorem maintains_storing {Inner : Type} {name : String} {required : Bool}
    {read : Value -> Except Error Inner} {place : Inner -> Record -> Record}
    {holds : Record -> Prop} (placed : forall value inner record, read value = .ok inner ->
      holds record -> holds (place inner record)) :
    (⟨name, required, storing read place⟩ : Field Value Error Record).Maintains holds := by
  intro value record next stored former
  rcases storing_eq_ok_iff.mp stored with ⟨inner, found, rfl⟩
  exact placed value inner record found former

/-- A property that holds at first and that no field gives up. -/
structure Shape.Maintains (shape : Shape Value Error Record Record) (holds : Record -> Prop) :
    Prop where
  initial : holds shape.initial
  stored : forall field, field ∈ shape.fields -> field.Maintains holds
  finish : shape.finish = .ok

end Decode

namespace Toml

variable {Record : Type} {shape : Shape Value Mismatch Record Record} {holds : Record -> Prop}

theorem finish_eq_ok_iff {record final : Record} (maintained : shape.Maintains holds) :
    finish shape record = .ok final <-> record = final := by
  simp [finish, maintained.finish]

theorem holds_of_readEntries (maintained : shape.Maintains holds) {entries : Entries}
    {start last : Draft Record} (read : readEntries shape entries start = .ok last)
    (first : holds start.record) : holds last.record := by
  induction entries generalizing start with
  | nil =>
      cases read
      exact first
  | cons entry entries ih =>
      rw [readEntries] at read
      split at read
      · cases read
      · rename_i next step
        apply ih read
        rcases readEntry_cases step with ⟨_, rfl⟩ | ⟨field, record, known, stored, rfl⟩
        · exact first
        · exact maintained.stored field (Shape.mem_of_named? known) _ _ _ stored first

theorem holds_of_readTable (maintained : shape.Maintains holds) {entries : Entries}
    {final : Record} (read : readTable shape entries = .ok final) : holds final := by
  rw [readTable] at read
  split at read
  · cases read
  · rename_i draft entriesRead
    split at read
    · cases read
    · rw [finish_eq_ok_iff maintained] at read
      rw [← read]
      exact holds_of_readEntries maintained entriesRead maintained.initial

theorem holds_of_readItems (maintained : shape.Maintains holds)
    {fields : List (Field Value Mismatch Record)} (known : forall field, field ∈ fields ->
      field ∈ shape.fields) {items : List Value} {count : Nat} {record final : Record}
    (read : readItems shape fields items count record = .ok final) (first : holds record) :
    holds final := by
  induction fields generalizing items count record with
  | nil =>
      rw [readItems, finish_eq_ok_iff maintained] at read
      exact read ▸ first
  | cons field fields ih =>
      have known := List.forall_mem_cons.mp known
      cases items with
      | nil =>
          rw [readItems] at read
          split at read
          · cases read
          · exact ih known.2 read first
      | cons item items =>
          rw [readItems] at read
          split at read
          · cases read
          · rename_i next stored
            have kept := maintained.stored field known.1 _ _ _ stored first
            exact ih known.2 read kept

/-- However a record is read, it has the property. -/
theorem holds_of_readRecord (maintained : shape.Maintains holds) {value : Value} {final : Record}
    (read : readRecord shape value = .ok final) : holds final := by
  rw [readRecord] at read
  split at read
  · cases read
  · rename_i result content
    cases read
    unfold readContent at content
    split at content
    · exact holds_of_readTable maintained content
    · exact holds_of_readItems maintained (fun _ member => member) content maintained.initial
    · exact holds_of_readTable maintained content
    · cases content

/-- A word of a document does not need the sign bit. -/
theorem word_lt {expected : String} {value : Value} {word : UInt64}
    (read : dialect.word expected value = .ok word) : word.toNat < 0x8000000000000000 :=
  (word_iff.mp read).lt

end Toml

/-! ## Loaded configurations -/

theorem BufferSettings.shape_maintains {initial : BufferSettings} (fits : initial.FitsSigned) :
    (shape dialect initial).Maintains FitsSigned where
  initial := fits
  stored := by
    refine List.forall_mem_cons.mpr ⟨maintains_storing ?_, List.forall_mem_singleton.mpr
      (maintains_storing ?_)⟩
    · exact fun value length record read former => ⟨word_lt read, former.seed⟩
    · intro value seed record read former
      rcases optional_iff.mp read with ⟨found, rfl, word⟩
      refine ⟨former.length, ?_⟩
      rintro _ ⟨rfl⟩
      exact word_lt word
  finish := rfl

theorem ScannerSettings.shape_maintains {initial : ScannerSettings} (fits : initial.FitsSigned) :
    (shape dialect .lenient initial).Maintains FitsSigned where
  initial := fits
  stored := by
    refine List.forall_mem_cons.mpr ⟨maintains_storing ?_, List.forall_mem_cons.mpr
      ⟨maintains_storing ?_, List.forall_mem_cons.mpr ⟨maintains_storing ?_,
        List.forall_mem_singleton.mpr (maintains_storing ?_)⟩⟩⟩
    · exact fun value mode record read former => ⟨former.maxThreads, former.chunkSize⟩
    · exact fun value parallel record read former => ⟨former.maxThreads, former.chunkSize⟩
    · exact fun value threads record read former => ⟨word_lt read, former.chunkSize⟩
    · exact fun value size record read former => ⟨former.maxThreads, word_lt read⟩
  finish := rfl

namespace Config

theorem shape_maintains {defaults : Defaults} (fits : defaults.config.FitsSigned) :
    (shape dialect defaults).Maintains FitsSigned where
  initial := fits
  stored := by
    have buffers := BufferSettings.shape_maintains fits.buffer
    have scanners := ScannerSettings.shape_maintains fits.scanner
    refine List.forall_mem_cons.mpr ⟨maintains_storing ?_, List.forall_mem_cons.mpr
      ⟨maintains_storing ?_, List.forall_mem_cons.mpr ⟨maintains_storing ?_,
        List.forall_mem_singleton.mpr (maintains_storing ?_)⟩⟩⟩
    · exact fun value buffer record read former =>
        ⟨holds_of_readRecord buffers read, former.scanner⟩
    · exact fun value scanner record read former =>
        ⟨former.buffer, holds_of_readRecord scanners read⟩
    · exact fun value harness record read former => ⟨former.buffer, former.scanner⟩
    · exact fun value logging record read former => ⟨former.buffer, former.scanner⟩
  finish := rfl

theorem default_fitsSigned (processors : UInt64) : (Config.default processors).FitsSigned := by
  have length : Defaults.bufferLength.toNat < 0x8000000000000000 := by decide
  have size : (65536 : UInt64).toNat < 0x8000000000000000 := by decide
  have threads : (Defaults.threads processors).toNat < 0x8000000000000000 := by
    rw [Defaults.threads]
    split
    · rename_i few
      exact Nat.lt_trans (UInt64.lt_iff_toNat_lt.mp few) (by decide)
    · decide
  exact ⟨⟨length, nofun⟩, threads, size⟩

/-- The numbers of a configuration that was read from a text do not need the sign bit. -/
theorem fitsSigned_of_ofToml {processors : UInt64} {text : List Char} {config : Config}
    (read : Config.ofToml (.ofProcessors processors) text = .ok config) : config.FitsSigned := by
  rw [ofToml, Toml.decode] at read
  split at read
  · cases read
  · split at read
    · cases read
    · rename_i decoded
      cases read
      exact holds_of_readRecord (shape_maintains (default_fitsSigned processors)) decoded

end Config

namespace ConfigFile

/-- A configuration that was loaded is never refused for its numbers.  Unless its log level
has 256 equal quotes in a row, saving it puts a text into the file that is loaded as the same
configuration, and from then on saving changes nothing at all.  With such a level the count
of the quotes overflows. -/
theorem load_save_canonical (file : ConfigFile) (processors : UInt64) (store : Store)
    (config : Config) (loaded : file.load (.ofProcessors processors) store = .ok config) :
    (forall fault, file.save config store = .error fault -> fault = .unwritable .countOverflow) ∧
    (Not config.HasLongRow -> exists saved text, config.toml = .ok text ∧
      file.save config store = .ok saved ∧
      saved.read file.path = .ok (Text.Utf8.encode text) ∧
      file.load (.ofProcessors processors) saved = .ok config ∧
      file.save config saved = .ok saved) ∧
    (config.HasLongRow -> file.save config store = .error (.unwritable .countOverflow)) := by
  rcases load_eq_ok_iff.mp loaded with ⟨bytes, text, stored, _, read⟩
  rcases Store.leadsTo_of_read stored with ⟨place, leads⟩
  have fits := Config.fitsSigned_of_ofToml read
  have refused : config.HasLongRow ->
      file.save config store = .error (.unwritable .countOverflow) := fun row =>
    save_of_toml_eq_error (Config.toml_of_hasLongRow fits row) file store
  have accepted : Not config.HasLongRow -> exists text, config.toml = .ok text := fun plain =>
    ⟨_, Config.toml_eq_ok_iff.mpr ⟨fits, plain, rfl⟩⟩
  refine ⟨fun fault failed => ?_, fun plain => ?_, refused⟩
  · by_cases row : config.HasLongRow
    · rw [refused row] at failed
      exact (Except.error.inj failed).symm
    · rcases accepted row with ⟨text, written⟩
      rw [save_of_toml leads written] at failed
      cases failed
  · rcases accepted plain with ⟨text, written⟩
    have again := leads.put (Text.Utf8.encode text)
    have held := Store.node?_put_self store leads.inner (.file (Text.Utf8.encode text))
    refine ⟨_, text, written, save_of_toml leads written, again.read held,
      load_of_ofToml again held (Config.ofToml_of_toml written _), ?_⟩
    rw [save_of_toml again written, Store.put_put]

/-- A section in brackets, a dotted key, a table for an alternative, other bases and an unknown
key: all of it is loaded, and saved for good. -/
theorem load_save_canonical_spellings :
    let text := "buffer=[0x10,1_0]\nscanner.mode=\x7bchars=\x7b\x7d\x7d\nz=1\n".toList
    let store := Store.empty.put [Config.fileName] (.file (Text.Utf8.encode text))
    let config : Config := ⟨⟨16, some 10⟩, ⟨.chars, false, 1, 65536⟩, ⟨100, 3, .text⟩, ⟨"info"⟩⟩
    standard.load (.ofProcessors 1) store = .ok config ∧
      exists saved, standard.save config store = .ok saved ∧
        standard.load (.ofProcessors 1) saved = .ok config ∧
        standard.save config saved = .ok saved := by
  intro text store config
  have read : Config.ofToml (.ofProcessors 1)
      "buffer=[0x10,1_0]\nscanner.mode=\x7bchars=\x7b\x7d\x7d\nz=1\n".toList =
        .ok ⟨⟨16, some 10⟩, ⟨.chars, false, 1, 65536⟩, ⟨100, 3, .text⟩, ⟨"info"⟩⟩ := by cbv
  have leads := leadsTo_standard
  have loaded : standard.load (.ofProcessors 1) store = .ok config :=
    load_of_ofToml (leads.put _) (Store.node?_put_self _ leads.inner _) read
  have plain : Not config.HasLongRow := by
    rintro ⟨quote, row⟩
    have short := row.length_le
    rw [List.length_replicate] at short
    exact absurd short (by decide)
  rcases (load_save_canonical standard 1 store config loaded).2.1 plain with
    ⟨saved, _, _, success, _, same, fixed⟩
  exact ⟨loaded, saved, success, same, fixed⟩

end ConfigFile
end WhitespaceBench
