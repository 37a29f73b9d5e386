import WhitespaceBench.Config.Toml
import WhitespaceBench.Proofs.RecordReading

namespace WhitespaceBench

open Decode Toml

/-!
# Written configurations are read back

Every setting is written, so that nothing is left to the default values when the text is
read; the one exception is a seed that is not there, which is also what reading starts
from.  Numbers must not need the sign bit, since written integers have a sign.

The log level is a free text.  It is the only setting that writing can still refuse: where
so many equal quotes follow each other that their count does not fit in eight bits.
-/

/-! ## Sections -/

namespace BufferSettings

/-- The numbers of the section do not need the sign bit. -/
structure FitsSigned (settings : BufferSettings) : Prop where
  length : settings.length.toNat < 0x8000000000000000
  seed : forall seed, settings.seed = some seed -> seed.toNat < 0x8000000000000000

theorem sheet_isWritable {settings : BufferSettings} (fits : settings.FitsSigned) :
    settings.sheet.IsWritable := by
  rcases settings with ⟨length, seed⟩
  have name : IsBareName "buffer" := by decide
  have lengthLine := isWritable_number (by decide : IsBareName "length") fits.length
  cases seed with
  | none => exact ⟨name, by simpa [sheet] using lengthLine, by simp [sheet]⟩
  | some seed =>
      have seedLine := isWritable_number (by decide : IsBareName "seed") (fits.seed seed rfl)
      exact ⟨name, by simpa [sheet] using ⟨lengthLine, seedLine⟩, by simp [sheet]⟩

theorem readRecord_sheet {initial settings : BufferSettings} (unseeded : initial.seed = none)
    (fits : settings.FitsSigned) {value : Value} (shown : settings.sheet.Shown value) :
    readRecord (shape dialect initial) value = .ok settings := by
  have writable := sheet_isWritable fits
  rcases settings with ⟨length, seed⟩
  cases seed with
  | none =>
      -- No seed is stored, so the one that reading starts from remains.
      refine readRecord_of_shown shown writable
        (.read rfl (fun _ => word_number "usize" fits.length) (.nil _)) (by simp [shape]) ?_
      rw [← unseeded]
      rfl
  | some seed =>
      exact readRecord_of_shown shown writable
        (.read rfl (fun _ => word_number "usize" fits.length)
          (.read rfl (fun _ shown => optional_of_read (word_number "u64" (fits.seed seed rfl) shown))
            (.nil _))) (by simp [shape]) rfl

end BufferSettings

namespace ScannerSettings

/-- The numbers of the section do not need the sign bit. -/
structure FitsSigned (settings : ScannerSettings) : Prop where
  maxThreads : settings.maxThreads.toNat < 0x8000000000000000
  chunkSize : settings.chunkSize.toNat < 0x8000000000000000

theorem sheet_isWritable {settings : ScannerSettings} (fits : settings.FitsSigned) :
    settings.sheet.IsWritable := by
  have name : IsBareName "scanner" := by decide
  have modeLine : IsWritable ("mode", .text settings.mode.name) :=
    isWritable_text (by decide) (by cases settings.mode <;> decide)
  have parallelLine := isWritable_flag (by decide : IsBareName "parallel") settings.parallel
  have threadsLine := isWritable_number (by decide : IsBareName "max_threads") fits.maxThreads
  have sizeLine := isWritable_number (by decide : IsBareName "chunk_size") fits.chunkSize
  exact ⟨name, by simpa [sheet] using ⟨modeLine, parallelLine, threadsLine, sizeLine⟩,
    by simp [sheet]⟩

theorem readRecord_sheet {settings : ScannerSettings} (fits : settings.FitsSigned)
    (strictness : Strictness) (initial : ScannerSettings) {value : Value}
    (shown : settings.sheet.Shown value) :
    readRecord (shape dialect strictness initial) value = .ok settings := by
  have mode : ScanMode.variants.lookup settings.mode.name = some settings.mode := by
    cases settings.mode <;> rfl
  exact readRecord_of_shown shown (sheet_isWritable fits)
    (.read rfl (fun _ => choice_text mode) (.read rfl (fun _ => boolean_flag)
      (.read rfl (fun _ => word_number "usize" fits.maxThreads)
        (.read rfl (fun _ => word_number "usize" fits.chunkSize) (.nil _)))))
    (by simp [shape, sheet]) rfl

end ScannerSettings

namespace HarnessSettings

theorem sheet_isWritable (settings : HarnessSettings) : settings.sheet.IsWritable := by
  have name : IsBareName "harness" := by decide
  have small (count : UInt32) : count.toNat < 0x8000000000000000 :=
    Nat.lt_trans count.toNat_lt_size (by decide)
  have iterationsLine := isWritable_number (by decide : IsBareName "iterations")
    (small settings.iterations)
  have warmupLine := isWritable_number (by decide : IsBareName "warmup_iterations")
    (small settings.warmupIterations)
  have formatLine : IsWritable ("report_format", .text settings.reportFormat.name) :=
    isWritable_text (by decide) (by cases settings.reportFormat <;> decide)
  exact ⟨name, by simpa [sheet] using ⟨iterationsLine, warmupLine, formatLine⟩, by simp [sheet]⟩

theorem readRecord_sheet (settings : HarnessSettings) (strictness : Strictness)
    (initial : HarnessSettings) {value : Value} (shown : settings.sheet.Shown value) :
    readRecord (shape dialect strictness initial) value = .ok settings := by
  have format : ReportFormat.variants.lookup settings.reportFormat.name =
      some settings.reportFormat := by
    cases settings.reportFormat <;> rfl
  exact readRecord_of_shown shown (sheet_isWritable settings)
    (.read rfl (fun _ => count_number) (.read rfl (fun _ => count_number)
      (.read rfl (fun _ => choice_text format) (.nil _))))
    (by simp [shape, sheet]) rfl

end HarnessSettings

namespace LoggingSettings

theorem sheet_isWritable {settings : LoggingSettings}
    (countable : isCountable settings.level.toList = true) : settings.sheet.IsWritable := by
  have name : IsBareName "logging" := by decide
  have levelLine := isWritable_text (by decide : IsBareName "level") countable
  exact ⟨name, by simpa [sheet] using levelLine, by simp [sheet]⟩

theorem readRecord_sheet {settings : LoggingSettings}
    (countable : isCountable settings.level.toList = true) (strictness : Strictness)
    (initial : LoggingSettings) {value : Value} (shown : settings.sheet.Shown value) :
    readRecord (shape dialect strictness initial) value = .ok settings :=
  readRecord_of_shown shown (sheet_isWritable countable)
    (.read rfl (fun _ => text_text) (.nil _)) (by simp [shape, sheet]) rfl

end LoggingSettings

/-! ## Whole configurations -/

namespace Config

/-- The numbers of a configuration do not need the sign bit.  The numbers of passes
never do. -/
structure FitsSigned (config : Config) : Prop where
  buffer : config.buffer.FitsSigned
  scanner : config.scanner.FitsSigned

theorem sheets_areWritable {config : Config} (fits : config.FitsSigned)
    (countable : isCountable config.logging.level.toList = true) : AreWritable config.sheets where
  each := by
    have buffer := BufferSettings.sheet_isWritable fits.buffer
    have scanner := ScannerSettings.sheet_isWritable fits.scanner
    have harness := HarnessSettings.sheet_isWritable config.harness
    have logging := LoggingSettings.sheet_isWritable countable
    simpa [sheets] using ⟨buffer, scanner, harness, logging⟩
  distinct := by
    change ["buffer", "scanner", "harness", "logging"].Nodup
    decide

/-- The written text is read as the configuration, whatever the default values are. -/
theorem ofToml_writtenSheets {config : Config} (fits : config.FitsSigned)
    (countable : isCountable config.logging.level.toList = true) (defaults : Defaults) :
    Config.ofToml defaults (writtenSheets config.sheets) = .ok config := by
  have writable := sheets_areWritable fits countable
  rcases parse_writtenSheets writable with ⟨span, entries, parsed, held⟩
  have names : (config.sheets.map Sheet.item).map Prod.fst = config.sheets.map Sheet.name := by
    rw [List.map_map]
    rfl
  have read : Config.decode defaults dialect (.table span .header entries) = .ok config :=
    readRecord_of_fills held
      (.read rfl (fun _ => BufferSettings.readRecord_sheet rfl fits.buffer)
        (.read rfl (fun _ => ScannerSettings.readRecord_sheet fits.scanner .lenient _)
          (.read rfl (fun _ => HarnessSettings.readRecord_sheet config.harness .lenient _)
            (.read rfl (fun _ => LoggingSettings.readRecord_sheet countable .lenient _) (.nil _)))))
      (names ▸ writable.distinct) (by simp [shape]) rfl
  rw [Config.ofToml, Toml.decode, parsed]
  simp only [read]

/-- Of a configuration whose numbers fit, only the log level can keep it from being
written. -/
theorem toml_eq {config : Config} (fits : config.FitsSigned) :
    config.toml =
      if isCountable config.logging.level.toList then .ok (writtenSheets config.sheets)
      else .error .countOverflow := by
  by_cases countable : isCountable config.logging.level.toList = true
  · rw [if_pos countable]
    exact write_of_areWritable (sheets_areWritable fits countable)
  · have buffer := Sheet.fault?_of_isWritable (BufferSettings.sheet_isWritable fits.buffer)
    have scanner := Sheet.fault?_of_isWritable (ScannerSettings.sheet_isWritable fits.scanner)
    have harness := Sheet.fault?_of_isWritable (HarnessSettings.sheet_isWritable config.harness)
    have logging : config.logging.sheet.fault? = some .countOverflow := by
      simp only [LoggingSettings.sheet, Sheet.fault?, List.findSome?_cons, Plain.fault?,
        if_neg countable]
    rw [if_neg countable]
    simp only [toml, write, sheets, List.findSome?_cons, buffer, scanner, harness, logging]

/-- A configuration whose numbers do not need the sign bit is written to a text that is
read back as the same configuration, whatever the default values are, exactly if its log
level has no 256 equal quotes in a row.  Where it has them, their count overflows. -/
theorem toml_roundTrip_iff (defaults : Defaults) (config : Config) (fits : config.FitsSigned) :
    ((exists text, config.toml = .ok text ∧ Config.ofToml defaults text = .ok config) <->
      forall quote : Quote,
        Not (List.replicate 256 quote.character <:+: config.logging.level.toList)) ∧
    ((exists quote : Quote,
        List.replicate 256 quote.character <:+: config.logging.level.toList) ->
      config.toml = .error .countOverflow) := by
  have written := toml_eq fits
  have countable := isCountable_iff config.logging.level.toList
  by_cases counted : isCountable config.logging.level.toList = true
  · rw [if_pos counted] at written
    have noRow := countable.mp counted
    have read := ofToml_writtenSheets fits counted defaults
    exact ⟨⟨fun _ => noRow, fun _ => ⟨_, written, read⟩⟩,
      fun ⟨quote, row⟩ => absurd row (noRow quote)⟩
  · rw [if_neg counted] at written
    refine ⟨⟨?_, fun noRow => absurd (countable.mpr noRow) counted⟩, fun _ => written⟩
    rintro ⟨text, success, _⟩
    rw [written] at success
    cases success

/-- The largest numbers, and a level that needs quotes, escapes and several lines, are read
back; so many quotes that their count overflows are not even written. -/
theorem toml_roundTrip_iff_quotes :
    let hard : Config := ⟨⟨0x7FFFFFFFFFFFFFFF, some 0⟩, ⟨.chars, true, 0, 0x7FFFFFFFFFFFFFFF⟩,
      ⟨4294967295, 0, .json⟩, ⟨"\n\"\"\"\\ \x27\x27\x27\r\t\x00\x7f\""⟩⟩
    let overlong : Config := { hard with logging := ⟨String.ofList (List.replicate 256 '\x27')⟩ }
    hard.FitsSigned ∧ overlong.FitsSigned ∧
      (exists text, hard.toml = .ok text ∧
        Config.ofToml (Defaults.ofProcessors 1) text = .ok hard) ∧
      overlong.toml = .error .countOverflow := by
  intro hard overlong
  have buffer : hard.buffer.FitsSigned :=
    ⟨by decide, fun seed given => Option.some.inj given ▸ (by decide)⟩
  have scanner : hard.scanner.FitsSigned := ⟨by decide, by decide⟩
  have row : List.replicate 256 Quote.single.character <:+: overlong.logging.level.toList := by
    rw [String.toList_ofList]
    exact List.infix_rfl
  refine ⟨⟨buffer, scanner⟩, ⟨buffer, scanner⟩, ?_, ?_⟩
  · refine (toml_roundTrip_iff _ hard ⟨buffer, scanner⟩).1.mpr fun quote row => ?_
    have short := row.length_le
    rw [List.length_replicate] at short
    exact absurd short (by decide)
  · exact (toml_roundTrip_iff (Defaults.ofProcessors 1) overlong ⟨buffer, scanner⟩).2 ⟨.single, row⟩

end Config

end WhitespaceBench
