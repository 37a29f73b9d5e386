import WhitespaceBench.Program
import WhitespaceBench.Proofs.CanonicalFile
import WhitespaceBench.Proofs.ReportRoundTrip
import WhitespaceBench.Proofs.SetupOutcome

namespace WhitespaceBench

/-!
# How the program ends

The program is a chain of steps, and the first that fails decides how it ends.  Where there
is a configuration file and the machine gives what it is asked for, only two of the steps can
fail: the file may not hold a configuration, or the configuration may not be admissible.  An
admissible configuration asks for no more memory than there is and never for shared
characters, so the steps behind the validation go through.
-/

namespace ConfigFile

/-! ## Loading -/

/-- The default values of a file that is there do not stand in for it. -/
theorem loadOrDefault_of_holds {file : ConfigFile} {store : Store}
    (holds : store.holds file.path = true) (defaults : Defaults) :
    (file.loadOrDefault defaults store).result = file.load defaults store := by
  rw [loadOrDefault]
  split
  · rename_i path missing
    rw [load, if_pos holds] at missing
    split at missing
    · cases missing
    · split at missing <;> cases missing
  · rfl

end ConfigFile

namespace Buffer

/-! ## Drawn buffers -/

/-- With memory and a source that answers, a buffer of the length is drawn. -/
theorem generate_isOk {State : Type} {machine : Machine} {length : UInt64}
    {source : Random.Source State} {state : State} (granted : machine.grants length = true)
    (short : length.toNat ≤ 0x40000000)
    (answers : forall count, exists bytes, (source.fill state count).2 = .ok bytes) :
    exists buffer, (generate machine length source state).2.result = .ok buffer ∧
      buffer.bytes.length = length.toNat := by
  have admits : machine.Admits length := ⟨by omega, granted⟩
  rcases answers length.toNat with ⟨bytes, filled⟩
  rcases generate_result_cases machine length source state with
    ⟨_, refusal, _⟩ | ⟨_, reason, failed, _⟩ | ⟨_, _, _, drawn⟩
  · exact absurd admits (Machine.not_admits_of_refusal refusal)
  · cases failed.symm.trans filled
  · exact drawn

/-- A buffer is what a configuration asks for: it has the length, and with a seed it is the
buffer of the seed. -/
structure IsAskedBy (buffer : Buffer) (machine : Machine) (config : Config) : Prop where
  length : buffer.bytes.length = config.buffer.length.toNat
  seeded : forall seed, config.buffer.seed = some seed ->
    (generateSeeded machine config.buffer.length seed).result = .ok buffer

end Buffer

namespace Harness

theorem drawBuffer_isOk {State : Type} {machine : Machine} {config : Config}
    {entropy : Random.Source State} {state : State}
    (granted : machine.grants config.buffer.length = true)
    (short : config.buffer.length.toNat ≤ 0x40000000)
    (answers : forall count, exists bytes, (entropy.fill state count).2 = .ok bytes) :
    exists buffer, (drawBuffer machine config entropy state).2.result = .ok buffer ∧
      buffer.IsAskedBy machine config := by
  rw [drawBuffer]
  cases given : config.buffer.seed with
  | none =>
      rcases Buffer.generate_isOk granted short answers with ⟨buffer, drawn, length⟩
      exact ⟨buffer, drawn, length, fun seed seeded => nomatch given.symm.trans seeded⟩
  | some seed =>
      let stream := Random.Source.seeded (Random.Key.ofSeed seed)
      have answers : forall count, exists bytes, (stream.fill 0 count).2 = .ok bytes :=
        fun count => ⟨_, rfl⟩
      rcases Buffer.generate_isOk granted short answers with ⟨buffer, drawn, length⟩
      refine ⟨buffer, drawn, length, fun other same => ?_⟩
      cases given.symm.trans same
      exact drawn

/-- The harness of an admissible configuration, and the buffer that it walks. -/
theorem setup_isOk {State : Type} {machine : Machine} {config : Config}
    {entropy : Random.Source State} {state : State}
    (valid : config.validate.result = .ok ())
    (memory : forall length : UInt64, length.toNat ≤ 0x40000000 -> machine.grants length = true)
    (workers : forall threads, machine.startWorkers threads = .ok ())
    (answers : forall count, exists bytes, (entropy.fill state count).2 = .ok bytes) :
    exists harness buffer, (setup machine config entropy state).2.result = .ok harness ∧
      buffer.IsAskedBy machine config ∧
      forall timing, Describes (harness.run timing).result config buffer := by
  rcases Config.bounds_of_validate valid with ⟨short, allowed⟩
  rcases drawBuffer_isOk (memory _ short) short answers with ⟨buffer, drawn, asked⟩
  rcases ofBuffer_cases machine config buffer with
    ⟨shared, characters, _⟩ | ⟨_, _, reason, failed, _⟩ | ⟨_, scanning, mode, parallel, made⟩
  · exact absurd ⟨shared, characters⟩ allowed
  · rw [workers] at failed
    cases failed
  · exact ⟨_, buffer, (setup_of_buffer drawn).trans made, asked,
      run_describes config buffer scanning mode parallel⟩

end Harness

namespace Program

/-! ## The program -/

/-- The configuration in the file that the program reads. -/
def Surroundings.load (surroundings : Surroundings) : Except ConfigError Config :=
  ConfigFile.standard.load (.ofProcessors surroundings.machine.processors) surroundings.store

/-- Everything that the program needs beside its configuration is there. -/
structure IsServed {State : Type} (surroundings : Surroundings) (entropy : Random.Source State) :
    Prop where
  /-- Up to one gibibyte of memory can be had. -/
  memory : forall length : UInt64, length.toNat ≤ 0x40000000 ->
    surroundings.machine.grants length = true
  workers : forall threads, surroundings.machine.startWorkers threads = .ok ()
  entropy : forall state count, exists bytes, (entropy.fill state count).2 = .ok bytes
  logging : forall config, surroundings.load = .ok config ->
    exists filter, (Logging.setUp false surroundings.filter config.logging.level).2 = .ok filter

/-- A line that reports a run of a configuration. -/
structure IsReportOf (machine : Machine) (config : Config) (line : String) (report : Report) :
    Prop where
  oneLine : '\n' ∉ line.toList
  decoded : Report.ofJson line = .ok report
  mode : report.mode = config.scanner.mode
  parallel : report.parallel = config.scanner.parallel
  iterations : report.iterations = config.harness.iterations
  bufferLength : report.bufferLength = config.buffer.length
  /-- The count depends on the length and the seed only. -/
  whitespace : forall seed, config.buffer.seed = some seed ->
    exists buffer, (Buffer.generateSeeded machine config.buffer.length seed).result = .ok buffer ∧
      report.whitespace.toNat = Scan.count buffer.bytes

section Steps

variable {State : Type} {surroundings : Surroundings} {entropy : Random.Source State}
  {state : State} {config : Config}

theorem prepareConfig_of_invalid {complaints : List String} {filter : Logging.Filter}
    {violation : Violation}
    (logging : Logging.setUp false surroundings.filter config.logging.level =
      (complaints, .ok filter))
    (invalid : config.validate.result = .error violation) :
    exists notices, prepareConfig surroundings entropy state config =
      .error (stopped notices .validation [(ConfigError.invalid violation).message]) := by
  rw [prepareConfig, logging]
  dsimp only
  split
  · rename_i found
    rw [found] at invalid
    cases invalid
    exact ⟨_, rfl⟩
  · rename_i found
    rw [found] at invalid
    cases invalid

theorem prepareConfig_of_valid {complaints : List String} {filter : Logging.Filter}
    {harness : Harness}
    (logging : Logging.setUp false surroundings.filter config.logging.level =
      (complaints, .ok filter))
    (valid : config.validate.result = .ok ())
    (ready : (Harness.setup surroundings.machine config entropy state).2.result = .ok harness) :
    exists notices, prepareConfig surroundings entropy state config =
      .ok ⟨notices, filter, config.harness.reportFormat, harness⟩ := by
  rw [prepareConfig, logging]
  dsimp only
  split
  · rename_i found
    rw [found] at valid
    cases valid
  · rw [prepareHarness]
    split
    · rename_i failed
      rw [failed] at ready
      cases ready
    · rename_i succeeded
      rw [succeeded] at ready
      cases ready
      exact ⟨_, rfl⟩

/-- A configuration file that is there is what the program starts from. -/
theorem run_of_holds (present : surroundings.store.holds Config.fileName = true)
    (timing : Harness.Timing) :
    run surroundings entropy state timing =
      match surroundings.load with
      | .error error => stopped [] .loading (error.message :: error.causes)
      | .ok config =>
          match prepareConfig surroundings entropy state config with
          | .error outcome => outcome
          | .ok prepared => complete prepared timing := by
  have result : (ConfigFile.standard.loadOrDefault (.ofProcessors surroundings.machine.processors)
      surroundings.store).result = surroundings.load :=
    ConfigFile.loadOrDefault_of_holds present _
  rw [run, prepare, result]
  cases surroundings.load <;> rfl

end Steps

/-- What is written about a run whose report describes it. -/
theorem isReportOf_json {machine : Machine} {config : Config} {buffer : Buffer} {report : Report}
    (asked : buffer.IsAskedBy machine config)
    (described : Harness.Describes report config buffer) :
    IsReportOf machine config report.json report where
  oneLine := report.newline_not_mem_json
  decoded := report.ofJson_json
  mode := described.mode
  parallel := described.parallel
  iterations := described.iterations
  bufferLength := UInt64.toNat_inj.mp (described.bufferLength.trans asked.length)
  whitespace := fun seed given => ⟨buffer, asked.seeded seed given, described.whitespace⟩

/-- How the program ends on a configuration: with a diagnostic about its validation, or with
a report in the format that it asks for. -/
structure Ends (machine : Machine) (config : Config) (outcome : Outcome) : Prop where
  invalid : forall violation, config.validate.result = .error violation ->
    exists notices, outcome =
      stopped notices .validation [(ConfigError.invalid violation).message]
  status : config.validate.result = .ok () -> outcome.status = 0
  text : config.validate.result = .ok () -> config.harness.reportFormat = .text ->
    outcome.output = []
  json : config.validate.result = .ok () -> config.harness.reportFormat = .json ->
    exists line report, outcome.output = [line] ∧ IsReportOf machine config line report

namespace Ends

variable {machine : Machine} {config : Config} {outcome : Outcome}

theorem status_iff (ends : Ends machine config outcome) :
    outcome.status = 0 <-> config.validate.result = .ok () := by
  refine ⟨fun success => ?_, ends.status⟩
  cases validity : config.validate.result with
  | ok nothing => rfl
  | error violation =>
      rcases ends.invalid violation validity with ⟨notices, rfl⟩
      cases success

theorem output_of_status_ne (ends : Ends machine config outcome) (failed : outcome.status ≠ 0) :
    outcome.output = [] := by
  cases validity : config.validate.result with
  | ok nothing => exact absurd (ends.status validity) failed
  | error violation =>
      rcases ends.invalid violation validity with ⟨notices, rfl⟩
      rfl

end Ends

/-- The harness of a valid configuration reports in the format that is asked for. -/
theorem ends_of_valid {machine : Machine} {config : Config} {buffer : Buffer} {harness : Harness}
    (valid : config.validate.result = .ok ()) (asked : buffer.IsAskedBy machine config)
    (described : forall timing, Harness.Describes (harness.run timing).result config buffer)
    (notices : List Notice) (filter : Logging.Filter) (timing : Harness.Timing) :
    Ends machine config
      (complete ⟨notices, filter, config.harness.reportFormat, harness⟩ timing) := by
  refine ⟨fun violation invalid => ?_, fun _ => ?_, fun _ format => ?_, fun _ format => ?_⟩
  · rw [valid] at invalid
    cases invalid
  · rw [complete]
    split <;> rfl
  · rw [complete, format]
  · rw [complete, format]
    exact ⟨_, _, rfl, isReportOf_json asked (described timing)⟩

theorem run_ends {State : Type} {surroundings : Surroundings} {entropy : Random.Source State}
    (served : IsServed surroundings entropy)
    (present : surroundings.store.holds Config.fileName = true)
    {config : Config} (loaded : surroundings.load = .ok config) (state : State)
    (timing : Harness.Timing) :
    Ends surroundings.machine config (run surroundings entropy state timing) := by
  rcases served.logging config loaded with ⟨filter, chosen⟩
  have logging : Logging.setUp false surroundings.filter config.logging.level =
      ((Logging.setUp false surroundings.filter config.logging.level).1, .ok filter) :=
    Prod.ext rfl chosen
  rw [run_of_holds present, loaded]
  dsimp only
  cases validity : config.validate.result with
  | error violation =>
      rcases prepareConfig_of_invalid logging validity with ⟨notices, stops⟩
      rw [stops]
      refine ⟨fun other invalid => ?_, fun valid => ?_, fun valid => ?_, fun valid => ?_⟩
      · rw [validity] at invalid
        cases invalid
        exact ⟨notices, rfl⟩
      all_goals
        rw [validity] at valid
        cases valid
  | ok nothing =>
      rcases Harness.setup_isOk validity served.memory served.workers (served.entropy state) with
        ⟨harness, buffer, ready, asked, described⟩
      rcases prepareConfig_of_valid logging validity ready with ⟨notices, prepared⟩
      rw [prepared]
      exact ends_of_valid validity asked described notices filter timing

/-- Where there is a configuration file and everything else is served, the program ends with
status zero exactly if the bytes of the file are UTF-8, hold a configuration and the
configuration is valid.  Otherwise it prints nothing and names the first of the two steps that
failed.  A valid configuration is reported in the log, or by one line that is decoded to a
report of what was configured, with the sequential count of the seeded bytes. -/
theorem run_outcome {State : Type} (surroundings : Surroundings) (entropy : Random.Source State)
    (served : IsServed surroundings entropy) (bytes : List UInt8)
    (present : surroundings.store.read Config.fileName = .ok bytes) (state : State)
    (timing : Harness.Timing) :
    let outcome := run surroundings entropy state timing
    (outcome.status = 0 <-> exists text config, Text.Utf8.decode? bytes = some text ∧
      Config.ofToml (.ofProcessors surroundings.machine.processors) text = .ok config ∧
      config.validate.result = .ok ()) ∧
    (outcome.status ≠ 0 -> outcome.output = []) ∧
    (forall error, surroundings.load = .error error ->
      outcome = stopped [] .loading (error.message :: error.causes)) ∧
    (forall config, surroundings.load = .ok config ->
      Ends surroundings.machine config outcome) := by
  intro outcome
  have holds : surroundings.store.holds Config.fileName = true := Store.holds_of_read present
  have accepted {config : Config} : surroundings.load = .ok config <->
      exists text, Text.Utf8.decode? bytes = some text ∧
        Config.ofToml (.ofProcessors surroundings.machine.processors) text = .ok config := by
    have found : surroundings.store.read ConfigFile.standard.path = .ok bytes := present
    rw [Surroundings.load, ConfigFile.load_eq_ok_iff, found]
    simp
  have ends (config : Config) (loaded : surroundings.load = .ok config) :
      Ends surroundings.machine config outcome := run_ends served holds loaded state timing
  have stops (error : ConfigError) (failed : surroundings.load = .error error) :
      outcome = stopped [] .loading (error.message :: error.causes) := by
    change run surroundings entropy state timing = _
    rw [run_of_holds holds, failed]
  refine ⟨⟨fun success => ?_, ?_⟩, fun failed => ?_, stops, ends⟩
  · cases loading : surroundings.load with
    | error error =>
        rw [stops error loading] at success
        cases success
    | ok config =>
        rcases accepted.mp loading with ⟨text, decoded, read⟩
        exact ⟨text, config, decoded, read, (ends config loading).status_iff.mp success⟩
  · rintro ⟨text, config, decoded, read, valid⟩
    exact (ends config (accepted.mpr ⟨text, decoded, read⟩)).status valid
  · cases loading : surroundings.load with
    | error error =>
        rw [stops error loading]
        rfl
    | ok config => exact (ends config loading).output_of_status_ne failed

/-- Logging is set up by what the environment asks for, whatever the configured level. -/
theorem setUp_info (level : String) :
    exists filter, (Logging.setUp false (some "info") level).2 = .ok filter := by
  have understood : exists filter, Logging.Filter.strict "info".toList = .ok (some filter) :=
    ⟨_, rfl⟩
  rcases understood with ⟨filter, strict⟩
  refine ⟨filter, ?_⟩
  rw [Logging.setUp, Logging.Filter.choose]
  dsimp only
  rw [strict]
  rfl

/-- A seeded run that is shared among workers and reported by a line. -/
theorem run_outcome_json :
    let text := ("[buffer]\nlength=3\nseed=7\n[scanner]\nparallel=true\n" ++
      "[harness]\nreport_format=\x22json\x22\n").toList
    let config : Config := ⟨⟨3, some 7⟩, ⟨.bytes, true, 1, 65536⟩, ⟨100, 3, .json⟩, ⟨"info"⟩⟩
    let surroundings : Surroundings := ⟨.bounded 1 0x40000001, "x86_64", some "info",
      Store.empty.put [Config.fileName] (.file (Text.Utf8.encode text))⟩
    let entropy := Random.Source.cycle [0x20]
    let outcome := run surroundings entropy 0 ⟨.zero, .zero⟩
    IsServed surroundings entropy ∧
      surroundings.store.read Config.fileName = .ok (Text.Utf8.encode text) ∧
      outcome.status = 0 ∧
      exists line report, outcome.output = [line] ∧
        IsReportOf surroundings.machine config line report := by
  intro text config surroundings entropy outcome
  have read : Config.ofToml (.ofProcessors 1)
      ("[buffer]\nlength=3\nseed=7\n[scanner]\nparallel=true\n" ++
        "[harness]\nreport_format=\x22json\x22\n").toList =
      .ok ⟨⟨3, some 7⟩, ⟨.bytes, true, 1, 65536⟩, ⟨100, 3, .json⟩, ⟨"info"⟩⟩ := by cbv
  have valid : (Config.mk ⟨3, some 7⟩ ⟨.bytes, true, 1, 65536⟩ ⟨100, 3, .json⟩
      ⟨"info"⟩).validate.result = .ok () := by rfl
  have leads := ConfigFile.leadsTo_standard
  have present : surroundings.store.read Config.fileName = .ok (Text.Utf8.encode text) :=
    (leads.put _).read (Store.node?_put_self _ leads.inner _)
  have served : IsServed surroundings entropy := by
    refine ⟨fun length short => ?_, fun _ => rfl, fun _ _ => ⟨_, rfl⟩, fun config _ => ?_⟩
    · exact decide_eq_true (Nat.lt_succ_of_le short)
    · exact setUp_info config.logging.level
  have loaded : surroundings.load = .ok config :=
    ConfigFile.load_of_ofToml (leads.put _) (Store.node?_put_self _ leads.inner _) read
  have ends : Ends surroundings.machine config outcome :=
    (run_outcome surroundings entropy served _ present 0 ⟨.zero, .zero⟩).2.2.2 config loaded
  exact ⟨served, present, ends.status valid, ends.json valid rfl⟩

end Program
end WhitespaceBench
