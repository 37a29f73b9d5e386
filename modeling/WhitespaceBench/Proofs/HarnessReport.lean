import WhitespaceBench.Harness
import WhitespaceBench.Proofs.ChunkedScan
import WhitespaceBench.Proofs.LossyText

namespace WhitespaceBench
namespace Harness

/-!
# What a harness reports

A harness walks its buffer in one of three ways, and the report of a run does not show
which, apart from naming it: the count over the bytes, the count over chunks of them and
the count over the characters of the lenient view are the same number.  A harness can
always be made, except for characters that are to be shared among workers, or when the
workers cannot be started.
-/

/-- The workers that a configuration asks for. -/
def askedWorkers (machine : Machine) (config : Config) : UInt64 :=
  (Scan.ChunkedScanner.create machine.processors config.scanner.maxThreads
    config.scanner.chunkSize).threads

/-- Bytes are shared as soon as the workers start. -/
theorem ofBuffer_shared_bytes (machine : Machine) (config : Config) (buffer : Buffer)
    (shared : config.scanner.parallel = true) (view : config.scanner.mode = .bytes) :
    (forall reason, machine.startWorkers (askedWorkers machine config) = .error reason ->
      (ofBuffer machine config buffer).result = .error (.threadPool reason)) ∧
    (machine.startWorkers (askedWorkers machine config) = .ok () ->
      (ofBuffer machine config buffer).result =
        .ok ⟨buffer, .chunks (Scan.ChunkedScanner.create machine.processors
          config.scanner.maxThreads config.scanner.chunkSize), config.harness⟩) := by
  unfold ofBuffer Scan.ChunkedScanner.start askedWorkers
  rw [if_pos shared, view]
  dsimp only
  constructor
  · intro reason failed
    rw [failed]
  · intro started
    rw [started]

/-- A walk that is not shared needs nothing from the machine. -/
theorem ofBuffer_alone (machine : Machine) (config : Config) (buffer : Buffer)
    (alone : Not (config.scanner.parallel = true)) :
    exists scanning : Scanning, scanning.mode = config.scanner.mode ∧
      scanning.isParallel = false ∧
      (ofBuffer machine config buffer).result = .ok ⟨buffer, scanning, config.harness⟩ := by
  unfold ofBuffer
  rw [if_neg alone]
  cases config.scanner.mode with
  | bytes => exact ⟨.bytes, rfl, rfl, rfl⟩
  | chars => exact ⟨.chars, rfl, rfl, rfl⟩

/-- Everything that may come of making a harness: characters cannot be shared, workers
may not start, and otherwise there is a harness that walks the buffer as configured. -/
theorem ofBuffer_cases (machine : Machine) (config : Config) (buffer : Buffer) :
    (config.scanner.parallel = true ∧ config.scanner.mode = .chars ∧
      (ofBuffer machine config buffer).result = .error (.config (.invalid .parallelChars))) ∨
    (config.scanner.parallel = true ∧ config.scanner.mode = .bytes ∧
      exists reason, machine.startWorkers (askedWorkers machine config) = .error reason ∧
        (ofBuffer machine config buffer).result = .error (.threadPool reason)) ∨
    (Not (config.scanner.parallel = true ∧ config.scanner.mode = .chars) ∧
      exists scanning : Scanning, scanning.mode = config.scanner.mode ∧
        scanning.isParallel = config.scanner.parallel ∧
        (ofBuffer machine config buffer).result = .ok ⟨buffer, scanning, config.harness⟩) := by
  cases shared : config.scanner.parallel with
  | false =>
      have alone : Not (config.scanner.parallel = true) := Bool.eq_false_iff.mp shared
      have made := ofBuffer_alone machine config buffer alone
      exact Or.inr (Or.inr ⟨fun both => Bool.noConfusion both.1, made⟩)
  | true =>
      cases view : config.scanner.mode with
      | chars =>
          refine Or.inl ⟨rfl, rfl, ?_⟩
          unfold ofBuffer
          rw [if_pos shared, view]
      | bytes =>
          have outcome := ofBuffer_shared_bytes machine config buffer shared view
          cases started : machine.startWorkers (askedWorkers machine config) with
          | error reason =>
              exact Or.inr (Or.inl ⟨rfl, rfl, reason, rfl, outcome.1 reason started⟩)
          | ok nothing =>
              exact Or.inr (Or.inr ⟨fun both => ScanMode.noConfusion both.2, _, rfl, rfl,
                outcome.2 started⟩)

/-- The count of a harness is the sequential count of its bytes, however it walks them. -/
@[simp] theorem whitespaceCount_eq (harness : Harness) :
    harness.whitespaceCount = Scan.count harness.buffer.bytes := by
  unfold whitespaceCount
  cases harness.scanning with
  | bytes => rfl
  | chunks scanner => exact scanner.count_eq
  | chars => exact Scan.countChars_lossy harness.buffer.bytes

/-- The word in the report is the exact count. -/
@[simp] theorem report_whitespace (harness : Harness) (total : Duration) :
    (harness.report total).whitespace.toNat = Scan.count harness.buffer.bytes := by
  unfold report
  rw [whitespaceCount_eq]
  exact UInt64.toNat_ofNat_of_lt' (Scan.count_lt_size harness.buffer.length_lt)

/-- A report that describes a run over a buffer as it was configured. -/
structure Describes (report : Report) (config : Config) (buffer : Buffer) : Prop where
  mode : report.mode = config.scanner.mode
  parallel : report.parallel = config.scanner.parallel
  bufferLength : report.bufferLength.toNat = buffer.bytes.length
  iterations : report.iterations = config.harness.iterations
  whitespace : report.whitespace.toNat = Scan.count buffer.bytes

/-- A run of a harness that walks a buffer as configured is described by its report. -/
theorem run_describes (config : Config) (buffer : Buffer) (scanning : Scanning)
    (mode : scanning.mode = config.scanner.mode)
    (parallel : scanning.isParallel = config.scanner.parallel) (timing : Timing) :
    Describes ((⟨buffer, scanning, config.harness⟩ : Harness).run timing).result config buffer where
  mode := mode
  parallel := parallel
  bufferLength := UInt64.toNat_ofNatLT ..
  iterations := rfl
  whitespace := report_whitespace ⟨buffer, scanning, config.harness⟩ timing.total

/-- If the workers that a configuration asks for can be started, making a harness fails
with an invalid configuration exactly for shared characters.  In every other case there
is a harness, and whatever times are measured its report names the configured mode,
sharing and passes, the length of the buffer, and the sequential count of its bytes. -/
theorem ofBuffer_run_describes (machine : Machine) (config : Config) (buffer : Buffer)
    (pool : machine.startWorkers (askedWorkers machine config) = .ok ()) :
    ((exists violation,
        (ofBuffer machine config buffer).result = .error (.config (.invalid violation))) <->
      config.scanner.parallel = true ∧ config.scanner.mode = .chars) ∧
    (Not (config.scanner.parallel = true ∧ config.scanner.mode = .chars) ->
      exists harness, (ofBuffer machine config buffer).result = .ok harness ∧
        forall timing, Describes (harness.run timing).result config buffer) := by
  rcases ofBuffer_cases machine config buffer with
    ⟨shared, characters, refused⟩ | ⟨_, _, reason, failed, _⟩ |
    ⟨allowed, scanning, mode, parallel, made⟩
  · refine ⟨⟨fun _ => ⟨shared, characters⟩, fun _ => ⟨_, refused⟩⟩, ?_⟩
    intro otherwise
    exact absurd ⟨shared, characters⟩ otherwise
  · rw [pool] at failed
    cases failed
  · refine ⟨⟨?_, fun both => absurd both allowed⟩, ?_⟩
    · rintro ⟨violation, refused⟩
      rw [made] at refused
      cases refused
    · intro _
      exact ⟨_, made, run_describes config buffer scanning mode parallel⟩

/-- Ill-formed bytes between blanks, walked as characters and in chunks of two. -/
theorem ofBuffer_run_describes_illFormed :
    let machine := Machine.bounded 1 0x40000000
    let buffer : Buffer := ⟨[0x20, 0xE2, 0x82, 0x09, 0xFF, 0x0A], by decide⟩
    let characters : Config := { Config.default 1 with scanner := ⟨.chars, false, 1, 65536⟩ }
    let chunks : Config := { Config.default 1 with scanner := ⟨.bytes, true, 0, 2⟩ }
    (machine.startWorkers (askedWorkers machine characters) = .ok () ∧
      exists harness, (ofBuffer machine characters buffer).result = .ok harness ∧
        forall timing, Describes (harness.run timing).result characters buffer) ∧
    (machine.startWorkers (askedWorkers machine chunks) = .ok () ∧
      exists harness, (ofBuffer machine chunks buffer).result = .ok harness ∧
        forall timing, Describes (harness.run timing).result chunks buffer) :=
  ⟨⟨rfl, (ofBuffer_run_describes _ _ _ rfl).2 (by decide)⟩,
    ⟨rfl, (ofBuffer_run_describes _ _ _ rfl).2 (by decide)⟩⟩

end Harness
end WhitespaceBench
