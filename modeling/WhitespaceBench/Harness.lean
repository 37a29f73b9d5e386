import WhitespaceBench.Buffer.Random
import WhitespaceBench.Scan.Chunked

namespace WhitespaceBench

/-!
# The benchmark harness

A harness has one buffer, which every pass scans unchanged.  A pass is described by
the classifications that it makes; how long the passes took is told from outside.
The whitespace count of the report is made by a separate counting scan.
-/

/-- Starts the workers of a scanner.  The chunk size is logged as it was asked for. -/
def Scan.ChunkedScanner.start (machine : Machine) (threads chunkSize : UInt64) :
    Logged (Except ScanError Scan.ChunkedScanner) :=
  let scanner := create machine.processors threads chunkSize
  match machine.startWorkers scanner.threads with
  | .error reason => ⟨[], .error (.threadPool reason)⟩
  | .ok () => ⟨[.parallelReady scanner.threads chunkSize], .ok scanner⟩

/-- How a pass walks the buffer. -/
inductive Scanning where
  /-- Byte by byte. -/
  | bytes
  /-- Chunks of bytes, handed to workers. -/
  | chunks (scanner : Scan.ChunkedScanner)
  /-- Character by character, ill-formed parts replaced. -/
  | chars

namespace Scanning

def mode : Scanning -> ScanMode
  | bytes => .bytes
  | chunks _ => .bytes
  | chars => .chars

def isParallel : Scanning -> Bool
  | bytes => false
  | chunks _ => true
  | chars => false

end Scanning

/-- A benchmark that is ready to run. -/
structure Harness where
  buffer : Buffer
  scanning : Scanning
  settings : HarnessSettings

namespace Harness

def ready (buffer : Buffer) (scanning : Scanning) : Event :=
  .harnessReady buffer.length scanning.mode scanning.isParallel

/-- Makes a harness for a buffer.  Characters cannot be shared among workers. -/
def ofBuffer (machine : Machine) (config : Config) (buffer : Buffer) :
    Logged (Except ScanError Harness) :=
  if config.scanner.parallel then
    match config.scanner.mode with
    | .chars => ⟨[], .error (.config (.invalid .parallelChars))⟩
    | .bytes =>
        match Scan.ChunkedScanner.start machine config.scanner.maxThreads
            config.scanner.chunkSize with
        | ⟨events, .error error⟩ => ⟨events, .error error⟩
        | ⟨events, .ok scanner⟩ =>
            ⟨events ++ [ready buffer (.chunks scanner)],
              .ok ⟨buffer, .chunks scanner, config.harness⟩⟩
  else
    let scanning : Scanning :=
      match config.scanner.mode with
      | .chars => .chars
      | .bytes => .bytes
    ⟨[ready buffer scanning], .ok ⟨buffer, scanning, config.harness⟩⟩

def drawBuffer {State : Type} (machine : Machine) (config : Config)
    (entropy : Random.Source State) (state : State) :
    State × Logged (Except ScanError Buffer) :=
  match config.buffer.seed with
  | some seed => (state, Buffer.generateSeeded machine config.buffer.length seed)
  | none => Buffer.generateFromEntropy machine config.buffer.length entropy state

def setup {State : Type} (machine : Machine) (config : Config)
    (entropy : Random.Source State) (state : State) :
    State × Logged (Except ScanError Harness) :=
  match drawBuffer machine config entropy state with
  | (next, ⟨events, .error error⟩) => (next, ⟨events, .error error⟩)
  | (next, ⟨events, .ok buffer⟩) => (next, (ofBuffer machine config buffer).after events)

/-- The classifications of one pass, for each worker in the order in which it makes
them.  Workers may interleave in any way. -/
def traces (harness : Harness) : List (List Bool) :=
  match harness.scanning with
  | .bytes => [Scan.trace harness.buffer.bytes]
  | .chunks scanner => scanner.traces harness.buffer.bytes
  | .chars => [Scan.traceChars harness.buffer.text]

/-- The classifications of so many passes, one after the other. -/
def passes (harness : Harness) : (count : Nat) -> List (List (List Bool))
  | 0 => []
  | count + 1 => harness.traces :: harness.passes count

/-- The number of whitespace units in the view that is walked. -/
def whitespaceCount (harness : Harness) : Nat :=
  match harness.scanning with
  | .bytes => Scan.count harness.buffer.bytes
  | .chunks scanner => scanner.count harness.buffer.bytes
  | .chars => Scan.countChars harness.buffer.text

structure Timing where
  warmup : Duration
  total : Duration

/-- The report of a run, given the time of its measured passes. -/
def report (harness : Harness) (total : Duration) : Report where
  mode := harness.scanning.mode
  parallel := harness.scanning.isParallel
  bufferLength := harness.buffer.size
  iterations := harness.settings.iterations
  total := total
  whitespace := UInt64.ofNat harness.whitespaceCount

/-- The event of the warmup; there is none without passes to warm up. -/
def warmupEvents (harness : Harness) (elapsed : Duration) : List Event :=
  if harness.settings.warmupIterations = 0 then []
  else [.warmedUp harness.settings.warmupIterations elapsed]

def run (harness : Harness) (timing : Timing) : Logged Report :=
  let report := harness.report timing.total
  ⟨harness.warmupEvents timing.warmup ++ [.completed report], report⟩

end Harness

def Report.events (report : Report) : List Event :=
  report.lines.map .reported

end WhitespaceBench
