import WhitespaceBench.Config.File
import WhitespaceBench.Harness
import WhitespaceBench.Logging.Filter
import WhitespaceBench.Report.Json

namespace WhitespaceBench
namespace Program

/-!
# The whole program

The program loads its configuration, sets up logging, validates the configuration,
draws a buffer, runs the benchmark and reports.  The first step that fails ends it with
a diagnostic.  It is divided where the passes are measured: everything before yields a
harness, or the end; everything after depends on the measured times.
-/

def version : String := "0.1.0"

def authors : String := "char-scanner Contributors"

structure Surroundings where
  machine : Machine
  architecture : String
  /-- The filter that the environment asks for. -/
  filter : Option String
  store : Store

inductive Stage where
  | loading
  | logging
  | validation
  | setup
deriving Repr, DecidableEq

namespace Stage

def context : Stage -> String
  | loading => "Failed to load configuration"
  | logging => "Failed to initialize logging"
  | validation => "Invalid configuration"
  | setup => "Buffer setup failed"

end Stage

/-- Why the program ended early: the step, and the chain of causes. -/
structure Diagnostic where
  stage : Stage
  causes : List String
deriving Repr, DecidableEq

namespace Diagnostic

/-- A cause behind its first indent, each of its further lines behind the second. -/
def indented (first others : String) (cause : String) : List String :=
  match (Text.split '\n' cause.toList).map String.ofList with
  | [] => [first]
  | line :: lines => (first ++ line) :: lines.map (others ++ ·)

/-- The lines of causes, numbered if there are several. -/
def causeLines : List String -> List String
  | [] => []
  | [only] => indented "    " "    " only
  | causes =>
      causes.zipIdx.flatMap fun cause =>
        indented ("    " ++ toString cause.2 ++ ": ") "       " cause.1

def lines (diagnostic : Diagnostic) : List String :=
  ("Error: " ++ diagnostic.stage.context) ::
    match diagnostic.causes with
    | [] => []
    | causes => "" :: "Caused by:" :: causeLines causes

end Diagnostic

/-- Something that is written to the error stream. -/
inductive Notice where
  /-- A complaint about the filter. -/
  | complaint (text : String)
  /-- An event that the filter admits. -/
  | logged (event : Event)
  /-- Why the program ended early. -/
  | failure (diagnostic : Diagnostic)

/-- What the program did: its status, its output and its notices. -/
structure Outcome where
  status : UInt8
  output : List String
  notices : List Notice

structure Prepared where
  notices : List Notice
  filter : Logging.Filter
  format : ReportFormat
  harness : Harness

def admitted (filter : Logging.Filter) (events : List Event) : List Notice :=
  (events.filter filter.admits).map .logged

def stopped (notices : List Notice) (stage : Stage) (causes : List String) : Outcome :=
  ⟨1, [], notices ++ [.failure ⟨stage, causes⟩]⟩

/-- Breaks the program off, where it cannot even give a diagnostic. -/
def brokenOff (notices : List Notice) (text : String) : Outcome :=
  ⟨101, [], notices ++ [.complaint text]⟩

/-- The events at the start of a benchmark. -/
def greeting (surroundings : Surroundings) : List Event :=
  [.starting version, .architecture surroundings.architecture]

/-- Draws the buffer and makes the harness of a valid configuration. -/
def prepareHarness {State : Type} (surroundings : Surroundings)
    (entropy : Random.Source State) (state : State) (config : Config)
    (filter : Logging.Filter) (notices : List Notice) : Except Outcome Prepared :=
  let earlier := notices ++ admitted filter (greeting surroundings)
  match (Harness.setup surroundings.machine config entropy state).2 with
  | ⟨events, .error error⟩ =>
      .error (stopped (earlier ++ admitted filter events) .setup (error.message :: error.causes))
  | ⟨events, .ok harness⟩ =>
      .ok ⟨earlier ++ admitted filter events, filter, config.harness.reportFormat, harness⟩

/-- Validates a configuration and makes its harness. -/
def prepareConfig {State : Type} (surroundings : Surroundings)
    (entropy : Random.Source State) (state : State) (config : Config) :
    Except Outcome Prepared :=
  let (complaints, logging) := Logging.setUp false surroundings.filter config.logging.level
  let notices := complaints.map .complaint
  match logging with
  | .error (.misplaced cut) => .error (brokenOff notices cut.message)
  | .error fault =>
      .error (stopped notices .logging [(ScanError.logging fault.message).message])
  | .ok filter =>
      match config.validate with
      | ⟨events, .error violation⟩ =>
          .error (stopped (notices ++ admitted filter events) .validation
            [(ConfigError.invalid violation).message])
      | ⟨events, .ok ()⟩ =>
          prepareHarness surroundings entropy state config filter
            (notices ++ admitted filter events)

/-- The number of bytes that the program will draw from system entropy. -/
def entropyNeeded (surroundings : Surroundings) : Nat :=
  let defaults := Defaults.ofProcessors surroundings.machine.processors
  match (ConfigFile.standard.loadOrDefault defaults surroundings.store).result with
  | .error _ => 0
  | .ok config =>
      match config.validate.result, config.buffer.seed with
      | .ok (), none => config.buffer.length.toNat
      | _, _ => 0

/-- Everything up to the measured passes.  What is logged while the configuration is
loaded is lost, since logging depends on the configuration. -/
def prepare {State : Type} (surroundings : Surroundings) (entropy : Random.Source State)
    (state : State) : Except Outcome Prepared :=
  let defaults := Defaults.ofProcessors surroundings.machine.processors
  match (ConfigFile.standard.loadOrDefault defaults surroundings.store).result with
  | .error error => .error (stopped [] .loading (error.message :: error.causes))
  | .ok config => prepareConfig surroundings entropy state config

/-- Everything behind the measured passes: the report, as text in the log or as one
line of output. -/
def complete (prepared : Prepared) (timing : Harness.Timing) : Outcome :=
  let measured := prepared.harness.run timing
  let notices := prepared.notices ++ admitted prepared.filter measured.events
  match prepared.format with
  | .text => ⟨0, [], notices ++ admitted prepared.filter measured.result.events⟩
  | .json => ⟨0, [measured.result.json], notices⟩

/-- The whole program, given the times that its passes will take. -/
def run {State : Type} (surroundings : Surroundings) (entropy : Random.Source State)
    (state : State) (timing : Harness.Timing) : Outcome :=
  match prepare surroundings entropy state with
  | .error outcome => outcome
  | .ok prepared => complete prepared timing

end Program
end WhitespaceBench
