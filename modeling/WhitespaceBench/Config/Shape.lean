import WhitespaceBench.Config
import WhitespaceBench.Report.Shape

namespace WhitespaceBench

open Decode

/-!
# How configurations are read

Every setting of a configuration may be left out, and then has its default value; so
may a whole section.  A set of default values is read by the same rules, except that
nothing may be left out and there is no seed.
-/

variable {Value Error : Type}

/-- Whether settings may be left out, and how messages call the records. -/
structure Strictness where
  required : Bool
  suffix : String

namespace Strictness

/-- A configuration: everything may be left out. -/
def lenient : Strictness := ⟨false, "Config"⟩

/-- A set of default values: nothing may be left out. -/
def complete : Strictness := ⟨true, "Defaults"⟩

end Strictness

namespace BufferSettings

def shape (dialect : Dialect Value Error) (initial : BufferSettings) :
    Shape Value Error BufferSettings BufferSettings where
  name := "BufferConfig"
  strict := false
  counted := true
  initial := initial
  fields := [
    ⟨"length", false, storing dialect.size fun length settings =>
      { settings with length := length }⟩,
    ⟨"seed", false, storing (dialect.optional (dialect.word "u64")) fun seed settings =>
      { settings with seed := seed }⟩]
  finish := .ok

end BufferSettings

namespace Defaults

/-- How the buffer section of a set of default values is read. -/
def lengthShape (dialect : Dialect Value Error) (initial : UInt64) :
    Shape Value Error UInt64 UInt64 where
  name := "BufferDefaults"
  strict := false
  counted := true
  initial := initial
  fields := [⟨"length", true, storing dialect.size fun length _ => length⟩]
  finish := .ok

end Defaults

namespace ScannerSettings

def shape (dialect : Dialect Value Error) (strictness : Strictness) (initial : ScannerSettings) :
    Shape Value Error ScannerSettings ScannerSettings where
  name := "Scanner" ++ strictness.suffix
  strict := false
  counted := true
  initial := initial
  fields := [
    ⟨"mode", strictness.required, storing (ScanMode.decode dialect) fun mode settings =>
      { settings with mode := mode }⟩,
    ⟨"parallel", strictness.required, storing dialect.boolean fun parallel settings =>
      { settings with parallel := parallel }⟩,
    ⟨"max_threads", strictness.required, storing dialect.size fun threads settings =>
      { settings with maxThreads := threads }⟩,
    ⟨"chunk_size", strictness.required, storing dialect.size fun size settings =>
      { settings with chunkSize := size }⟩]
  finish := .ok

end ScannerSettings

namespace HarnessSettings

def shape (dialect : Dialect Value Error) (strictness : Strictness) (initial : HarnessSettings) :
    Shape Value Error HarnessSettings HarnessSettings where
  name := "Harness" ++ strictness.suffix
  strict := false
  counted := true
  initial := initial
  fields := [
    ⟨"iterations", strictness.required, storing dialect.count fun count settings =>
      { settings with iterations := count }⟩,
    ⟨"warmup_iterations", strictness.required, storing dialect.count fun count settings =>
      { settings with warmupIterations := count }⟩,
    ⟨"report_format", strictness.required,
      storing (ReportFormat.decode dialect) fun reportFormat settings =>
        { settings with reportFormat := reportFormat }⟩]
  finish := .ok

end HarnessSettings

namespace LoggingSettings

def shape (dialect : Dialect Value Error) (strictness : Strictness) (initial : LoggingSettings) :
    Shape Value Error LoggingSettings LoggingSettings where
  name := "Logging" ++ strictness.suffix
  strict := false
  counted := true
  initial := initial
  fields := [
    ⟨"level", strictness.required, storing dialect.text fun level settings =>
      { settings with level := level }⟩]
  finish := .ok

end LoggingSettings

namespace Config

/-- How a configuration is read, given the values of settings that are left out. -/
def shape (dialect : Dialect Value Error) (defaults : Defaults) :
    Shape Value Error Config Config where
  name := "Config"
  strict := false
  counted := true
  initial := defaults.config
  fields := [
    ⟨"buffer", false,
      storing (dialect.record (BufferSettings.shape dialect defaults.config.buffer))
        fun buffer config => { config with buffer := buffer }⟩,
    ⟨"scanner", false,
      storing (dialect.record (ScannerSettings.shape dialect .lenient defaults.scanner))
        fun scanner config => { config with scanner := scanner }⟩,
    ⟨"harness", false,
      storing (dialect.record (HarnessSettings.shape dialect .lenient defaults.harness))
        fun harness config => { config with harness := harness }⟩,
    ⟨"logging", false,
      storing (dialect.record (LoggingSettings.shape dialect .lenient defaults.logging))
        fun logging config => { config with logging := logging }⟩]
  finish := .ok

def decode (defaults : Defaults) (dialect : Dialect Value Error) (value : Value) :
    Except Error Config :=
  dialect.record (shape dialect defaults) value

end Config

namespace Defaults

/-- How a set of default values is read.  The values that reading starts from never
remain, since nothing may be left out. -/
def shape (dialect : Dialect Value Error) (initial : Defaults) :
    Shape Value Error Defaults Defaults where
  name := "ConfigDefaults"
  strict := false
  counted := true
  initial := initial
  fields := [
    ⟨"buffer", true, storing (dialect.record (lengthShape dialect initial.length))
      fun length defaults => { defaults with length := length }⟩,
    ⟨"scanner", true,
      storing (dialect.record (ScannerSettings.shape dialect .complete initial.scanner))
        fun scanner defaults => { defaults with scanner := scanner }⟩,
    ⟨"harness", true,
      storing (dialect.record (HarnessSettings.shape dialect .complete initial.harness))
        fun harness defaults => { defaults with harness := harness }⟩,
    ⟨"logging", true,
      storing (dialect.record (LoggingSettings.shape dialect .complete initial.logging))
        fun logging defaults => { defaults with logging := logging }⟩]
  finish := .ok

def decode (initial : Defaults) (dialect : Dialect Value Error) (value : Value) :
    Except Error Defaults :=
  dialect.record (shape dialect initial) value

end Defaults
end WhitespaceBench
