import WhitespaceBench.Config.Shape
import WhitespaceBench.Toml.Diagnostic
import WhitespaceBench.Toml.Writer

namespace WhitespaceBench

/-!
# Configurations in TOML

The written form has one table for each section and one line for each setting, in
declaration order; a seed is written only if there is one.
-/

def ScannerSettings.sheet (settings : ScannerSettings) : Toml.Sheet where
  name := "scanner"
  lines := [
    ("mode", .text settings.mode.name),
    ("parallel", .flag settings.parallel),
    ("max_threads", .number settings.maxThreads.toNat),
    ("chunk_size", .number settings.chunkSize.toNat)]

def HarnessSettings.sheet (settings : HarnessSettings) : Toml.Sheet where
  name := "harness"
  lines := [
    ("iterations", .number settings.iterations.toNat),
    ("warmup_iterations", .number settings.warmupIterations.toNat),
    ("report_format", .text settings.reportFormat.name)]

def LoggingSettings.sheet (settings : LoggingSettings) : Toml.Sheet where
  name := "logging"
  lines := [("level", .text settings.level)]

def BufferSettings.sheet (settings : BufferSettings) : Toml.Sheet where
  name := "buffer"
  lines :=
    ("length", .number settings.length.toNat) ::
      match settings.seed with
      | none => []
      | some seed => [("seed", .number seed.toNat)]

namespace Config

def sheets (config : Config) : List Toml.Sheet :=
  [config.buffer.sheet, config.scanner.sheet, config.harness.sheet, config.logging.sheet]

/-- The text of a configuration, unless one of its settings cannot be written. -/
def toml (config : Config) : Except Toml.WriteFault (List Char) :=
  Toml.write config.sheets

def ofToml (defaults : Defaults) (text : List Char) : Except Toml.Failure Config :=
  Toml.decode (Config.decode defaults) text

end Config

namespace Defaults

/-- The text of a set of default values, unless one of them cannot be written. -/
def toml (defaults : Defaults) : Except Toml.WriteFault (List Char) :=
  Toml.write defaults.config.sheets

def ofToml (initial : Defaults) (text : List Char) : Except Toml.Failure Defaults :=
  Toml.decode (Defaults.decode initial) text

end Defaults
end WhitespaceBench
