import WhitespaceBench.Report

namespace WhitespaceBench

/-!
# Configurations

A configuration has four sections: the buffer that is scanned, the scanner, the
benchmark harness and the log.  The default of each setting is known before any file
is read; only the default number of threads depends on the machine, since it is the
number of its processors, but never more than eight.
-/

/-- The buffer that is scanned.  Without a seed its bytes come from system entropy. -/
structure BufferSettings where
  length : UInt64
  seed : Option UInt64
deriving Repr, DecidableEq

structure ScannerSettings where
  mode : ScanMode
  parallel : Bool
  maxThreads : UInt64
  chunkSize : UInt64
deriving Repr, DecidableEq

/-- How many passes are made, and how they are reported. -/
structure HarnessSettings where
  iterations : UInt32
  warmupIterations : UInt32
  reportFormat : ReportFormat
deriving Repr, DecidableEq

structure LoggingSettings where
  level : String
deriving Repr, DecidableEq

/-- All settings of a benchmark. -/
structure Config where
  buffer : BufferSettings
  scanner : ScannerSettings
  harness : HarnessSettings
  logging : LoggingSettings
deriving Repr, DecidableEq

/-- The settings that have a default value other than nothing: all but the seed. -/
structure Defaults where
  length : UInt64
  scanner : ScannerSettings
  harness : HarnessSettings
  logging : LoggingSettings
deriving Repr, DecidableEq

namespace Defaults

def bufferLength : UInt64 := 5000000

/-- The default number of threads on a machine with so many processors. -/
def threads (processors : UInt64) : UInt64 :=
  if processors < 8 then processors else 8

/-- The default values on a machine with so many processors. -/
def ofProcessors (processors : UInt64) : Defaults where
  length := bufferLength
  scanner := ⟨.default, false, threads processors, 65536⟩
  harness := ⟨100, 3, .default⟩
  logging := ⟨"info"⟩

/-- The configuration that has all default values. -/
def config (defaults : Defaults) : Config where
  buffer := ⟨defaults.length, none⟩
  scanner := defaults.scanner
  harness := defaults.harness
  logging := defaults.logging

end Defaults

namespace Config

/-- The default configuration on a machine with so many processors. -/
def default (processors : UInt64) : Config :=
  (Defaults.ofProcessors processors).config

def withoutSeed (config : Config) : Defaults where
  length := config.buffer.length
  scanner := config.scanner
  harness := config.harness
  logging := config.logging

/-- The name of the file that is read when none is given. -/
def fileName : String := "char-scanner.toml"

end Config
end WhitespaceBench
