import WhitespaceBench.Config
import WhitespaceBench.Event
import WhitespaceBench.Text.Lowercase
import WhitespaceBench.Text.Quoted

namespace WhitespaceBench

/-!
# Admissible configurations

The conditions on a configuration are checked one after the other, and the first that
is violated is reported.  More passes to warm up than passes to measure are no
violation, but worth a warning.
-/

inductive Violation where
  | bufferEmpty
  | bufferTooLong
  | noThreads
  | tooManyThreads
  | chunkSize
  | parallelChars
  | noIterations
  | unknownLevel (level : String)
  /-- A reason that was given by someone else. -/
  | stated (reason : String)
deriving Repr, DecidableEq

namespace Violation

/-- The largest admissible buffer: one gibibyte. -/
def maxBufferLength : Nat := 1073741824

def maxThreads : Nat := 128

def levels : List String := ["trace", "debug", "info", "warn", "error", "off"]

/-- A list of texts, each in quotes. -/
def listed (texts : List String) : String :=
  "[" ++ String.intercalate ", " (texts.map Text.quoted) ++ "]"

def message : Violation -> String
  | bufferEmpty => "Buffer length must be greater than 0"
  | bufferTooLong => "Buffer length cannot exceed " ++ toString maxBufferLength ++ " bytes"
  | noThreads => "Scanner threads must be at least 1"
  | tooManyThreads => "Scanner threads cannot exceed " ++ toString maxThreads
  | chunkSize => "Chunk size must be a power of 2"
  | parallelChars => "Parallel scanning is only supported in bytes mode"
  | noIterations => "Harness iterations must be at least 1"
  | unknownLevel level =>
      "Invalid log level: " ++ level ++ ". Must be one of: " ++ listed levels
  | stated reason => reason

end Violation

namespace Config

/-- Whether a word is the power of two of its leading bit. -/
def isPowerOfTwo (word : UInt64) : Bool :=
  decide (word.toNat = Nat.pow 2 word.toNat.log2)

/-- The first condition on the buffer that is violated. -/
def bufferViolation? (settings : BufferSettings) : Option Violation :=
  if settings.length.toNat = 0 then some .bufferEmpty
  else if Violation.maxBufferLength < settings.length.toNat then some .bufferTooLong
  else none

def scannerViolation? (settings : ScannerSettings) : Option Violation :=
  if settings.maxThreads.toNat = 0 then some .noThreads
  else if Violation.maxThreads < settings.maxThreads.toNat then some .tooManyThreads
  else if !isPowerOfTwo settings.chunkSize then some .chunkSize
  else if settings.parallel && decide (settings.mode = .chars) then some .parallelChars
  else none

def harnessViolation? (settings : HarnessSettings) : Option Violation :=
  if settings.iterations = 0 then some .noIterations else none

/-- The warning about too many passes to warm up. -/
def warmupWarning (settings : HarnessSettings) : List Event :=
  if settings.iterations < settings.warmupIterations then
    [.warmupExceeds settings.warmupIterations settings.iterations]
  else []

def loggingViolation? (settings : LoggingSettings) : Option Violation :=
  if Violation.levels.contains (Text.lowercase settings.level) then none
  else some (.unknownLevel settings.level)

/-- Checks the conditions in order.  The warning is given once the conditions on buffer,
scanner and harness hold, whatever the log level. -/
def validate (config : Config) : Logged (Except Violation Unit) :=
  match bufferViolation? config.buffer with
  | some violation => ⟨[], .error violation⟩
  | none =>
      match scannerViolation? config.scanner with
      | some violation => ⟨[], .error violation⟩
      | none =>
          match harnessViolation? config.harness with
          | some violation => ⟨[], .error violation⟩
          | none =>
              match loggingViolation? config.logging with
              | some violation => ⟨warmupWarning config.harness, .error violation⟩
              | none => ⟨warmupWarning config.harness, .ok ()⟩

end Config
end WhitespaceBench
