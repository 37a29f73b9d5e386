import WhitespaceBench.Duration

namespace WhitespaceBench

/-!
# Benchmark reports

A report holds what a run was asked to do, how long its measured passes took
together, and the whitespace count as a check value.  The rates are computed in
binary64 arithmetic, in the order in which they are written here.
-/

/-- Which view of the buffer a pass walks. -/
inductive ScanMode where
  | bytes
  | chars
deriving Repr, DecidableEq

namespace ScanMode

def name : ScanMode -> String
  | bytes => "bytes"
  | chars => "chars"

/-- The modes with their names, in declaration order. -/
def variants : List (String × ScanMode) := [("bytes", bytes), ("chars", chars)]

def default : ScanMode := bytes

end ScanMode

/-- How the final report is emitted. -/
inductive ReportFormat where
  | text
  | json
deriving Repr, DecidableEq

namespace ReportFormat

def name : ReportFormat -> String
  | text => "text"
  | json => "json"

/-- The formats with their names, in declaration order. -/
def variants : List (String × ReportFormat) := [("text", text), ("json", json)]

def default : ReportFormat := text

end ReportFormat

structure Report where
  mode : ScanMode
  parallel : Bool
  bufferLength : UInt64
  iterations : UInt32
  total : Duration
  whitespace : UInt64
deriving DecidableEq

namespace Report

/-- The mean time of one pass, and no time if there was none. -/
def perIteration (report : Report) : Duration :=
  if report.iterations = 0 then Duration.zero
  else (report.total.div? report.iterations).getD Duration.zero

def millisPerPass (report : Report) : Float :=
  report.perIteration.toSeconds * 1000.0

/-- Bytes scanned per second over all passes, and zero if no time passed. -/
def bytesPerSecond (report : Report) : Float :=
  let seconds := report.total.toSeconds
  if seconds == 0.0 then 0.0
  else (report.bufferLength.toFloat * report.iterations.toFloat) / seconds

def mebibytesPerSecond (report : Report) : Float :=
  report.bytesPerSecond / (1024.0 * 1024.0)

end Report
end WhitespaceBench
