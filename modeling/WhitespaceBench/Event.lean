import WhitespaceBench.Decimal.Layout
import WhitespaceBench.Report

namespace WhitespaceBench

/-!
# Events

Everything that is logged is an event of the kinds listed here.  An event knows
its level, its target, its message and its structured fields; what becomes of it
is decided by the filter and the writer of the program that emits it.
-/

/-- The importance of an event, from chatter to failure. -/
inductive Level where
  | trace
  | debug
  | info
  | warn
  | error
deriving Repr, DecidableEq

namespace Level

def name : Level -> String
  | trace => "TRACE"
  | debug => "DEBUG"
  | info => "INFO"
  | warn => "WARN"
  | error => "ERROR"

/-- The more chatty a level, the higher its verbosity. -/
def verbosity : Level -> Nat
  | error => 1
  | warn => 2
  | info => 3
  | debug => 4
  | trace => 5

end Level

inductive ReportLine where
  | title (mode : ScanMode)
  | buffer (length : UInt64)
  | parallel (flag : Bool)
  | iterations (count : UInt32)
  | total (duration : Duration)
  | onePass (millis : Float)
  | throughput (mebibytes : Float)
  | whitespace (count : UInt64)

namespace ReportLine

/-- The text of a line.  Labels are padded to one column. -/
def text : ReportLine -> String
  | title mode => "char scanner benchmark (" ++ mode.name ++ " mode)"
  | buffer length => "  buffer:      " ++ toString length.toNat ++ " bytes"
  | parallel flag => "  parallel:    " ++ toString flag
  | iterations count => "  iterations:  " ++ toString count.toNat
  | total duration => "  total:       " ++ duration.text
  | onePass millis => "  one pass:    " ++ Decimal.fixed 3 millis ++ " ms/op"
  | throughput mebibytes => "  throughput:  " ++ Decimal.fixed 1 mebibytes ++ " MiB/s"
  | whitespace count => "  whitespace:  " ++ toString count.toNat

end ReportLine

def Report.lines (report : Report) : List ReportLine :=
  [.title report.mode, .buffer report.bufferLength, .parallel report.parallel,
    .iterations report.iterations, .total report.total, .onePass report.millisPerPass,
    .throughput report.mebibytesPerSecond, .whitespace report.whitespace]

inductive Event where
  | noConfiguration (path : String)
  | warmupExceeds (warmup iterations : UInt32)
  | starting (version : String)
  | architecture (name : String)
  | generatingFromEntropy (length : UInt64)
  | generatingFromSeed (length seed : UInt64)
  | bufferReady (length : Nat) (head : String)
  | parallelReady (threads chunkSize : UInt64)
  | harnessReady (length : Nat) (mode : ScanMode) (parallel : Bool)
  | warmedUp (passes : UInt32) (elapsed : Duration)
  | completed (report : Report)
  | reported (line : ReportLine)

namespace Event

def level : Event -> Level
  | noConfiguration _ => .debug
  | warmupExceeds _ _ => .warn
  | starting _ => .info
  | architecture _ => .info
  | generatingFromEntropy _ => .info
  | generatingFromSeed _ _ => .info
  | bufferReady _ _ => .debug
  | parallelReady _ _ => .debug
  | harnessReady _ _ _ => .info
  | warmedUp _ _ => .debug
  | completed _ => .info
  | reported _ => .info

/-- The part of the program that an event comes from, as filters name it. -/
def target : Event -> String
  | noConfiguration _ => "char_scanner::config::loader"
  | warmupExceeds _ _ => "char_scanner::config::validator"
  | starting _ => "char_scanner"
  | architecture _ => "char_scanner"
  | generatingFromEntropy _ => "char_scanner::buffer::generator"
  | generatingFromSeed _ _ => "char_scanner::buffer::generator"
  | bufferReady _ _ => "char_scanner::buffer::generator"
  | parallelReady _ _ => "char_scanner::scanner::parallel"
  | harnessReady _ _ _ => "char_scanner::harness"
  | warmedUp _ _ => "char_scanner::harness"
  | completed _ => "char_scanner::harness"
  | reported _ => "char_scanner::harness"

def message : Event -> String
  | noConfiguration path => "No configuration at " ++ path ++ ", using defaults"
  | warmupExceeds warmup iterations =>
      "Warmup iterations (" ++ toString warmup.toNat ++ ") exceed measured iterations (" ++
        toString iterations.toNat ++ ")"
  | starting version => "Starting char-scanner v" ++ version
  | architecture name => "Architecture: " ++ name
  | generatingFromEntropy length =>
      "Generating " ++ toString length.toNat ++ " byte buffer from OS entropy"
  | generatingFromSeed length seed =>
      "Generating " ++ toString length.toNat ++ " byte buffer from seed " ++ toString seed.toNat
  | bufferReady _ _ => "Buffer ready"
  | parallelReady threads chunkSize =>
      "Parallel scanner ready: " ++ toString threads.toNat ++ " threads, " ++
        toString chunkSize.toNat ++ " byte chunks"
  | harnessReady length mode parallel =>
      "Harness ready: " ++ toString length ++ " bytes, mode=" ++ mode.name ++ ", parallel=" ++
        toString parallel
  | warmedUp passes elapsed =>
      "Warmup: " ++ toString passes.toNat ++ " passes in " ++ elapsed.text
  | completed report =>
      "Completed " ++ toString report.iterations.toNat ++ " passes in " ++ report.total.text ++
        " (" ++ Decimal.fixed 3 report.millisPerPass ++ " ms/op)"
  | reported line => line.text

def fields : Event -> List (String × String)
  | bufferReady length head => [("len", toString length), ("head", head)]
  | _ => []

/-- The fields as they follow the message. -/
def fieldText (event : Event) : String :=
  String.join (event.fields.map fun field => " " ++ field.1 ++ "=" ++ field.2)

/-- The event as one line: level, message and fields. -/
def text (event : Event) : String :=
  event.level.name ++ " " ++ event.message ++ event.fieldText

end Event

/-- A result together with what was logged on the way to it. -/
structure Logged (Result : Type) where
  events : List Event
  result : Result

namespace Logged

/-- Puts events in front of those of a later step. -/
def after {Result : Type} (events : List Event) (later : Logged Result) : Logged Result :=
  ⟨events ++ later.events, later.result⟩

end Logged
end WhitespaceBench
