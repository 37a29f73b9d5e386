import WhitespaceBench.Decode.Shape
import WhitespaceBench.Report
import WhitespaceBench.Summary

namespace WhitespaceBench

open Decode

/-!
# How reports are read

The shapes of reports, summaries and durations.  All their fields are required.
A duration admits no other member, and it may be given with whole seconds among
its nanoseconds; these are carried, unless the seconds then overflow.
-/

variable {Value Error : Type}

namespace Duration

/-- A duration as given: its nanoseconds may exceed a second. -/
structure Parts where
  secs : UInt64
  nanos : UInt32
deriving Repr, DecidableEq

def shape (dialect : Dialect Value Error) : Shape Value Error Parts Duration where
  name := "Duration"
  strict := true
  counted := false
  initial := ⟨0, 0⟩
  fields := [
    ⟨"secs", true, storing (dialect.word "u64") fun secs parts =>
      { parts with secs := secs }⟩,
    ⟨"nanos", true, storing dialect.count fun nanos parts =>
      { parts with nanos := nanos }⟩]
  finish := fun parts =>
    match Duration.ofParts? parts.secs parts.nanos with
    | some duration => .ok duration
    | none => .error .durationOverflow

def decode (dialect : Dialect Value Error) (value : Value) : Except Error Duration :=
  dialect.record (shape dialect) value

end Duration

namespace Summary

def shape (dialect : Dialect Value Error) : Shape Value Error Summary Summary where
  name := "ScanSummary"
  strict := false
  counted := true
  initial := Summary.empty
  fields := [
    ⟨"scanned", true, storing dialect.size fun scanned summary =>
      { summary with scanned := scanned }⟩,
    ⟨"whitespace", true, storing dialect.size fun whitespace summary =>
      { summary with whitespace := whitespace }⟩]
  finish := .ok

def decode (dialect : Dialect Value Error) (value : Value) : Except Error Summary :=
  dialect.record (shape dialect) value

end Summary

namespace ScanMode

def decode (dialect : Dialect Value Error) (value : Value) : Except Error ScanMode :=
  dialect.choice variants value

end ScanMode

namespace ReportFormat

def decode (dialect : Dialect Value Error) (value : Value) : Except Error ReportFormat :=
  dialect.choice variants value

end ReportFormat

namespace Report

/-- The report that reading starts from. -/
def blank : Report := ⟨.default, false, 0, 0, .zero, 0⟩

def shape (dialect : Dialect Value Error) : Shape Value Error Report Report where
  name := "BenchReport"
  strict := false
  counted := true
  initial := blank
  fields := [
    ⟨"mode", true, storing (ScanMode.decode dialect) fun mode report =>
      { report with mode := mode }⟩,
    ⟨"parallel", true, storing dialect.boolean fun parallel report =>
      { report with parallel := parallel }⟩,
    ⟨"buffer_len", true, storing dialect.size fun length report =>
      { report with bufferLength := length }⟩,
    ⟨"iterations", true, storing dialect.count fun iterations report =>
      { report with iterations := iterations }⟩,
    ⟨"total", true, storing (Duration.decode dialect) fun total report =>
      { report with total := total }⟩,
    ⟨"whitespace", true, storing dialect.size fun whitespace report =>
      { report with whitespace := whitespace }⟩]
  finish := .ok

def decode (dialect : Dialect Value Error) (value : Value) : Except Error Report :=
  dialect.record (shape dialect) value

end Report
end WhitespaceBench
