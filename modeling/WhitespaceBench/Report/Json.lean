import WhitespaceBench.Json.Decode
import WhitespaceBench.Report.Shape

namespace WhitespaceBench

/-!
# Reports in JSON

A report is written as one object without blanks, its members in declaration
order.  Reading takes them in any order.
-/

namespace Duration

def json (duration : Duration) : String :=
  "\x7b\x22secs\x22:" ++ toString duration.secs.toNat ++
    ",\x22nanos\x22:" ++ toString duration.nanos.toNat ++ "\x7d"

end Duration

namespace Report

/-- A report as an object on one line. -/
def json (report : Report) : String :=
  "\x7b\x22mode\x22:\x22" ++ report.mode.name ++
    "\x22,\x22parallel\x22:" ++ (if report.parallel then "true" else "false") ++
    ",\x22buffer_len\x22:" ++ toString report.bufferLength.toNat ++
    ",\x22iterations\x22:" ++ toString report.iterations.toNat ++
    ",\x22total\x22:" ++ report.total.json ++
    ",\x22whitespace\x22:" ++ toString report.whitespace.toNat ++ "\x7d"

def ofJson (text : String) : Except Json.Failure Report :=
  Json.decode Report.decode text.toList

end Report

namespace Summary

def ofJson (text : String) : Except Json.Failure Summary :=
  Json.decode Summary.decode text.toList

end Summary

namespace ScanMode

def ofJson (text : String) : Except Json.Failure ScanMode :=
  Json.decode ScanMode.decode text.toList

end ScanMode

namespace ReportFormat

def ofJson (text : String) : Except Json.Failure ReportFormat :=
  Json.decode ReportFormat.decode text.toList

end ReportFormat
end WhitespaceBench
