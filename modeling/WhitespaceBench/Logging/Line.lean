import WhitespaceBench.Event

namespace WhitespaceBench
namespace Logging

/-!
# Log lines

A log line starts with the time of day in universal time, to the microsecond, and the
level, which is padded to five characters.
-/

def padded (width number : Nat) : String :=
  let digits := toString number
  String.ofList (List.replicate (width - digits.length) '0') ++ digits

/-- The day, month and year of so many days after the first of March of the year zero.
Years are counted from March, so that a leap day is the last of its year. -/
def civilDate (days : Nat) : Nat × Nat × Nat :=
  let era := days / 146097
  let dayOfEra := days % 146097
  let yearOfEra := (dayOfEra - dayOfEra / 1460 + dayOfEra / 36524 - dayOfEra / 146096) / 365
  let dayOfYear := dayOfEra - (365 * yearOfEra + yearOfEra / 4 - yearOfEra / 100)
  let shifted := (5 * dayOfYear + 2) / 153
  let day := dayOfYear - (153 * shifted + 2) / 5 + 1
  let month := if shifted < 10 then shifted + 3 else shifted - 9
  let year := yearOfEra + era * 400 + (if month ≤ 2 then 1 else 0)
  (year, month, day)

/-- The days from the first of March of the year zero to the first of January 1970. -/
def epochDays : Nat := 719468

/-- The time so many microseconds after the start of 1970. -/
def timeText (micros : Nat) : String :=
  let seconds := micros / 1000000
  let (year, month, day) := civilDate (epochDays + seconds / 86400)
  let inDay := seconds % 86400
  padded 4 year ++ "-" ++ padded 2 month ++ "-" ++ padded 2 day ++ "T" ++
    padded 2 (inDay / 3600) ++ ":" ++ padded 2 (inDay / 60 % 60) ++ ":" ++
    padded 2 (inDay % 60) ++ "." ++ padded 6 (micros % 1000000) ++ "Z"

def line (micros : Nat) (event : Event) : String :=
  let level := event.level.name
  timeText micros ++ " " ++ String.ofList (List.replicate (5 - level.length) ' ') ++ level ++
    " " ++ event.message ++ event.fieldText

end Logging
end WhitespaceBench
