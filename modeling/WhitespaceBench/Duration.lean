import WhitespaceBench.Word

namespace WhitespaceBench

/-!
# Durations

A duration is a number of seconds in 64 bits and a number of nanoseconds below
one second.  Division by a count divides both parts and carries the remaining
seconds over, in words; the text form picks the largest unit with a whole part
and writes the exact fraction without trailing zeros.
-/

/-- A span of time, exact to the nanosecond. -/
structure Duration where
  secs : UInt64
  nanos : UInt32
  nanos_lt : nanos.toNat < 1000000000 := by decide
deriving DecidableEq

namespace Duration

def zero : Duration := ⟨0, 0, by decide⟩

def nanosPerSecond : Nat := 1000000000

def toNanos (duration : Duration) : Nat :=
  duration.secs.toNat * nanosPerSecond + duration.nanos.toNat

/-- A duration from its parts.  Whole seconds among the nanoseconds are carried,
and there is no result when the seconds then overflow. -/
def ofParts? (secs : UInt64) (nanos : UInt32) : Option Duration :=
  match Word.add? secs (UInt64.ofNat (nanos.toNat / nanosPerSecond)) with
  | none => none
  | some carried =>
      some ⟨carried, UInt32.ofNat (nanos.toNat % nanosPerSecond), by
        have small : nanos.toNat % nanosPerSecond < nanosPerSecond :=
          Nat.mod_lt _ (by decide)
        have word : nanosPerSecond < UInt32.size := by decide
        have fits : nanos.toNat % nanosPerSecond < UInt32.size := Nat.lt_trans small word
        rw [UInt32.toNat_ofNat_of_lt' fits]
        exact small⟩

/-- A duration of so many nanoseconds, as far as 64 bits of seconds reach. -/
def ofNanos (nanos : Nat) : Duration :=
  ⟨UInt64.ofNat (nanos / nanosPerSecond), UInt32.ofNat (nanos % nanosPerSecond), by
    have small : nanos % nanosPerSecond < nanosPerSecond := Nat.mod_lt _ (by decide)
    have word : nanosPerSecond < UInt32.size := by decide
    have fits : nanos % nanosPerSecond < UInt32.size := Nat.lt_trans small word
    rw [UInt32.toNat_ofNat_of_lt' fits]
    exact small⟩

/-- Division by a count.  Seconds and nanoseconds are divided separately, and the
seconds that remain are carried into the nanoseconds.  There is no result for a
count of zero, or if a step did not fit in its word. -/
def div? (duration : Duration) (count : UInt32) : Option Duration :=
  if count = 0 then none
  else
    let divisor := count.toUInt64
    let secs := duration.secs / divisor
    let restSecs := duration.secs % divisor
    let nanos := duration.nanos / count
    let restNanos := (duration.nanos % count).toUInt64
    (Word.mul? restSecs 1000000000).bind fun carried =>
      (Word.add? carried restNanos).bind fun rest =>
        (Word.narrow? (rest / divisor)).bind fun extra =>
          (Word.add32? nanos extra).bind fun total =>
            if normal : total.toNat < 1000000000 then some ⟨secs, total, normal⟩ else none

/-- The duration in seconds, rounded as the two conversions and the sum round. -/
def toSeconds (duration : Duration) : Float :=
  duration.secs.toFloat + duration.nanos.toFloat / 1.0e9

/-- The digits of a fraction, a digit for each power of ten below `scale`, with
trailing zeros dropped. -/
def fraction : (places : Nat) -> Nat -> List Char
  | 0, _ => []
  | places + 1, number =>
      if number = 0 then []
      else
        Char.ofNat (0x30 + number / Nat.pow 10 places) ::
          fraction places (number % Nat.pow 10 places)

/-- A whole part, the point and the fraction if there is one, and the unit. -/
def written (whole places part : Nat) (unit : String) : String :=
  match fraction places part with
  | [] => toString whole ++ unit
  | digits => toString whole ++ "." ++ String.ofList digits ++ unit

/-- The text form, in seconds, milliseconds, microseconds or nanoseconds. -/
def text (duration : Duration) : String :=
  let nanos := duration.nanos.toNat
  if 0 < duration.secs.toNat then written duration.secs.toNat 9 nanos "s"
  else if 1000000 ≤ nanos then written (nanos / 1000000) 6 (nanos % 1000000) "ms"
  else if 1000 ≤ nanos then written (nanos / 1000) 3 (nanos % 1000) "µs"
  else written nanos 0 0 "ns"

end Duration
end WhitespaceBench
