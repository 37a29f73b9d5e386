import Mathlib.Tactic.Ring
import WhitespaceBench.Report

namespace WhitespaceBench

/-!
# The mean time of a pass

The time of all passes is divided by their number in two parts: seconds and nanoseconds are
divided separately, and the seconds that remain are carried into the nanoseconds.  Since a
remainder is smaller than the divisor, the carried nanoseconds make less than one second
together with the others, so that the parts are those of a duration again.  No word on the way
overflows, and the parts make up the whole number of nanoseconds of the exact quotient.
-/

namespace Word

theorem add?_of_lt {first second : UInt64} (fits : first.toNat + second.toNat < UInt64.size) :
    exists sum, add? first second = some sum ∧ sum.toNat = first.toNat + second.toNat := by
  rw [add?, dif_pos fits]
  exact ⟨_, rfl, UInt64.toNat_ofNatLT ..⟩

theorem mul?_of_lt {first second : UInt64} (fits : first.toNat * second.toNat < UInt64.size) :
    exists product, mul? first second = some product ∧
      product.toNat = first.toNat * second.toNat := by
  rw [mul?, dif_pos fits]
  exact ⟨_, rfl, UInt64.toNat_ofNatLT ..⟩

theorem narrow?_of_lt {wide : UInt64} (fits : wide.toNat < UInt32.size) :
    exists narrow, narrow? wide = some narrow ∧ narrow.toNat = wide.toNat := by
  rw [narrow?, dif_pos fits]
  exact ⟨_, rfl, UInt32.toNat_ofNatLT ..⟩

theorem add32?_of_lt {first second : UInt32} (fits : first.toNat + second.toNat < UInt32.size) :
    exists sum, add32? first second = some sum ∧ sum.toNat = first.toNat + second.toNat := by
  rw [add32?, dif_pos fits]
  exact ⟨_, rfl, UInt32.toNat_ofNatLT ..⟩

theorem toNat_pos {word : UInt32} (nonzero : word ≠ 0) : 0 < word.toNat :=
  Nat.pos_of_ne_zero fun zero => nonzero (UInt32.toNat_inj.mp zero)

end Word

namespace Duration

/-! ## Division in two parts -/

/-- A number of two parts is divided part by part, where what remains of the first is carried
into the second. -/
theorem divided_parts {count : Nat} (pos : 0 < count) (whole part base : Nat) :
    (whole * base + part) / count =
      whole / count * base + (part / count + (whole % count * base + part % count) / count) := by
  have separated : whole * base + part =
      count * (whole / count * base + part / count) + (whole % count * base + part % count) :=
    calc whole * base + part
      _ = (count * (whole / count) + whole % count) * base +
            (count * (part / count) + part % count) := by rw [Nat.div_add_mod, Nat.div_add_mod]
      _ = _ := by ring
  rw [separated, Nat.mul_add_div pos, Nat.add_assoc]

/-- The carried part does not spill over. -/
theorem carried_part_lt {count : Nat} (pos : 0 < count) (whole : Nat) {part base : Nat}
    (small : part < base) :
    part / count + (whole % count * base + part % count) / count < base := by
  -- What remains of the whole has no whole quotient, so these are the parts of its quotient.
  have quotient := divided_parts pos (whole % count) part base
  rw [Nat.div_eq_of_lt (Nat.mod_lt whole pos), Nat.zero_mul, Nat.zero_add, Nat.mod_mod] at quotient
  rw [← quotient]
  apply Nat.div_lt_of_lt_mul
  calc whole % count * base + part
    _ < whole % count * base + base := Nat.add_lt_add_left small _
    _ = (whole % count + 1) * base := (Nat.succ_mul _ _).symm
    _ ≤ count * base := Nat.mul_le_mul_right base (Nat.mod_lt whole pos)

/-! ## Division in words -/

variable (duration : Duration) (count : UInt32)

/-- The nanoseconds that remain of both parts. -/
def remainder : Nat :=
  duration.secs.toNat % count.toNat * nanosPerSecond + duration.nanos.toNat % count.toNat

/-- Every step of a division fits in its word, and the nanoseconds in a second. -/
structure StepsFit : Prop where
  carried : duration.secs.toNat % count.toNat * nanosPerSecond < 2 ^ 64
  rest : duration.remainder count < 2 ^ 64
  extra : duration.remainder count / count.toNat < 2 ^ 32
  nanos : duration.nanos.toNat / count.toNat + duration.remainder count / count.toNat <
    nanosPerSecond

variable {duration count}

theorem stepsFit (divisor : 0 < count.toNat) : StepsFit duration count := by
  have seconds : duration.secs.toNat % count.toNat < 2 ^ 32 :=
    Nat.lt_trans (Nat.mod_lt _ divisor) count.toNat_lt
  have rest : duration.nanos.toNat % count.toNat < 2 ^ 32 :=
    Nat.lt_trans (Nat.mod_lt _ divisor) count.toNat_lt
  have nanos : duration.nanos.toNat / count.toNat + duration.remainder count / count.toNat <
      nanosPerSecond := carried_part_lt divisor _ duration.nanos_lt
  have short : nanosPerSecond < 2 ^ 32 := by decide
  refine ⟨?_, ?_, ?_, nanos⟩
  · rw [nanosPerSecond]
    omega
  · rw [remainder, nanosPerSecond]
    omega
  · exact Nat.lt_trans (Nat.lt_of_le_of_lt (Nat.le_add_left _ _) nanos) short

/-- Where the steps fit, the words of the quotient are the numbers that they stand for. -/
theorem div?_of_stepsFit (divisor : count ≠ 0) (fit : StepsFit duration count) :
    exists quotient, duration.div? count = some quotient ∧
      quotient.secs.toNat = duration.secs.toNat / count.toNat ∧
      quotient.nanos.toNat =
        duration.nanos.toNat / count.toNat + duration.remainder count / count.toNat := by
  have wide : count.toUInt64.toNat = count.toNat := UInt32.toNat_toUInt64 count
  have seconds : (duration.secs % count.toUInt64).toNat = duration.secs.toNat % count.toNat := by
    rw [UInt64.toNat_mod, wide]
  have rest : (duration.nanos % count).toUInt64.toNat =
      duration.nanos.toNat % count.toNat := by
    rw [UInt32.toNat_toUInt64, UInt32.toNat_mod]
  have carries : (duration.secs % count.toUInt64).toNat * (1000000000 : UInt64).toNat <
      UInt64.size := by
    rw [seconds]
    exact fit.carried
  rcases Word.mul?_of_lt carries with ⟨carried, multiplied, exactCarried⟩
  have sums : carried.toNat + (duration.nanos % count).toUInt64.toNat =
      duration.remainder count := by
    rw [exactCarried, seconds, rest]
    rfl
  rcases Word.add?_of_lt (sums.trans_lt fit.rest) with ⟨remaining, added, exactRemaining⟩
  have divided : (remaining / count.toUInt64).toNat =
      duration.remainder count / count.toNat := by
    rw [UInt64.toNat_div, exactRemaining, sums, wide]
  rcases Word.narrow?_of_lt (divided.trans_lt fit.extra) with ⟨extra, narrowed, exactExtra⟩
  have whole : (duration.nanos / count).toNat + extra.toNat =
      duration.nanos.toNat / count.toNat + duration.remainder count / count.toNat := by
    rw [UInt32.toNat_div, exactExtra, divided]
  have normal := whole.trans_lt fit.nanos
  have short : nanosPerSecond < UInt32.size := by decide
  rcases Word.add32?_of_lt (Nat.lt_trans normal short) with ⟨nanos, summed, exactNanos⟩
  have part : nanos.toNat < 1000000000 := exactNanos.trans_lt normal
  refine ⟨⟨duration.secs / count.toUInt64, nanos, part⟩, ?_, ?_, ?_⟩
  · simp only [div?, if_neg divisor, multiplied, added, narrowed, summed, Option.bind_some]
    exact dif_pos part
  · rw [UInt64.toNat_div, wide]
  · rw [exactNanos, whole]

/-- Division rounds down to a whole number of nanoseconds. -/
theorem div?_floor (duration : Duration) {count : UInt32} (divisor : count ≠ 0) :
    exists quotient, duration.div? count = some quotient ∧
      quotient.toNanos = duration.toNanos / count.toNat := by
  have pos := Word.toNat_pos divisor
  rcases div?_of_stepsFit divisor (stepsFit pos) with ⟨quotient, found, seconds, nanos⟩
  refine ⟨quotient, found, ?_⟩
  rw [toNanos, toNanos, seconds, nanos]
  exact (divided_parts pos _ _ _).symm

end Duration

namespace Report

/-- The mean time of a pass is no time if there was none.  Otherwise every step of its
computation fits in its word, and the mean time is the exact quotient, rounded down to a whole
number of nanoseconds: as many passes of this time take no longer than all passes took, and with
one nanosecond more for each they would take longer. -/
theorem perIteration_floor (report : Report) :
    report.perIteration.nanos.toNat < 10 ^ 9 ∧
    (report.iterations = 0 -> report.perIteration = Duration.zero) ∧
    (report.iterations ≠ 0 ->
      Duration.StepsFit report.total report.iterations ∧
      report.total.div? report.iterations = some report.perIteration ∧
      report.perIteration.toNanos = report.total.toNanos / report.iterations.toNat ∧
      report.iterations.toNat * report.perIteration.toNanos ≤ report.total.toNanos ∧
      report.total.toNanos < report.iterations.toNat * (report.perIteration.toNanos + 1)) := by
  refine ⟨report.perIteration.nanos_lt, fun none => if_pos none, fun divisor => ?_⟩
  have pos := Word.toNat_pos divisor
  rcases report.total.div?_floor divisor with ⟨quotient, found, floor⟩
  have mean : report.perIteration = quotient := by
    rw [perIteration, if_neg divisor, found, Option.getD_some]
  rw [mean, found, floor]
  exact ⟨Duration.stepsFit pos, rfl, rfl, Nat.mul_div_le _ _, Nat.lt_mul_div_succ _ pos⟩

/-- The most that can remain of the seconds is carried into the most nanoseconds. -/
theorem perIteration_floor_carried :
    let report : Report :=
      ⟨.bytes, false, 1, 0xFFFFFFFF, ⟨0xFFFFFFFFFFFFFFFE, 999999999, by decide⟩, 0⟩
    report.iterations ≠ 0 ∧
      report.total.div? report.iterations = some report.perIteration ∧
      report.perIteration.toNanos = 4294967296999999999 := by
  intro report
  have divisor : report.iterations ≠ 0 := by decide
  rcases perIteration_floor report with ⟨_, _, mean⟩
  rcases mean divisor with ⟨_, found, floor, _⟩
  exact ⟨divisor, found, floor.trans (by decide)⟩

end Report
end WhitespaceBench
