import Mathlib
import WhitespaceBench.Config.File

namespace WhitespaceBench

/-!
# Which configurations are admissible

The conditions on a configuration are listed here as plain facts about its settings, each
with the text that is given when it is violated.  Validation accepts a configuration exactly
if all of them hold, and otherwise names the first that does not.

The log level is compared after the full mapping to lowercase, which reaches far beyond ASCII.
That admits no further level: of all characters beyond ASCII only the Kelvin sign becomes a
small letter of ASCII, a `k`, which no level has.
-/

namespace Text
namespace Lowercase

/-! ## Lowercase forms in ASCII -/

/-- The small letters of ASCII, but for the one that is also the form of a character beyond. -/
def IsPlainLetter (letter : Char) : Prop :=
  0x61 ≤ letter.toNat ∧ letter.toNat ≤ 0x7A ∧ letter.toNat ≠ 0x6B

/-- No run leads into ASCII, except for the Kelvin sign alone. -/
theorem target_of_contains {run : Run} (listed : run ∈ runs) {code : Nat}
    (contained : run.contains code = true) :
    0x80 ≤ run.target code ∨ run.target code = 0x6B := by
  have ends : forall run, run ∈ runs ->
      0x80 ≤ (run.first : Int) + run.distance ∨ run = ⟨0x212A, 0x212A, 1, -8383⟩ := by
    decide +kernel
  simp only [Run.contains, Bool.and_eq_true, decide_eq_true_eq] at contained
  rcases ends run listed with above | rfl
  · left
    unfold Run.target
    omega
  · right
    have only : code = 0x212A := Nat.le_antisymm contained.1.2 contained.1.1
    rw [only]
    rfl

theorem not_isPlainLetter_ofNat {code : Nat} (outside : 0x80 ≤ code ∨ code = 0x6B) :
    Not (IsPlainLetter (Char.ofNat code)) := by
  intro plain
  rw [IsPlainLetter, Char.toNat_ofNat] at plain
  split at plain <;> omega

theorem character_of_ascii {letter : Char} (ascii : letter.toNat < 0x80) :
    character letter = [letter.toLower] := by
  have each : forall code, code < 0x80 ->
      character (Char.ofNat code) = [(Char.ofNat code).toLower] := by decide
  have same := each letter.toNat ascii
  rwa [Char.ofNat_toNat] at same

/-- The form of a character beyond ASCII never consists of plain letters. -/
theorem character_of_beyond {letter : Char} (beyond : Not (letter.toNat < 0x80)) :
    exists other, other ∈ character letter ∧ Not (IsPlainLetter other) := by
  unfold character
  dsimp only
  rw [if_neg beyond]
  split
  · exact ⟨Char.ofNat 0x307, by simp, not_isPlainLetter_ofNat (by decide)⟩
  · split
    · rename_i run found
      have contained := List.find?_some found
      have outside := target_of_contains (List.mem_of_find?_eq_some found) contained
      exact ⟨_, List.mem_singleton_self _, not_isPlainLetter_ofNat outside⟩
    · refine ⟨letter, List.mem_singleton_self _, fun plain => ?_⟩
      rcases plain with ⟨_, above, _⟩
      omega

theorem not_isPlainLetter_of_beyond {letter : Char} (beyond : Not (letter.toNat < 0x80)) :
    Not (IsPlainLetter letter) := by
  rintro ⟨_, above, _⟩
  omega

/-- Beyond ASCII there are no capitals of ASCII. -/
theorem toLower_of_beyond {letter : Char} (beyond : Not (letter.toNat < 0x80)) :
    letter.toLower = letter := by
  have large : Not (letter.val ≤ 'Z'.val) := by
    rw [UInt32.le_iff_toNat_le]
    exact fun small => beyond (Nat.lt_of_le_of_lt small (by decide))
  exact dif_neg fun capital => large capital.2

/-- Where the form has plain letters only, the full mapping and that of ASCII agree: neither
maps any other text to it. -/
theorem after_eq_iff (passed text : List Char) {form : List Char}
    (plain : forall letter, letter ∈ form -> IsPlainLetter letter) :
    after passed text = form <-> text.map Char.toLower = form := by
  induction text generalizing passed form with
  | nil => rfl
  | cons letter rest ih =>
      rw [List.map_cons, after]
      by_cases ascii : letter.toNat < 0x80
      · have noSigma : letter.toNat ≠ 0x3A3 := by omega
        rw [if_neg noSigma, character_of_ascii ascii, List.singleton_append]
        cases form with
        | nil => simp
        | cons first others =>
            rw [List.cons.injEq, List.cons.injEq]
            exact and_congr_right fun _ => ih _ (List.forall_mem_cons.mp plain).2
      · rw [toLower_of_beyond ascii]
        constructor
        · rintro rfl
          exfalso
          split at plain
          · have sigma := (List.forall_mem_cons.mp plain).1
            split at sigma <;> exact not_isPlainLetter_ofNat (by decide) sigma
          · rcases character_of_beyond ascii with ⟨other, member, strange⟩
            exact strange (plain other (List.mem_append_left _ member))
        · rintro rfl
          exact absurd (plain letter List.mem_cons_self) (not_isPlainLetter_of_beyond ascii)

end Lowercase

theorem lowercase_eq_iff (text form : String)
    (plain : forall letter, letter ∈ form.toList -> Lowercase.IsPlainLetter letter) :
    lowercase text = form <-> text.toList.map Char.toLower = form.toList := by
  rw [← Lowercase.after_eq_iff [] text.toList plain, lowercase, ← String.toList_inj,
    String.toList_ofList]

end Text

/-! ## Conditions -/

namespace Config

/-- A condition on a configuration, and what is said where it is violated. -/
structure Condition where
  Holds : Prop
  text : String

/-- The first of several conditions that does not hold. -/
inductive Condition.IsFirstViolated : List Condition -> Condition -> Prop where
  | here {condition : Condition} {others : List Condition} (violated : Not condition.Holds) :
      IsFirstViolated (condition :: others) condition
  | later {condition first : Condition} {others : List Condition} (holds : condition.Holds)
      (found : IsFirstViolated others first) : IsFirstViolated (condition :: others) first

/-- The conditions on the buffer, the scanner and the passes, in the order of checking. -/
def passConditions (config : Config) : List Condition := [
  ⟨1 ≤ config.buffer.length.toNat, "Buffer length must be greater than 0"⟩,
  ⟨config.buffer.length.toNat ≤ 2 ^ 30, "Buffer length cannot exceed 1073741824 bytes"⟩,
  ⟨1 ≤ config.scanner.maxThreads.toNat, "Scanner threads must be at least 1"⟩,
  ⟨config.scanner.maxThreads.toNat ≤ 128, "Scanner threads cannot exceed 128"⟩,
  ⟨exists exponent, exponent < 64 ∧ config.scanner.chunkSize.toNat = 2 ^ exponent,
    "Chunk size must be a power of 2"⟩,
  ⟨Not (config.scanner.parallel = true ∧ config.scanner.mode = .chars),
    "Parallel scanning is only supported in bytes mode"⟩,
  ⟨1 ≤ config.harness.iterations.toNat, "Harness iterations must be at least 1"⟩]

/-- The condition on the log level: it is one of six names, up to the case of its letters in
ASCII. -/
def levelCondition (config : Config) : Condition where
  Holds := exists name, name ∈ ["trace", "debug", "info", "warn", "error", "off"] ∧
    config.logging.level.toList.map Char.toLower = name.toList
  text := "Invalid log level: " ++ config.logging.level ++ ". Must be one of: " ++
    "[\x22trace\x22, \x22debug\x22, \x22info\x22, \x22warn\x22, \x22error\x22, \x22off\x22]"

def conditions (config : Config) : List Condition :=
  config.passConditions ++ [config.levelCondition]

theorem Condition.IsFirstViolated.unique {conditions : List Condition} {first second : Condition}
    (found : IsFirstViolated conditions first) (other : IsFirstViolated conditions second) :
    first = second := by
  induction found with
  | here violated =>
      cases other with
      | here => rfl
      | later holds => exact absurd holds violated
  | later holds _ ih =>
      cases other with
      | here violated => exact absurd holds violated
      | later _ other => exact ih other

theorem Condition.IsFirstViolated.not_forall {conditions : List Condition} {first : Condition}
    (found : IsFirstViolated conditions first) :
    Not (forall condition, condition ∈ conditions -> condition.Holds) := by
  intro all
  induction found with
  | here violated => exact violated (all _ List.mem_cons_self)
  | later _ _ ih => exact ih (List.forall_mem_cons.mp all).2

/-! ## Checks -/

/-- What is found by checking conditions in order: nothing where all hold, and otherwise the
first that is violated, in its own words. -/
def Finds (found : Option Violation) (conditions : List Condition) : Prop :=
  match found with
  | none => forall condition, condition ∈ conditions -> condition.Holds
  | some violation =>
      exists condition, Condition.IsFirstViolated conditions condition ∧
        violation.message = condition.text

@[simp] theorem finds_nil : Finds none [] :=
  List.forall_mem_nil _

/-- One more check in front. -/
theorem Finds.cons {test : Prop} [Decidable test] {violation : Violation}
    {condition : Condition} {found : Option Violation} {conditions : List Condition}
    (others : Finds found conditions) (fails : test <-> Not condition.Holds)
    (worded : violation.message = condition.text) :
    Finds (if test then some violation else found) (condition :: conditions) := by
  by_cases failed : test
  · rw [if_pos failed]
    exact ⟨condition, .here (fails.mp failed), worded⟩
  · rw [if_neg failed]
    have holds : condition.Holds := not_not.mp fun violated => failed (fails.mpr violated)
    cases found with
    | none => exact List.forall_mem_cons.mpr ⟨holds, others⟩
    | some violation =>
        rcases others with ⟨first, violated, worded⟩
        exact ⟨first, .later holds violated, worded⟩

/-- Later conditions are checked only if all earlier ones hold. -/
theorem Finds.append {first second : Option Violation} {earlier later : List Condition}
    (before : Finds first earlier) (behind : Finds second later) :
    Finds (first <|> second) (earlier ++ later) := by
  cases first with
  | some violation =>
      rcases before with ⟨condition, violated, worded⟩
      refine ⟨condition, ?_, worded⟩
      induction violated with
      | here violated => exact .here violated
      | later holds _ ih => exact .later holds (ih worded)
  | none =>
      change Finds second (earlier ++ later)
      cases second with
      | none => exact List.forall_mem_append.mpr ⟨before, behind⟩
      | some violation =>
          rcases behind with ⟨condition, violated, worded⟩
          refine ⟨condition, ?_, worded⟩
          induction earlier with
          | nil => exact violated
          | cons condition earlier ih =>
              have holds := List.forall_mem_cons.mp before
              exact .later holds.1 (ih holds.2)

theorem Finds.eq_none_iff {found : Option Violation} {conditions : List Condition}
    (finds : Finds found conditions) :
    found = none <-> forall condition, condition ∈ conditions -> condition.Holds := by
  cases found with
  | none => exact iff_of_true rfl finds
  | some violation =>
      rcases finds with ⟨first, violated, _⟩
      exact iff_of_false (Option.some_ne_none violation) violated.not_forall

theorem Finds.eq_some_iff {found : Option Violation} {conditions : List Condition}
    (finds : Finds found conditions) {text : String} :
    (exists violation, found = some violation ∧ violation.message = text) <->
      exists condition, Condition.IsFirstViolated conditions condition ∧ condition.text = text := by
  constructor
  · rintro ⟨violation, rfl, rfl⟩
    rcases finds with ⟨first, violated, worded⟩
    exact ⟨first, violated, worded.symm⟩
  · rintro ⟨condition, violated, rfl⟩
    cases found with
    | none => exact absurd finds violated.not_forall
    | some violation =>
        rcases finds with ⟨first, other, worded⟩
        exact ⟨violation, rfl, worded.trans (congrArg Condition.text (other.unique violated))⟩

theorem isPowerOfTwo_iff (word : UInt64) :
    isPowerOfTwo word = true <-> exists exponent, exponent < 64 ∧ word.toNat = 2 ^ exponent := by
  rw [isPowerOfTwo, decide_eq_true_eq]
  constructor
  · intro power
    refine ⟨word.toNat.log2, ?_, power⟩
    have below : 2 ^ word.toNat.log2 < 2 ^ 64 := power.symm.trans_lt word.toNat_lt
    exact (Nat.pow_lt_pow_iff_right (by decide)).mp below
  · rintro ⟨exponent, _, power⟩
    rw [power, Nat.log2_two_pow]
    rfl

theorem bufferViolation?_finds (config : Config) :
    Finds (bufferViolation? config.buffer) (config.passConditions.take 2) := by
  refine .cons (.cons finds_nil ?_ rfl) ?_ rfl
  · exact Nat.not_le.symm
  · change _ <-> Not (1 ≤ config.buffer.length.toNat)
    omega

theorem scannerViolation?_finds (config : Config) :
    Finds (scannerViolation? config.scanner) ((config.passConditions.drop 2).take 4) := by
  refine .cons (.cons (.cons (.cons finds_nil ?_ rfl) ?_ rfl) ?_ rfl) ?_ rfl
  · change _ <-> Not (Not (config.scanner.parallel = true ∧ config.scanner.mode = .chars))
    rw [not_not, Bool.and_eq_true, decide_eq_true_eq]
  · rw [Bool.not_eq_true', Bool.eq_false_iff]
    exact not_congr (isPowerOfTwo_iff config.scanner.chunkSize)
  · exact Nat.not_le.symm
  · change _ <-> Not (1 ≤ config.scanner.maxThreads.toNat)
    omega

theorem harnessViolation?_finds (config : Config) :
    Finds (harnessViolation? config.harness) (config.passConditions.drop 6) := by
  refine .cons finds_nil ?_ rfl
  change _ <-> Not (1 ≤ config.harness.iterations.toNat)
  rw [← UInt32.toNat_inj, UInt32.toNat_zero]
  omega

theorem isPlainLetter_of_levels {name : String} (listed : name ∈ Violation.levels) :
    forall letter, letter ∈ name.toList -> Text.Lowercase.IsPlainLetter letter := by
  unfold Text.Lowercase.IsPlainLetter
  simp only [Violation.levels, List.mem_cons, List.not_mem_nil, or_false] at listed
  rcases listed with rfl | rfl | rfl | rfl | rfl | rfl <;> simp

theorem message_unknownLevel (config : Config) :
    (Violation.unknownLevel config.logging.level).message = config.levelCondition.text := by
  have names : Violation.listed Violation.levels =
      "[\x22trace\x22, \x22debug\x22, \x22info\x22, \x22warn\x22, \x22error\x22, \x22off\x22]" := by
    decide +kernel
  unfold Violation.message levelCondition
  dsimp only
  rw [names]

theorem loggingViolation?_finds (config : Config) :
    Finds (loggingViolation? config.logging) [config.levelCondition] := by
  have known : Violation.levels.contains (Text.lowercase config.logging.level) = true <->
      config.levelCondition.Holds := by
    rw [List.contains_iff_mem]
    constructor
    · intro listed
      exact ⟨_, listed, (Text.lowercase_eq_iff _ _ (isPlainLetter_of_levels listed)).mp rfl⟩
    · rintro ⟨name, listed, same⟩
      rwa [(Text.lowercase_eq_iff _ _ (isPlainLetter_of_levels listed)).mpr same]
  rw [loggingViolation?, ← ite_not]
  exact .cons finds_nil (not_congr known) (message_unknownLevel config)

/-- The first condition on buffer, scanner and passes that is violated. -/
def passViolation? (config : Config) : Option Violation :=
  bufferViolation? config.buffer <|>
    (scannerViolation? config.scanner <|> harnessViolation? config.harness)

theorem passViolation?_finds (config : Config) :
    Finds config.passViolation? config.passConditions :=
  (bufferViolation?_finds config).append
    ((scannerViolation?_finds config).append (harnessViolation?_finds config))

/-- Validation is the check of the passes and then, with the warning, that of the level. -/
theorem validate_eq (config : Config) :
    config.validate =
      match config.passViolation? with
      | some violation => ⟨[], .error violation⟩
      | none => ⟨warmupWarning config.harness,
          match loggingViolation? config.logging with
          | some violation => .error violation
          | none => .ok ()⟩ := by
  unfold validate passViolation?
  cases bufferViolation? config.buffer with
  | some violation => rfl
  | none =>
      cases scannerViolation? config.scanner with
      | some violation => rfl
      | none =>
          cases harnessViolation? config.harness with
          | some violation => rfl
          | none => cases loggingViolation? config.logging <;> rfl

/-- What the check of all conditions finds is the result of the validation. -/
theorem validate_result (config : Config) :
    config.validate.result =
      match config.passViolation? <|> loggingViolation? config.logging with
      | some violation => .error violation
      | none => .ok () := by
  rw [validate_eq]
  cases config.passViolation? with
  | some violation => rfl
  | none => cases loggingViolation? config.logging <;> rfl

theorem validate_finds (config : Config) :
    Finds (config.passViolation? <|> loggingViolation? config.logging) config.conditions :=
  (passViolation?_finds config).append (loggingViolation?_finds config)

theorem validate_eq_ok_iff {config : Config} :
    config.validate.result = .ok () <->
      forall condition, condition ∈ config.conditions -> condition.Holds := by
  rw [← (validate_finds config).eq_none_iff, validate_result]
  cases config.passViolation? <|> loggingViolation? config.logging <;> simp

/-- What validation rules out for the later steps. -/
theorem bounds_of_validate {config : Config} (valid : config.validate.result = .ok ()) :
    config.buffer.length.toNat ≤ 0x40000000 ∧
      Not (config.scanner.parallel = true ∧ config.scanner.mode = .chars) := by
  have all := validate_eq_ok_iff.mp valid
  simp only [conditions, passConditions, List.cons_append, List.forall_mem_cons] at all
  rcases all with ⟨_, short, _, _, _, allowed, _⟩
  exact ⟨short, allowed⟩

/-- Events are logged exactly if the passes are admissible and there are more to warm up than
to measure. -/
theorem validate_events (config : Config) :
    config.validate.events =
      if config.harness.iterations.toNat < config.harness.warmupIterations.toNat ∧
          config.passViolation? = none then
        [.warmupExceeds config.harness.warmupIterations config.harness.iterations]
      else [] := by
  rw [validate_eq]
  cases config.passViolation? with
  | some violation => simp
  | none =>
      simp only [and_true]
      rfl

/-- A configuration is admissible exactly if all conditions hold.  Otherwise validation fails
with the words of the first condition that is violated.  The warning about passes to warm up
is given exactly if these exceed the measured passes and the conditions on buffer, scanner
and passes hold, whatever the log level. -/
theorem validate_iff_conditions (config : Config) :
    (config.validate.result = .ok () <->
      forall condition, condition ∈ config.conditions -> condition.Holds) ∧
    (forall text,
      (exists violation, config.validate.result = .error violation ∧
        (ConfigError.invalid violation).message = "Invalid configuration: " ++ text) <->
      exists condition, Condition.IsFirstViolated config.conditions condition ∧
        condition.text = text) ∧
    (config.validate.events =
        [.warmupExceeds config.harness.warmupIterations config.harness.iterations] <->
      config.harness.iterations.toNat < config.harness.warmupIterations.toNat ∧
        forall condition, condition ∈ config.passConditions -> condition.Holds) ∧
    (config.validate.events = [] <->
      Not (config.harness.iterations.toNat < config.harness.warmupIterations.toNat ∧
        forall condition, condition ∈ config.passConditions -> condition.Holds)) := by
  refine ⟨validate_eq_ok_iff, fun text => ?_, ?_⟩
  · rw [← (validate_finds config).eq_some_iff, validate_result]
    have worded (violation : Violation) :
        (ConfigError.invalid violation).message = "Invalid configuration: " ++ text <->
          violation.message = text := String.append_right_inj _
    simp only [worded]
    cases config.passViolation? <|> loggingViolation? config.logging <;> simp
  · rw [← (passViolation?_finds config).eq_none_iff, validate_events]
    split <;> simp [*]

end Config
end WhitespaceBench
