import Mathlib
import WhitespaceBench.Buffer
import WhitespaceBench.Scan

namespace WhitespaceBench
namespace Text
namespace Utf8

/-!
# The lenient view keeps ASCII

Reading bytes leniently neither adds, drops nor moves an ASCII character.  A byte
below 0x80 never continues an unfinished sequence, so it always contributes its own
character; every other character is a replacement or comes from a finished sequence,
and a finished sequence stands for no ASCII character.

The last point needs an invariant.  A sequence that is still unfinished can become
any code point of one interval, and the range that the leading byte prescribes for
its successor keeps that interval above ASCII and clear of the surrogates.
-/

/-- The least code point that an unfinished sequence can still become. -/
def least (code needed : Nat) (low : UInt8) : Nat :=
  (code * 64 + (low.toNat - 0x80)) * 64 ^ (needed - 1)

/-- The bound below which every code point lies that an unfinished sequence can
still become. -/
def bound (code needed : Nat) (high : UInt8) : Nat :=
  (code * 64 + (high.toNat - 0x80) + 1) * 64 ^ (needed - 1)

/-- An unfinished sequence expects continuation bytes only, and whatever it becomes
is a scalar value outside ASCII. -/
structure Sound (code needed : Nat) (low high : UInt8) : Prop where
  low_continues : 0x80 ≤ low.toNat
  high_continues : high.toNat ≤ 0xBF
  needed_pos : 0 < needed
  above_ascii : 0x80 ≤ least code needed low
  scalar : bound code needed high ≤ 0xD800 ∨
    (0xE000 ≤ least code needed low ∧ bound code needed high ≤ 0x110000)

/-- A reader is sound if the sequence that it is in the middle of is. -/
def Pending.IsSound : Pending -> Prop
  | .idle => True
  | .awaiting code needed low high => Sound code needed low high

/-- When any continuation byte may follow, the code points are those with the given
leading bits. -/
theorem least_any (code needed : Nat) (pos : 0 < needed) :
    least code needed 0x80 = code * 64 ^ needed := by
  have split : 64 ^ needed = 64 * 64 ^ (needed - 1) := by
    rw [← Nat.pow_succ', Nat.succ_eq_add_one, Nat.sub_add_cancel pos]
  rw [split, ← Nat.mul_assoc]
  rfl

theorem bound_any (code needed : Nat) (pos : 0 < needed) :
    bound code needed 0xBF = (code + 1) * 64 ^ needed := by
  have split : 64 ^ needed = 64 * 64 ^ (needed - 1) := by
    rw [← Nat.pow_succ', Nat.succ_eq_add_one, Nat.sub_add_cancel pos]
  rw [split, ← Nat.mul_assoc, Nat.add_mul]
  rfl

/-- A sequence whose next byte may be any continuation byte is sound as soon as all
code points with its leading bits are scalar values outside ASCII. -/
theorem Sound.any {code needed : Nat} (pos : 0 < needed) (above : 0x80 ≤ code * 64 ^ needed)
    (scalar : (code + 1) * 64 ^ needed ≤ 0xD800 ∨
      (0xE000 ≤ code * 64 ^ needed ∧ (code + 1) * 64 ^ needed ≤ 0x110000)) :
    Sound code needed 0x80 0xBF where
  low_continues := by decide
  high_continues := by decide
  needed_pos := pos
  above_ascii := by rw [least_any code needed pos]; exact above
  scalar := by rw [least_any code needed pos, bound_any code needed pos]; exact scalar

/-- Every leading byte announces a sound sequence.  The four bytes that narrow the range
of their successor are checked one by one; the others form three intervals. -/
theorem Lead.of?_sound {byte : UInt8} {lead : Lead} (announced : Lead.of? byte = some lead) :
    Sound lead.payload lead.needed lead.low lead.high := by
  unfold Lead.of? at announced
  split at announced
  · cases announced
  rename_i notSmall
  have atLeast : 0xC2 ≤ byte.toNat := Nat.le_of_not_lt notSmall
  split at announced
  · rename_i two
    have atMost : byte.toNat ≤ 0xDF := two
    rcases Option.some.inj announced with rfl
    change Sound (byte.toNat - 0xC0) 1 0x80 0xBF
    exact Sound.any (by decide) (by omega) (by omega)
  rename_i notTwo
  have beyondTwo : 0xE0 ≤ byte.toNat := Nat.lt_of_not_le notTwo
  split at announced
  · rcases Option.some.inj announced with rfl
    exact ⟨by decide, by decide, by decide, by decide, by decide⟩
  rename_i notE0
  split at announced
  · rcases Option.some.inj announced with rfl
    exact ⟨by decide, by decide, by decide, by decide, by decide⟩
  rename_i notED
  have differsE0 : byte.toNat ≠ 0xE0 := fun same => notE0 (UInt8.toNat_inj.mp same)
  have differsED : byte.toNat ≠ 0xED := fun same => notED (UInt8.toNat_inj.mp same)
  split at announced
  · rename_i three
    have atMost : byte.toNat ≤ 0xEF := three
    rcases Option.some.inj announced with rfl
    change Sound (byte.toNat - 0xE0) 2 0x80 0xBF
    exact Sound.any (by decide) (by omega) (by omega)
  rename_i notThree
  have beyondThree : 0xF0 ≤ byte.toNat := Nat.lt_of_not_le notThree
  split at announced
  · rcases Option.some.inj announced with rfl
    exact ⟨by decide, by decide, by decide, by decide, by decide⟩
  rename_i notF0
  have differsF0 : byte.toNat ≠ 0xF0 := fun same => notF0 (UInt8.toNat_inj.mp same)
  split at announced
  · rename_i four
    have atMost : byte.toNat ≤ 0xF3 := four
    rcases Option.some.inj announced with rfl
    change Sound (byte.toNat - 0xF0) 3 0x80 0xBF
    exact Sound.any (by decide) (by omega) (by omega)
  split at announced
  · rcases Option.some.inj announced with rfl
    exact ⟨by decide, by decide, by decide, by decide, by decide⟩
  · cases announced

/-- A byte in the expected range extends the code by its six payload bits. -/
theorem Sound.payload {code needed : Nat} {low high byte : UInt8}
    (sound : Sound code needed low high) (inRange : low ≤ byte ∧ byte ≤ high) :
    byte.toNat % 64 = byte.toNat - 0x80 ∧ low.toNat - 0x80 ≤ byte.toNat - 0x80 ∧
      byte.toNat - 0x80 ≤ high.toNat - 0x80 := by
  have lowBound : low.toNat ≤ byte.toNat := inRange.1
  have highBound : byte.toNat ≤ high.toNat := inRange.2
  have lowContinues := sound.low_continues
  have highContinues := sound.high_continues
  omega

/-- Taking an expected byte narrows the interval of the code points, and leaves the
sequence sound if it is not finished. -/
theorem Sound.next {code needed : Nat} {low high byte : UInt8}
    (sound : Sound code needed low high) (inRange : low ≤ byte ∧ byte ≤ high)
    (unfinished : 1 < needed) :
    Sound (code * 64 + byte.toNat % 64) (needed - 1) 0x80 0xBF := by
  rcases sound.payload inRange with ⟨payload, atLeast, atMost⟩
  have least_le : least code needed low ≤ (code * 64 + byte.toNat % 64) * 64 ^ (needed - 1) :=
    Nat.mul_le_mul_right _ (by omega)
  have le_bound : (code * 64 + byte.toNat % 64 + 1) * 64 ^ (needed - 1) ≤
      bound code needed high :=
    Nat.mul_le_mul_right _ (by omega)
  apply Sound.any (Nat.sub_pos_of_lt unfinished)
  · exact Nat.le_trans sound.above_ascii least_le
  · rcases sound.scalar with below | ⟨above, inside⟩
    · exact Or.inl (Nat.le_trans le_bound below)
    · exact Or.inr ⟨Nat.le_trans above least_le, Nat.le_trans le_bound inside⟩

/-- The code point of a finished sequence is a scalar value outside ASCII. -/
theorem Sound.finished {code needed : Nat} {low high byte : UInt8}
    (sound : Sound code needed low high) (inRange : low ≤ byte ∧ byte ≤ high)
    (finished : needed ≤ 1) :
    0x80 ≤ code * 64 + byte.toNat % 64 ∧ (code * 64 + byte.toNat % 64).isValidChar := by
  rcases sound.payload inRange with ⟨payload, atLeast, atMost⟩
  have last : needed = 1 := Nat.le_antisymm finished sound.needed_pos
  subst last
  have above : 0x80 ≤ code * 64 + (low.toNat - 0x80) := by
    simpa only [least, Nat.sub_self, Nat.pow_zero, Nat.mul_one] using sound.above_ascii
  have scalar := sound.scalar
  simp only [least, bound, Nat.sub_self, Nat.pow_zero, Nat.mul_one] at scalar
  refine ⟨by omega, ?_⟩
  unfold Nat.isValidChar
  omega

/-! ## The ASCII characters of a text -/

/-- The ASCII characters of a text in order, each as its byte. -/
def asciiBytes (text : List Char) : List UInt8 :=
  (text.filter fun character => decide (character.toNat < 0x80)).map
    fun character => UInt8.ofNat character.toNat

/-- The bytes of a sequence that encode an ASCII character on their own. -/
def asciiOnly (bytes : List UInt8) : List UInt8 :=
  bytes.filter fun byte => decide (byte < 0x80)

@[simp] theorem asciiBytes_append (first second : List Char) :
    asciiBytes (first ++ second) = asciiBytes first ++ asciiBytes second := by
  simp only [asciiBytes, List.filter_append, List.map_append]

@[simp] theorem asciiBytes_of_ascii {byte : UInt8} (ascii : byte < 0x80) :
    asciiBytes [Char.ofNat byte.toNat] = [byte] := by
  have small : byte.toNat < 0x80 := ascii
  have valid : byte.toNat.isValidChar := Or.inl (by omega)
  have code : (Char.ofNat byte.toNat).toNat = byte.toNat := by
    rw [Char.toNat_ofNat, if_pos valid]
  simp only [asciiBytes, List.filter_cons, code, small, decide_true, if_true, List.filter_nil,
    List.map_cons, List.map_nil, UInt8.ofNat_toNat]

@[simp] theorem asciiBytes_of_above {code : Nat} (above : 0x80 ≤ code) (valid : code.isValidChar) :
    asciiBytes [Char.ofNat code] = [] := by
  have same : (Char.ofNat code).toNat = code := by rw [Char.toNat_ofNat, if_pos valid]
  simp only [asciiBytes, List.filter_cons, same, Nat.not_lt.mpr above, decide_false,
    Bool.false_eq_true, if_false, List.filter_nil, List.map_nil]

@[simp] theorem asciiBytes_replacement : asciiBytes [replacement] = [] :=
  asciiBytes_of_above (by decide) (by decide)

@[simp] theorem asciiOnly_of_above {byte : UInt8} (above : Not (byte < 0x80)) :
    asciiOnly [byte] = [] := by
  simp only [asciiOnly, List.filter_cons, above, decide_false, Bool.false_eq_true, if_false,
    List.filter_nil]

@[simp] theorem asciiOnly_of_ascii {byte : UInt8} (ascii : byte < 0x80) :
    asciiOnly [byte] = [byte] := by
  simp only [asciiOnly, List.filter_cons, ascii, decide_true, if_true, List.filter_nil]

/-! ## One byte, and all bytes -/

namespace Reader

/-- The ASCII characters that a reader has put out so far. -/
def ascii (reader : Reader) : List UInt8 :=
  asciiBytes reader.output.reverse

theorem ascii_cons (pending : Pending) (character : Char) (output : List Char) :
    ascii ⟨pending, character :: output⟩ = asciiBytes output.reverse ++ asciiBytes [character] := by
  simp [ascii]

theorem begin_isSound (output : List Char) (byte : UInt8) :
    (begin output byte).pending.IsSound := by
  unfold begin
  split
  · trivial
  · cases announced : Lead.of? byte with
    | none => trivial
    | some lead => exact Lead.of?_sound announced

/-- A byte that starts afresh contributes itself if it is ASCII, and nothing else. -/
theorem begin_ascii (output : List Char) (byte : UInt8) :
    (begin output byte).ascii = asciiBytes output.reverse ++ asciiOnly [byte] := by
  unfold begin
  by_cases small : byte < 0x80
  · rw [if_pos small, ascii_cons, asciiBytes_of_ascii small, asciiOnly_of_ascii small]
  · rw [if_neg small, asciiOnly_of_above small]
    cases Lead.of? byte with
    | none => exact (ascii_cons _ _ _).trans (by simp)
    | some lead => exact (List.append_nil _).symm

/-- No ASCII byte continues a sound sequence. -/
theorem not_ascii_of_inRange {code needed : Nat} {low high byte : UInt8}
    (sound : Sound code needed low high) (inRange : low ≤ byte ∧ byte ≤ high) :
    Not (byte < 0x80) := by
  intro small
  have below : byte.toNat < 0x80 := small
  have above : low.toNat ≤ byte.toNat := inRange.1
  exact Nat.not_lt.mpr (Nat.le_trans sound.low_continues above) below

theorem step_isSound (reader : Reader) (byte : UInt8) (sound : reader.pending.IsSound) :
    (reader.step byte).pending.IsSound := by
  rcases reader with ⟨pending, output⟩
  cases pending with
  | idle => exact begin_isSound output byte
  | awaiting code needed low high =>
      unfold step
      by_cases inRange : low ≤ byte ∧ byte ≤ high
      · simp only [if_pos inRange]
        by_cases finished : needed ≤ 1
        · rw [if_pos finished]
          trivial
        · rw [if_neg finished]
          exact Sound.next sound inRange (Nat.lt_of_not_le finished)
      · simp only [if_neg inRange]
        exact begin_isSound _ byte

/-- One byte adds itself to the ASCII characters that are put out, if it is one of
them, and adds nothing otherwise.  A finished sequence and a replacement are the two
ways of putting out a character for other bytes, and neither is ASCII. -/
theorem step_ascii (reader : Reader) (byte : UInt8) (sound : reader.pending.IsSound) :
    (reader.step byte).ascii = reader.ascii ++ asciiOnly [byte] := by
  rcases reader with ⟨pending, output⟩
  cases pending with
  | idle => exact begin_ascii output byte
  | awaiting code needed low high =>
      unfold step
      by_cases inRange : low ≤ byte ∧ byte ≤ high
      · have above := not_ascii_of_inRange sound inRange
        simp only [if_pos inRange, asciiOnly_of_above above, List.append_nil]
        by_cases finished : needed ≤ 1
        · rcases Sound.finished sound inRange finished with ⟨beyond, valid⟩
          rw [if_pos finished, ascii_cons, asciiBytes_of_above beyond valid, List.append_nil]
          rfl
        · rw [if_neg finished]
          rfl
      · -- The sequence breaks off: it is replaced, and the byte starts afresh.
        simp only [if_neg inRange, begin_ascii]
        simp [ascii]

/-- A run over bytes puts out their ASCII characters in order. -/
theorem run_ascii (bytes : List UInt8) (reader : Reader) (sound : reader.pending.IsSound) :
    (bytes.foldl step reader).ascii = reader.ascii ++ asciiOnly bytes := by
  induction bytes generalizing reader with
  | nil => exact (List.append_nil _).symm
  | cons byte bytes ih =>
      have later := ih (reader.step byte) (reader.step_isSound byte sound)
      rw [List.foldl_cons, later, reader.step_ascii byte sound, List.append_assoc]
      congr 1
      exact (List.filter_append [byte] bytes).symm

/-- An unfinished sequence at the end puts out no ASCII character. -/
@[simp] theorem asciiBytes_finish (reader : Reader) : asciiBytes reader.finish = reader.ascii := by
  rcases reader with ⟨pending, output⟩
  cases pending with
  | idle => rfl
  | awaiting code needed low high =>
      simp [finish, ascii]

end Reader

@[simp] theorem asciiBytes_lossy (bytes : List UInt8) :
    asciiBytes (lossy bytes) = asciiOnly bytes := by
  unfold lossy
  rw [Reader.asciiBytes_finish, Reader.run_ascii bytes Reader.fresh trivial]
  rfl

end Utf8
end Text

namespace Scan

open Text.Utf8

/-- Counting whitespace characters is counting whitespace bytes among the ASCII ones. -/
theorem countChars_eq_count_asciiBytes (text : List Char) :
    countChars text = count (asciiBytes text) := by
  unfold countChars count asciiBytes
  rw [List.filter_map, List.length_map, List.filter_filter]
  congr 2
  funext character
  simp only [Whitespace.containsChar, Function.comp_apply, Bool.and_comm]

/-- Every whitespace byte is ASCII. -/
@[simp] theorem count_asciiOnly (bytes : List UInt8) : count (asciiOnly bytes) = count bytes := by
  unfold count asciiOnly
  rw [List.filter_filter]
  congr 2
  funext byte
  cases member : Whitespace.contains byte with
  | false => rfl
  | true =>
      have listed := (Whitespace.contains_iff_mem byte).mp member
      simp only [Whitespace.bytes, List.mem_cons, List.not_mem_nil, or_false] at listed
      rcases listed with rfl | rfl | rfl | rfl <;> rfl

/-- The characters of the lenient view hold as many whitespace units as the bytes. -/
@[simp] theorem countChars_lossy (bytes : List UInt8) : countChars (lossy bytes) = count bytes := by
  simp [countChars_eq_count_asciiBytes]

/-- Reading bytes leniently neither creates, removes nor reorders ASCII, and therefore
both ways of counting whitespace agree, whether the bytes are well-formed or not. -/
theorem lossy_keeps_ascii (bytes : List UInt8) :
    asciiBytes (lossy bytes) = asciiOnly bytes ∧ countChars (lossy bytes) = count bytes :=
  ⟨asciiBytes_lossy bytes, countChars_lossy bytes⟩

/-- A truncated sequence, an overlong form and a surrogate, each in front of a blank. -/
example : asciiBytes (lossy [0xE2, 0x82, 0x20, 0xC0, 0x20, 0xED, 0xA0, 0x09, 0xF0, 0x9F]) =
    [0x20, 0x20, 0x09] := by decide

end Scan
end WhitespaceBench
