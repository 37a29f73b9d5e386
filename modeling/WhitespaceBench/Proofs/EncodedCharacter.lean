import Mathlib
import WhitespaceBench.Proofs.LossyText

namespace WhitespaceBench
namespace Text
namespace Utf8

/-!
# Encoded characters

What a leading byte announces is exactly what follows it in the encoding of a character:
so many continuation bytes, the first of them in the announced range, and with the
payload of the leading byte they spell the code point.  The ranges are narrow for four
leading bytes only.  Behind 0xE0 and 0xF0 they rule out the code points that have a
shorter encoding, behind 0xED the surrogates, and behind 0xF4 what lies above U+10FFFF.

No encoding is the beginning of another one, so the character that a byte sequence starts
with is determined by it.
-/

/-- The bytes that finish a sequence: as many as are needed, the first of them in the given
range and the others any continuation bytes. -/
def Completes : (needed : Nat) -> (low high : UInt8) -> List UInt8 -> Prop
  | 0, _, _, tail => tail = []
  | _ + 1, _, _, [] => False
  | needed + 1, low, high, byte :: tail =>
      (low ≤ byte ∧ byte ≤ high) ∧ Completes needed 0x80 0xBF tail

/-- The code that a sequence stands for after more bytes, of six bits each. -/
def extended (code : Nat) (tail : List UInt8) : Nat :=
  tail.foldl (fun code byte => code * 64 + byte.toNat % 64) code

theorem completes_succ_iff {needed : Nat} {low high : UInt8} {tail : List UInt8} :
    Completes (needed + 1) low high tail <-> exists byte rest, tail = byte :: rest ∧
      (low ≤ byte ∧ byte ≤ high) ∧ Completes needed 0x80 0xBF rest := by
  cases tail with
  | nil => simp [Completes]
  | cons byte rest => simp [Completes]

/-! ## Leading bytes -/

/-- The least byte that may follow a leading byte. -/
def secondLow (lead : Nat) : Nat :=
  if lead = 0xE0 then 0xA0 else if lead = 0xF0 then 0x90 else 0x80

/-- The greatest byte that may follow a leading byte. -/
def secondHigh (lead : Nat) : Nat :=
  if lead = 0xED then 0x9F else if lead = 0xF4 then 0x8F else 0xBF

namespace Lead

/-- What a leading byte says, told by the marking bits that are taken off it and by the
number of bytes that it asks for. -/
structure Announces (lead : Lead) (byte mark needed : Nat) : Prop where
  payload : lead.payload = byte - mark
  needed : lead.needed = needed
  low : lead.low.toNat = secondLow byte
  high : lead.high.toNat = secondHigh byte

theorem Announces.inRange_iff {lead : Lead} {byte mark needed : Nat}
    (announces : lead.Announces byte mark needed) (second : UInt8) :
    (lead.low ≤ second ∧ second ≤ lead.high) <->
      secondLow byte ≤ second.toNat ∧ second.toNat ≤ secondHigh byte := by
  rw [UInt8.le_iff_toNat_le, UInt8.le_iff_toNat_le, announces.low, announces.high]

theorem of?_two {byte : UInt8} (range : 0xC2 ≤ byte.toNat ∧ byte.toNat ≤ 0xDF) :
    exists lead, of? byte = some lead ∧ lead.Announces byte.toNat 0xC0 1 := by
  have notSmall : Not (byte < 0xC2) := Nat.not_lt.mpr range.1
  have two : byte ≤ 0xDF := range.2
  rw [of?, if_neg notSmall, if_pos two]
  refine ⟨_, rfl, ⟨rfl, rfl, ?_, ?_⟩⟩
  · rw [secondLow, if_neg (by omega), if_neg (by omega)]
    rfl
  · rw [secondHigh, if_neg (by omega), if_neg (by omega)]
    rfl

theorem of?_three {byte : UInt8} (range : 0xE0 ≤ byte.toNat ∧ byte.toNat ≤ 0xEF) :
    exists lead, of? byte = some lead ∧ lead.Announces byte.toNat 0xE0 2 := by
  have notSmall : Not (byte < 0xC2) := Nat.not_lt.mpr (Nat.le_trans (by decide) range.1)
  have notTwo : Not (byte ≤ 0xDF) := Nat.not_le.mpr range.1
  have three : byte ≤ 0xEF := range.2
  rw [of?, if_neg notSmall, if_neg notTwo]
  by_cases isE0 : byte = 0xE0
  · subst isE0
    exact ⟨_, rfl, rfl, rfl, rfl, rfl⟩
  by_cases isED : byte = 0xED
  · subst isED
    exact ⟨_, rfl, rfl, rfl, rfl, rfl⟩
  have differsE0 : byte.toNat ≠ 0xE0 := fun same => isE0 (UInt8.toNat_inj.mp same)
  have differsED : byte.toNat ≠ 0xED := fun same => isED (UInt8.toNat_inj.mp same)
  rw [if_neg isE0, if_neg isED, if_pos three]
  refine ⟨_, rfl, ⟨rfl, rfl, ?_, ?_⟩⟩
  · rw [secondLow, if_neg differsE0, if_neg (by omega)]
    rfl
  · rw [secondHigh, if_neg differsED, if_neg (by omega)]
    rfl

theorem of?_four {byte : UInt8} (range : 0xF0 ≤ byte.toNat ∧ byte.toNat ≤ 0xF4) :
    exists lead, of? byte = some lead ∧ lead.Announces byte.toNat 0xF0 3 := by
  have values : byte = 0xF0 ∨ byte = 0xF1 ∨ byte = 0xF2 ∨ byte = 0xF3 ∨ byte = 0xF4 := by
    simp only [← UInt8.toNat_inj, UInt8.reduceToNat]
    omega
  rcases values with rfl | rfl | rfl | rfl | rfl <;> exact ⟨_, rfl, rfl, rfl, rfl, rfl⟩

theorem of?_outside {byte : UInt8} (outside : byte.toNat < 0xC2 ∨ 0xF4 < byte.toNat) :
    of? byte = none := by
  rcases outside with small | large
  · exact if_pos small
  · have above : forall bound : UInt8, bound.toNat ≤ 0xF4 -> Not (byte ≤ bound) :=
      fun bound atMost => Nat.not_le.mpr (Nat.lt_of_le_of_lt atMost large)
    have differs : forall bound : UInt8, bound.toNat ≤ 0xF4 -> byte ≠ bound :=
      fun bound atMost same => above bound atMost (same ▸ Nat.le_refl _)
    have notSmall : Not (byte < 0xC2) := fun small =>
      above 0xC2 (by decide) (Nat.le_of_lt small)
    rw [of?, if_neg notSmall, if_neg (above _ (by decide)), if_neg (differs _ (by decide)),
      if_neg (differs _ (by decide)), if_neg (above _ (by decide)), if_neg (differs _ (by decide)),
      if_neg (above _ (by decide)), if_neg (differs _ (by decide))]

theorem announces_of_of? {byte : UInt8} {lead : Lead} (announced : of? byte = some lead) :
    ((0xC2 ≤ byte.toNat ∧ byte.toNat ≤ 0xDF) ∧ lead.Announces byte.toNat 0xC0 1) ∨
      ((0xE0 ≤ byte.toNat ∧ byte.toNat ≤ 0xEF) ∧ lead.Announces byte.toNat 0xE0 2) ∨
      ((0xF0 ≤ byte.toNat ∧ byte.toNat ≤ 0xF4) ∧ lead.Announces byte.toNat 0xF0 3) := by
  have groups : (byte.toNat < 0xC2 ∨ 0xF4 < byte.toNat) ∨
      (0xC2 ≤ byte.toNat ∧ byte.toNat ≤ 0xDF) ∨ (0xE0 ≤ byte.toNat ∧ byte.toNat ≤ 0xEF) ∨
      (0xF0 ≤ byte.toNat ∧ byte.toNat ≤ 0xF4) := by omega
  rcases groups with outside | two | three | four
  · cases announced.symm.trans (of?_outside outside)
  · rcases of?_two two with ⟨other, found, announces⟩
    cases announced.symm.trans found
    exact Or.inl ⟨two, announces⟩
  · rcases of?_three three with ⟨other, found, announces⟩
    cases announced.symm.trans found
    exact Or.inr (Or.inl ⟨three, announces⟩)
  · rcases of?_four four with ⟨other, found, announces⟩
    cases announced.symm.trans found
    exact Or.inr (Or.inr ⟨four, announces⟩)

/-- The range that is announced for the second byte is not empty. -/
theorem low_le_high {byte : UInt8} {lead : Lead} (announced : of? byte = some lead) :
    lead.low ≤ lead.high := by
  have bounds : lead.low.toNat = secondLow byte.toNat ∧ lead.high.toNat = secondHigh byte.toNat := by
    rcases announces_of_of? announced with ⟨_, told⟩ | ⟨_, told⟩ | ⟨_, told⟩ <;>
      exact ⟨told.low, told.high⟩
  rw [UInt8.le_iff_toNat_le, bounds.1, bounds.2, secondLow, secondHigh]
  split_ifs <;> omega

end Lead

/-! ## Encodings by their length -/

theorem toNat_isScalar (character : Char) :
    character.toNat < 0xD800 ∨ (0xDFFF < character.toNat ∧ character.toNat < 0x110000) :=
  character.valid

theorem encode_eq_one_iff {character : Char} {first : UInt8} :
    String.utf8EncodeChar character = [first] <->
      first.toNat < 0x80 ∧ character.toNat = first.toNat := by
  have code : character.val.toNat = character.toNat := rfl
  simp only [String.utf8EncodeChar, code]
  split_ifs
  all_goals
    simp only [List.cons.injEq, ← UInt8.toNat_inj, UInt8.toNat_ofNat', reduceCtorEq, and_false,
      false_iff, and_true]
    omega

theorem encode_eq_two_iff {character : Char} {first second : UInt8} :
    String.utf8EncodeChar character = [first, second] <->
      (0xC2 ≤ first.toNat ∧ first.toNat ≤ 0xDF) ∧ (0x80 ≤ second.toNat ∧ second.toNat ≤ 0xBF) ∧
      character.toNat = (first.toNat - 0xC0) * 64 + second.toNat % 64 := by
  have code : character.val.toNat = character.toNat := rfl
  simp only [String.utf8EncodeChar, code]
  split_ifs
  all_goals
    simp only [List.cons.injEq, ← UInt8.toNat_inj, UInt8.toNat_ofNat', reduceCtorEq, and_false,
      false_iff, and_true]
    omega

theorem encode_eq_three_iff {character : Char} {first second third : UInt8} :
    String.utf8EncodeChar character = [first, second, third] <->
      (0xE0 ≤ first.toNat ∧ first.toNat ≤ 0xEF) ∧ (0x80 ≤ second.toNat ∧ second.toNat ≤ 0xBF) ∧
      (0x80 ≤ third.toNat ∧ third.toNat ≤ 0xBF) ∧ 0x800 ≤ character.toNat ∧
      character.toNat =
        ((first.toNat - 0xE0) * 64 + second.toNat % 64) * 64 + third.toNat % 64 := by
  have code : character.val.toNat = character.toNat := rfl
  simp only [String.utf8EncodeChar, code]
  split_ifs
  all_goals
    simp only [List.cons.injEq, ← UInt8.toNat_inj, UInt8.toNat_ofNat', reduceCtorEq, and_false,
      false_iff, and_true]
    omega

theorem encode_eq_four_iff {character : Char} {first second third fourth : UInt8} :
    String.utf8EncodeChar character = [first, second, third, fourth] <->
      (0xF0 ≤ first.toNat ∧ first.toNat ≤ 0xF4) ∧ (0x80 ≤ second.toNat ∧ second.toNat ≤ 0xBF) ∧
      (0x80 ≤ third.toNat ∧ third.toNat ≤ 0xBF) ∧ (0x80 ≤ fourth.toNat ∧ fourth.toNat ≤ 0xBF) ∧
      0x10000 ≤ character.toNat ∧
      character.toNat = (((first.toNat - 0xF0) * 64 + second.toNat % 64) * 64 +
        third.toNat % 64) * 64 + fourth.toNat % 64 := by
  have code : character.val.toNat = character.toNat := rfl
  have scalar := toNat_isScalar character
  simp only [String.utf8EncodeChar, code]
  split_ifs
  all_goals
    simp only [List.cons.injEq, ← UInt8.toNat_inj, UInt8.toNat_ofNat', reduceCtorEq, and_false,
      false_iff, and_true]
    omega

/-- The first byte of an encoding tells how many follow it. -/
theorem encode_cases {character : Char} {byte : UInt8} {tail : List UInt8}
    (encoded : String.utf8EncodeChar character = byte :: tail) :
    (byte.toNat < 0x80 ∧ tail.length = 0) ∨
      ((0xC2 ≤ byte.toNat ∧ byte.toNat ≤ 0xDF) ∧ tail.length = 1) ∨
      ((0xE0 ≤ byte.toNat ∧ byte.toNat ≤ 0xEF) ∧ tail.length = 2) ∨
      ((0xF0 ≤ byte.toNat ∧ byte.toNat ≤ 0xF4) ∧ tail.length = 3) := by
  have length := congrArg List.length encoded
  have atMost := character.utf8Size_le_four
  rw [String.length_utf8EncodeChar, List.length_cons] at length
  match tail with
  | [] => exact Or.inl ⟨(encode_eq_one_iff.mp encoded).1, rfl⟩
  | [_] => exact Or.inr (Or.inl ⟨(encode_eq_two_iff.mp encoded).1, rfl⟩)
  | [_, _] => exact Or.inr (Or.inr (Or.inl ⟨(encode_eq_three_iff.mp encoded).1, rfl⟩))
  | [_, _, _] => exact Or.inr (Or.inr (Or.inr ⟨(encode_eq_four_iff.mp encoded).1, rfl⟩))
  | _ :: _ :: _ :: _ :: _ =>
      simp only [List.length_cons] at length
      omega

/-! ## Encodings by their first byte -/

section Announced

variable {character : Char} {byte : UInt8} {tail : List UInt8} {lead : Lead}

theorem encode_iff_of_two (range : 0xC2 ≤ byte.toNat ∧ byte.toNat ≤ 0xDF)
    (announces : lead.Announces byte.toNat 0xC0 1) :
    String.utf8EncodeChar character = byte :: tail <->
      Completes lead.needed lead.low lead.high tail ∧
        character.toNat = extended lead.payload tail := by
  rw [announces.payload, announces.needed]
  constructor
  · intro encoded
    have length : tail.length = 1 := by
      rcases encode_cases encoded with small | two | three | four <;> omega
    rcases List.length_eq_one_iff.mp length with ⟨second, rfl⟩
    rcases encode_eq_two_iff.mp encoded with ⟨_, continues, code⟩
    refine ⟨⟨?_, rfl⟩, code⟩
    rw [announces.inRange_iff, secondLow, secondHigh]
    constructor <;> split_ifs <;> omega
  · rintro ⟨completes, code⟩
    rcases completes_succ_iff.mp completes with ⟨second, rest, rfl, inRange, rfl⟩
    rw [announces.inRange_iff, secondLow, secondHigh] at inRange
    refine encode_eq_two_iff.mpr ⟨range, ?_, code⟩
    split_ifs at inRange <;> omega

/-- Behind 0xE0 the range of the second byte says that two bytes would not do, and behind 0xED
that the code point is no surrogate. -/
theorem encode_iff_of_three (range : 0xE0 ≤ byte.toNat ∧ byte.toNat ≤ 0xEF)
    (announces : lead.Announces byte.toNat 0xE0 2) :
    String.utf8EncodeChar character = byte :: tail <->
      Completes lead.needed lead.low lead.high tail ∧
        character.toNat = extended lead.payload tail := by
  have scalar := toNat_isScalar character
  rw [announces.payload, announces.needed]
  constructor
  · intro encoded
    have length : tail.length = 2 := by
      rcases encode_cases encoded with small | two | three | four <;> omega
    rcases List.length_eq_two.mp length with ⟨second, third, rfl⟩
    rcases encode_eq_three_iff.mp encoded with ⟨_, continues, ends, least, code⟩
    refine ⟨⟨?_, ends, rfl⟩, code⟩
    rw [announces.inRange_iff, secondLow, secondHigh]
    constructor <;> split_ifs <;> omega
  · rintro ⟨completes, code⟩
    rcases completes_succ_iff.mp completes with ⟨second, rest, rfl, inRange, follows⟩
    rcases completes_succ_iff.mp follows with ⟨third, rest, rfl, ends, rfl⟩
    rw [announces.inRange_iff, secondLow, secondHigh] at inRange
    refine encode_eq_three_iff.mpr ⟨range, ?_, ends, ?_, code⟩
    · split_ifs at inRange <;> omega
    · simp only [extended, List.foldl] at code
      split_ifs at inRange <;> omega

/-- Behind 0xF0 the range of the second byte says that three bytes would not do, and behind
0xF4 that the code point is not too large. -/
theorem encode_iff_of_four (range : 0xF0 ≤ byte.toNat ∧ byte.toNat ≤ 0xF4)
    (announces : lead.Announces byte.toNat 0xF0 3) :
    String.utf8EncodeChar character = byte :: tail <->
      Completes lead.needed lead.low lead.high tail ∧
        character.toNat = extended lead.payload tail := by
  have scalar := toNat_isScalar character
  rw [announces.payload, announces.needed]
  constructor
  · intro encoded
    have length : tail.length = 3 := by
      rcases encode_cases encoded with small | two | three | four <;> omega
    rcases List.length_eq_three.mp length with ⟨second, third, fourth, rfl⟩
    rcases encode_eq_four_iff.mp encoded with ⟨_, continues, follows, ends, least, code⟩
    refine ⟨⟨?_, follows, ends, rfl⟩, code⟩
    rw [announces.inRange_iff, secondLow, secondHigh]
    constructor <;> split_ifs <;> omega
  · rintro ⟨completes, code⟩
    rcases completes_succ_iff.mp completes with ⟨second, rest, rfl, inRange, more⟩
    rcases completes_succ_iff.mp more with ⟨third, rest, rfl, follows, last⟩
    rcases completes_succ_iff.mp last with ⟨fourth, rest, rfl, ends, rfl⟩
    rw [announces.inRange_iff, secondLow, secondHigh] at inRange
    refine encode_eq_four_iff.mpr ⟨range, ?_, follows, ends, ?_, code⟩
    · split_ifs at inRange <;> omega
    · simp only [extended, List.foldl] at code
      split_ifs at inRange <;> omega

/-- The bytes behind a leading byte encode a character with it exactly if they are what it
announces, and then the character is the one that they spell. -/
theorem encode_iff_of_lead (announced : Lead.of? byte = some lead) :
    String.utf8EncodeChar character = byte :: tail <->
      Completes lead.needed lead.low lead.high tail ∧
        character.toNat = extended lead.payload tail := by
  rcases Lead.announces_of_of? announced with ⟨range, told⟩ | ⟨range, told⟩ | ⟨range, told⟩
  · exact encode_iff_of_two range told
  · exact encode_iff_of_three range told
  · exact encode_iff_of_four range told

/-- An ASCII byte encodes its character alone. -/
theorem encode_of_ascii (small : byte < 0x80) :
    String.utf8EncodeChar (Char.ofNat byte.toNat) = [byte] := by
  have bounded : byte.toNat < 0x80 := small
  have valid : byte.toNat.isValidChar := Or.inl (by omega)
  exact encode_eq_one_iff.mpr ⟨bounded, by rw [Char.toNat_ofNat, if_pos valid]⟩

/-- Apart from ASCII, a byte that announces nothing is the first of no encoding. -/
theorem encode_ne_of_none (above : 0x80 ≤ byte.toNat) (silent : Lead.of? byte = none) :
    String.utf8EncodeChar character ≠ byte :: tail := by
  intro encoded
  rcases encode_cases encoded with ⟨small, _⟩ | ⟨two, _⟩ | ⟨three, _⟩ | ⟨four, _⟩
  · omega
  · rcases Lead.of?_two two with ⟨lead, found, _⟩
    cases silent.symm.trans found
  · rcases Lead.of?_three three with ⟨lead, found, _⟩
    cases silent.symm.trans found
  · rcases Lead.of?_four four with ⟨lead, found, _⟩
    cases silent.symm.trans found

end Announced

/-! ## No encoding begins another -/

/-- The character that a byte sequence starts with is determined by the sequence. -/
theorem encode_append_inj {first second : Char} {left right : List UInt8}
    (same : String.utf8EncodeChar first ++ left = String.utf8EncodeChar second ++ right) :
    first = second ∧ left = right := by
  have bytes := congrArg List.toByteArray same
  simp only [List.toByteArray_append] at bytes
  have decoded : some first = some second := by
    rw [← ByteArray.utf8DecodeChar?_utf8EncodeChar_append (b := left.toByteArray), bytes,
      ByteArray.utf8DecodeChar?_utf8EncodeChar_append]
  rcases Option.some.inj decoded with rfl
  exact ⟨rfl, List.append_cancel_left same⟩

end Utf8
end Text
end WhitespaceBench
