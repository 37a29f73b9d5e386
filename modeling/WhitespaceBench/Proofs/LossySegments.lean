import Mathlib
import WhitespaceBench.Proofs.EncodedCharacter

namespace WhitespaceBench
namespace Text
namespace Utf8

/-!
# The segments of the lenient view

Every byte sequence has exactly one division into segments of which each is the encoding
of a character or a maximal ill-formed subpart, and the lenient reader puts out one
character for each of them: the encoded one, or a replacement.

The division is described without the reader.  At a place where no encoding stands, the
segment is the longest beginning of an encoding that is present there, and a single byte
if there is none.  The reader never looks back, so it has to know at each byte which
encodings its unfinished bytes can still become.  This is the invariant of a run: the
bytes that finish an unfinished sequence are exactly those that it waits for.
-/

/-- The beginning of the encoding of some character, neither empty nor the whole of it. -/
def IsBeginning (bytes : List UInt8) : Prop :=
  bytes ≠ [] ∧ exists character rest, rest ≠ [] ∧
    String.utf8EncodeChar character = bytes ++ rest

/-- A maximal ill-formed subpart in front of the rest of a byte sequence. -/
structure IsSubpart (segment rest : List UInt8) : Prop where
  /-- No encoding stands here. -/
  illFormed : forall character, Not (String.utf8EncodeChar character <+: segment ++ rest)
  /-- The longest beginning of an encoding that is present, or else a single byte. -/
  maximal :
    (IsBeginning segment ∧
      forall other, IsBeginning other -> other <+: segment ++ rest ->
        other.length ≤ segment.length) ∨
    (segment.length = 1 ∧ forall other, IsBeginning other -> Not (other <+: segment ++ rest))

/-- A segment with the character that it contributes. -/
structure Part where
  segment : List UInt8
  character : Char
deriving Repr, DecidableEq

/-- A part that may stand in front of the rest of a byte sequence. -/
inductive Part.Precedes : Part -> List UInt8 -> Prop
  | encoded (character : Char) (rest : List UInt8) :
      Precedes ⟨String.utf8EncodeChar character, character⟩ rest
  | replaced {segment rest : List UInt8} (subpart : IsSubpart segment rest) :
      Precedes ⟨segment, replacement⟩ rest

/-- The parts of a byte sequence from left to right. -/
inductive Divides : List UInt8 -> List Part -> Prop
  | nil : Divides [] []
  | cons {part : Part} {rest : List UInt8} {parts : List Part} (first : part.Precedes rest)
      (others : Divides rest parts) : Divides (part.segment ++ rest) (part :: parts)

/-! ## There is at most one division -/

theorem IsSubpart.ne_nil {segment rest : List UInt8} (subpart : IsSubpart segment rest) :
    segment ≠ [] := by
  rcases subpart.maximal with ⟨beginning, _⟩ | ⟨single, _⟩
  · exact beginning.1
  · intro empty
    rw [empty] at single
    cases single

namespace Part.Precedes

variable {part other : Part} {rest others : List UInt8}

theorem ne_nil (precedes : part.Precedes rest) : part.segment ≠ [] := by
  cases precedes with
  | encoded character => exact String.utf8EncodeChar_ne_nil
  | replaced subpart => exact subpart.ne_nil

/-- At one place there is only one maximal ill-formed subpart. -/
theorem segment_eq_of_subparts {segment other rest others : List UInt8}
    (first : IsSubpart segment rest) (second : IsSubpart other others)
    (same : segment ++ rest = other ++ others) : segment = other := by
  have here : segment <+: segment ++ rest := List.prefix_append _ _
  have there : other <+: segment ++ rest := same ▸ List.prefix_append _ _
  have length : segment.length = other.length := by
    rcases first.maximal with ⟨beginning, longest⟩ | ⟨single, absent⟩ <;>
      rcases second.maximal with ⟨otherBeginning, otherLongest⟩ | ⟨otherSingle, otherAbsent⟩
    · exact Nat.le_antisymm (otherLongest _ beginning (same ▸ here))
        (longest _ otherBeginning there)
    · exact absurd (same ▸ here) (otherAbsent _ beginning)
    · exact absurd there (absent _ otherBeginning)
    · exact single.trans otherSingle.symm
  exact (List.append_inj same length).1

theorem unique (first : part.Precedes rest) (second : other.Precedes others)
    (same : part.segment ++ rest = other.segment ++ others) :
    part = other ∧ rest = others := by
  cases first with
  | encoded character =>
      cases second with
      | encoded otherCharacter =>
          rcases encode_append_inj same with ⟨rfl, rfl⟩
          exact ⟨rfl, rfl⟩
      | replaced subpart => exact absurd ⟨rest, same⟩ (subpart.illFormed character)
  | replaced subpart =>
      cases second with
      | encoded character => exact absurd ⟨others, same.symm⟩ (subpart.illFormed character)
      | replaced otherSubpart =>
          rcases segment_eq_of_subparts subpart otherSubpart same with rfl
          exact ⟨rfl, List.append_cancel_left same⟩

end Part.Precedes

theorem Divides.unique {bytes : List UInt8} {parts others : List Part}
    (divides : Divides bytes parts) (again : Divides bytes others) : others = parts := by
  induction divides generalizing others with
  | nil =>
      generalize empty : ([] : List UInt8) = bytes at again
      cases again with
      | nil => rfl
      | cons first _ => exact absurd (List.append_eq_nil_iff.mp empty.symm).1 first.ne_nil
  | @cons part rest parts first _ ih =>
      generalize same : part.segment ++ rest = bytes at again
      cases again with
      | nil => exact absurd (List.append_eq_nil_iff.mp same).1 first.ne_nil
      | cons second later =>
          rcases first.unique second same with ⟨rfl, rfl⟩
          rw [ih later]

/-- An encoding that stands where a beginning of one stands goes on behind it. -/
theorem IsBeginning.extends_of_prefix {bytes rest : List UInt8} {character : Char}
    (beginning : IsBeginning bytes) (present : String.utf8EncodeChar character <+: bytes ++ rest) :
    exists tail, String.utf8EncodeChar character = bytes ++ tail ∧ tail <+: rest := by
  rcases beginning with ⟨_, other, ending, inner, encoded⟩
  rcases present with ⟨later, same⟩
  rcases List.append_eq_append_iff.mp same with ⟨extra, whole, _⟩ | ⟨tail, split, others⟩
  · -- The whole encoding would stand inside the beginning of another one.
    rw [whole, List.append_assoc] at encoded
    rcases encode_append_inj ((List.append_nil _).trans encoded) with ⟨_, empty⟩
    exact absurd (List.append_eq_nil_iff.mp empty.symm).2 inner
  · exact ⟨tail, split, later, others.symm⟩

/-! ## Unfinished sequences -/

/-- Every sequence that a sound one can become spells a scalar value. -/
theorem Sound.isValidChar {code needed : Nat} {low high : UInt8} {tail : List UInt8}
    (sound : Sound code needed low high) (completes : Completes needed low high tail) :
    (extended code tail).isValidChar := by
  induction needed generalizing code low high tail with
  | zero => exact absurd sound.needed_pos (Nat.lt_irrefl 0)
  | succ needed ih =>
      rcases completes_succ_iff.mp completes with ⟨byte, rest, rfl, inRange, later⟩
      cases needed with
      | zero =>
          rcases later with rfl
          exact (sound.finished inRange (Nat.le_refl 1)).2
      | succ needed =>
          have narrowed := sound.next inRange (Nat.succ_lt_succ (Nat.succ_pos needed))
          have valid : (extended (code * 64 + byte.toNat % 64) rest).isValidChar :=
            ih narrowed later
          exact valid

/-- Whatever is announced can be given. -/
theorem exists_completes (needed : Nat) {low high : UInt8} (ordered : low ≤ high) :
    exists tail, Completes needed low high tail := by
  induction needed generalizing low high with
  | zero => exact ⟨[], rfl⟩
  | succ needed ih =>
      have any : (0x80 : UInt8) ≤ 0xBF := by decide
      rcases ih any with ⟨tail, completes⟩
      exact ⟨low :: tail, ⟨UInt8.le_refl low, ordered⟩, completes⟩

/-- The bytes of an unfinished sequence: they become an encoding exactly with the bytes that
the sequence waits for. -/
structure Unfinished (consumed : List UInt8) (code needed : Nat) (low high : UInt8) : Prop where
  sound : Sound code needed low high
  ordered : low ≤ high
  started : consumed ≠ []
  becomes : forall character tail,
    String.utf8EncodeChar character = consumed ++ tail <->
      Completes needed low high tail ∧ character.toNat = extended code tail

namespace Unfinished

variable {consumed : List UInt8} {code needed : Nat} {low high byte : UInt8}

theorem of_lead {lead : Lead} (announced : Lead.of? byte = some lead) :
    Unfinished [byte] lead.payload lead.needed lead.low lead.high where
  sound := Lead.of?_sound announced
  ordered := Lead.low_le_high announced
  started := List.cons_ne_nil _ _
  becomes _ _ := encode_iff_of_lead announced

/-- An expected byte belongs to the sequence. -/
theorem next (unfinished : Unfinished consumed code needed low high)
    (inRange : low ≤ byte ∧ byte ≤ high) (more : 1 < needed) :
    Unfinished (consumed ++ [byte]) (code * 64 + byte.toNat % 64) (needed - 1) 0x80 0xBF where
  sound := unfinished.sound.next inRange more
  ordered := by decide
  started := List.append_ne_nil_of_right_ne_nil _ (List.cons_ne_nil _ _)
  becomes character tail := by
    have extra := unfinished.becomes character (byte :: tail)
    rcases Nat.exists_eq_succ_of_ne_zero (Nat.ne_of_gt unfinished.sound.needed_pos) with ⟨one, rfl⟩
    rw [List.append_assoc, List.singleton_append, extra]
    exact and_congr_left fun _ => and_iff_right inRange

/-- The last expected byte makes the sequence the encoding of the character that is put out. -/
theorem finished (unfinished : Unfinished consumed code needed low high)
    (inRange : low ≤ byte ∧ byte ≤ high) (last : needed ≤ 1) :
    String.utf8EncodeChar (Char.ofNat (code * 64 + byte.toNat % 64)) = consumed ++ [byte] := by
  have one : needed = 1 := Nat.le_antisymm last unfinished.sound.needed_pos
  subst one
  have valid := (unfinished.sound.finished inRange (Nat.le_refl 1)).2
  refine (unfinished.becomes _ _).mpr ⟨⟨inRange, rfl⟩, ?_⟩
  rw [Char.toNat_ofNat, if_pos valid]
  rfl

theorem inRange_of_encode (unfinished : Unfinished consumed code needed low high)
    {character : Char} {tail : List UInt8}
    (encoded : String.utf8EncodeChar character = consumed ++ tail) :
    exists byte rest, tail = byte :: rest ∧ low ≤ byte ∧ byte ≤ high := by
  have completes := ((unfinished.becomes character tail).mp encoded).1
  rcases Nat.exists_eq_succ_of_ne_zero (Nat.ne_of_gt unfinished.sound.needed_pos) with ⟨_, rfl⟩
  rcases completes_succ_iff.mp completes with ⟨byte, rest, split, inRange, _⟩
  exact ⟨byte, rest, split, inRange⟩

theorem isBeginning (unfinished : Unfinished consumed code needed low high) :
    IsBeginning consumed := by
  rcases exists_completes needed unfinished.ordered with ⟨tail, completes⟩
  have valid := unfinished.sound.isValidChar completes
  have spelled : (Char.ofNat (extended code tail)).toNat = extended code tail := by
    rw [Char.toNat_ofNat, if_pos valid]
  have encoded := (unfinished.becomes _ tail).mpr ⟨completes, spelled⟩
  rcases unfinished.inRange_of_encode encoded with ⟨byte, rest, split, _⟩
  exact ⟨unfinished.started, _, tail, split ▸ List.cons_ne_nil _ _, encoded⟩

/-- A sequence that is continued by an unexpected byte, or not at all, is ill-formed, and no
longer beginning of an encoding is present. -/
theorem isSubpart (unfinished : Unfinished consumed code needed low high) {rest : List UInt8}
    (blocked : forall byte bytes, rest = byte :: bytes -> Not (low ≤ byte ∧ byte ≤ high)) :
    IsSubpart consumed rest := by
  have beginning := unfinished.isBeginning
  refine ⟨?_, Or.inl ⟨beginning, ?_⟩⟩
  · intro character present
    rcases beginning.extends_of_prefix present with ⟨tail, encoded, later⟩
    rcases unfinished.inRange_of_encode encoded with ⟨byte, bytes, rfl, inRange⟩
    rcases later with ⟨others, rfl⟩
    exact blocked byte _ rfl inRange
  · rintro other ⟨_, character, ending, _, encoded⟩ present
    by_contra longer
    have shorter : consumed.length ≤ other.length := Nat.le_of_not_le longer
    rcases List.prefix_of_prefix_length_le (List.prefix_append _ _) present shorter with ⟨extra, rfl⟩
    rw [List.append_assoc] at encoded
    rcases (List.prefix_append_right_inj _).mp present with ⟨others, rfl⟩
    rcases unfinished.inRange_of_encode encoded with ⟨byte, bytes, split, inRange⟩
    cases extra with
    | nil => exact longer (by rw [List.append_nil])
    | cons first extra =>
        rcases List.cons.inj split with ⟨rfl, _⟩
        exact blocked _ _ rfl inRange

theorem isSubpart_of_unexpected (unfinished : Unfinished consumed code needed low high)
    (unexpected : Not (low ≤ byte ∧ byte ≤ high)) (rest : List UInt8) :
    IsSubpart consumed (byte :: rest) := by
  apply unfinished.isSubpart
  rintro first others same
  rcases List.cons.inj same with ⟨rfl, _⟩
  exact unexpected

end Unfinished

/-! ## What the reader puts out -/

namespace Reader

/-- The characters that are still put out in the middle of a sequence. -/
def readFrom (pending : Pending) (bytes : List UInt8) : List Char :=
  (bytes.foldl step ⟨pending, []⟩).finish

theorem step_awaiting (code needed : Nat) (low high byte : UInt8) (output : List Char) :
    step ⟨.awaiting code needed low high, output⟩ byte =
      if low ≤ byte ∧ byte ≤ high then
        if needed ≤ 1 then ⟨.idle, Char.ofNat (code * 64 + byte.toNat % 64) :: output⟩
        else ⟨.awaiting (code * 64 + byte.toNat % 64) (needed - 1) 0x80 0xBF, output⟩
      else step ⟨.idle, replacement :: output⟩ byte := rfl

/-- One byte adds to the output, whatever stands there already. -/
theorem step_output (pending : Pending) (output : List Char) (byte : UInt8) :
    step ⟨pending, output⟩ byte =
      ⟨(step ⟨pending, []⟩ byte).pending, (step ⟨pending, []⟩ byte).output ++ output⟩ := by
  have idle : forall output : List Char, step ⟨.idle, output⟩ byte =
      ⟨(step ⟨.idle, []⟩ byte).pending, (step ⟨.idle, []⟩ byte).output ++ output⟩ := by
    intro output
    simp only [step, begin]
    split
    · rfl
    · cases Lead.of? byte <;> rfl
  cases pending with
  | idle => exact idle output
  | awaiting code needed low high =>
      rw [step_awaiting, step_awaiting]
      by_cases inRange : low ≤ byte ∧ byte ≤ high
      · rw [if_pos inRange, if_pos inRange]
        split <;> rfl
      · rw [if_neg inRange, if_neg inRange, idle (replacement :: output), idle [replacement],
          List.append_assoc]
        rfl

theorem finish_foldl (bytes : List UInt8) (pending : Pending) (output : List Char) :
    (bytes.foldl step ⟨pending, output⟩).finish = output.reverse ++ readFrom pending bytes := by
  induction bytes generalizing pending output with
  | nil => cases pending <;> simp [readFrom, finish]
  | cons byte bytes ih =>
      rw [readFrom, List.foldl_cons, List.foldl_cons, step_output]
      rcases step ⟨pending, []⟩ byte with ⟨next, put⟩
      rw [ih, ih, List.reverse_append, List.append_assoc]

theorem readFrom_cons (pending : Pending) (byte : UInt8) (bytes : List UInt8) :
    readFrom pending (byte :: bytes) = (step ⟨pending, []⟩ byte).output.reverse ++
      readFrom (step ⟨pending, []⟩ byte).pending bytes :=
  finish_foldl bytes _ _

section Equations

variable {code needed : Nat} {low high byte : UInt8} {lead : Lead}

theorem readFrom_ascii (small : byte < 0x80) (bytes : List UInt8) :
    readFrom .idle (byte :: bytes) = Char.ofNat byte.toNat :: readFrom .idle bytes := by
  rw [readFrom_cons, step, begin, if_pos small]
  rfl

theorem readFrom_silent (above : Not (byte < 0x80)) (silent : Lead.of? byte = none)
    (bytes : List UInt8) :
    readFrom .idle (byte :: bytes) = replacement :: readFrom .idle bytes := by
  rw [readFrom_cons, step, begin, if_neg above, silent]
  rfl

theorem readFrom_lead (above : Not (byte < 0x80)) (announced : Lead.of? byte = some lead)
    (bytes : List UInt8) :
    readFrom .idle (byte :: bytes) =
      readFrom (.awaiting lead.payload lead.needed lead.low lead.high) bytes := by
  rw [readFrom_cons, step, begin, if_neg above, announced]
  rfl

theorem readFrom_last (inRange : low ≤ byte ∧ byte ≤ high) (last : needed ≤ 1)
    (bytes : List UInt8) :
    readFrom (.awaiting code needed low high) (byte :: bytes) =
      Char.ofNat (code * 64 + byte.toNat % 64) :: readFrom .idle bytes := by
  rw [readFrom_cons, step_awaiting, if_pos inRange, if_pos last]
  rfl

theorem readFrom_next (inRange : low ≤ byte ∧ byte ≤ high) (more : 1 < needed)
    (bytes : List UInt8) :
    readFrom (.awaiting code needed low high) (byte :: bytes) =
      readFrom (.awaiting (code * 64 + byte.toNat % 64) (needed - 1) 0x80 0xBF) bytes := by
  rw [readFrom_cons, step_awaiting, if_pos inRange, if_neg (Nat.not_le.mpr more)]
  rfl

/-- A byte that is not expected is read as if nothing were unfinished. -/
theorem readFrom_blocked (unexpected : Not (low ≤ byte ∧ byte ≤ high)) (bytes : List UInt8) :
    readFrom (.awaiting code needed low high) (byte :: bytes) =
      replacement :: readFrom .idle (byte :: bytes) := by
  rw [readFrom, List.foldl_cons, step_awaiting, if_neg unexpected, ← List.foldl_cons,
    finish_foldl]
  rfl

end Equations

end Reader

/-- The bytes that an unfinished sequence consists of, none if there is no such sequence. -/
def Pending.Holds (consumed : List UInt8) : Pending -> Prop
  | .idle => consumed = []
  | .awaiting code needed low high => Unfinished consumed code needed low high

/-- A byte that opens no encoding is a subpart of its own. -/
theorem isSubpart_of_silent {byte : UInt8} (above : Not (byte < 0x80))
    (silent : Lead.of? byte = none) (rest : List UInt8) : IsSubpart [byte] rest := by
  have none : forall character tail, String.utf8EncodeChar character ≠ byte :: tail :=
    fun _ _ => encode_ne_of_none (Nat.le_of_not_lt above) silent
  refine ⟨?_, Or.inr ⟨rfl, ?_⟩⟩
  · rintro character ⟨later, same⟩
    cases encoded : String.utf8EncodeChar character with
    | nil => exact String.utf8EncodeChar_ne_nil encoded
    | cons first tail =>
        rw [encoded] at same
        rcases List.cons.inj same with ⟨rfl, _⟩
        exact none character tail encoded
  · rintro other ⟨started, character, ending, _, encoded⟩ ⟨later, same⟩
    cases other with
    | nil => exact started rfl
    | cons first tail =>
        rcases List.cons.inj same with ⟨rfl, _⟩
        exact none character _ encoded

/-- The parts of some bytes contribute the characters that are read from them. -/
def Contribute (bytes : List UInt8) (text : List Char) : Prop :=
  exists parts, Divides bytes parts ∧ parts.map Part.character = text

theorem Contribute.cons {part : Part} {rest : List UInt8} {text : List Char}
    (first : part.Precedes rest) (others : Contribute rest text) :
    Contribute (part.segment ++ rest) (part.character :: text) := by
  rcases others with ⟨parts, divides, rfl⟩
  exact ⟨part :: parts, .cons first divides, rfl⟩

/-- What is left to read, the unfinished bytes included, contributes the characters that are
still put out.  The induction is on the bytes.  A byte that is not expected counts twice: it
ends a part, and it opens the next one as if nothing were unfinished, so that case is settled
first. -/
theorem contribute_readFrom (bytes consumed : List UInt8) (pending : Pending)
    (holds : pending.Holds consumed) :
    Contribute (consumed ++ bytes) (Reader.readFrom pending bytes) := by
  induction bytes generalizing consumed pending with
  | nil =>
      cases pending with
      | idle =>
          rcases holds with rfl
          exact ⟨[], .nil, rfl⟩
      | awaiting code needed low high =>
          have unfinished : Unfinished consumed code needed low high := holds
          have subpart : IsSubpart consumed [] :=
            unfinished.isSubpart fun _ _ absent => nomatch absent
          exact Contribute.cons (.replaced subpart) ⟨[], .nil, rfl⟩
  | cons byte bytes ih =>
      have restarted : Contribute (byte :: bytes) (Reader.readFrom .idle (byte :: bytes)) := by
        by_cases small : byte < 0x80
        · have first := Part.Precedes.encoded (Char.ofNat byte.toNat) bytes
          rw [encode_of_ascii small] at first
          rw [Reader.readFrom_ascii small]
          exact Contribute.cons first (ih [] .idle rfl)
        · cases announced : Lead.of? byte with
          | none =>
              rw [Reader.readFrom_silent small announced]
              have subpart := isSubpart_of_silent small announced bytes
              exact Contribute.cons (.replaced subpart) (ih [] .idle rfl)
          | some lead =>
              rw [Reader.readFrom_lead small announced]
              exact ih [byte] _ (Unfinished.of_lead announced)
      cases pending with
      | idle =>
          rcases holds with rfl
          exact restarted
      | awaiting code needed low high =>
          have unfinished : Unfinished consumed code needed low high := holds
          by_cases inRange : low ≤ byte ∧ byte ≤ high
          · rw [List.append_cons]
            by_cases last : needed ≤ 1
            · have first := Part.Precedes.encoded (Char.ofNat (code * 64 + byte.toNat % 64)) bytes
              rw [unfinished.finished inRange last] at first
              rw [Reader.readFrom_last inRange last]
              exact Contribute.cons first (ih [] .idle rfl)
            · have more : 1 < needed := Nat.lt_of_not_le last
              rw [Reader.readFrom_next inRange more]
              exact ih (consumed ++ [byte]) _ (unfinished.next inRange more)
          · rw [Reader.readFrom_blocked inRange]
            have subpart := unfinished.isSubpart_of_unexpected inRange bytes
            exact Contribute.cons (.replaced subpart) restarted

/-! ## The lenient view -/

theorem lossy_eq_readFrom (bytes : List UInt8) : lossy bytes = Reader.readFrom .idle bytes := rfl

/-- The lenient view of a divided sequence has one character for each part. -/
theorem Divides.map_character {bytes : List UInt8} {parts : List Part}
    (divides : Divides bytes parts) : parts.map Part.character = lossy bytes := by
  rcases contribute_readFrom bytes [] .idle rfl with ⟨others, again, contributed⟩
  rw [← divides.unique again, lossy_eq_readFrom, contributed]

theorem Divides.flatten {bytes : List UInt8} {parts : List Part} (divides : Divides bytes parts) :
    (parts.map Part.segment).flatten = bytes := by
  induction divides with
  | nil => rfl
  | cons first others ih => rw [List.map_cons, List.flatten_cons, ih]

theorem Divides.ne_nil {bytes : List UInt8} {parts : List Part} (divides : Divides bytes parts) :
    forall part, part ∈ parts -> part.segment ≠ [] := by
  induction divides with
  | nil => exact fun _ absent => nomatch absent
  | cons first others ih => exact List.forall_mem_cons.mpr ⟨first.ne_nil, ih⟩

/-- A part is no shorter than one byte, and its character takes no more than three times as many
bytes: its own encoding, or the three bytes of a replacement. -/
theorem Part.Precedes.length_le {part : Part} {rest : List UInt8} (precedes : part.Precedes rest) :
    1 ≤ part.segment.length ∧
      (String.utf8EncodeChar part.character).length ≤ 3 * part.segment.length := by
  have pos : 0 < part.segment.length := List.length_pos_iff.mpr precedes.ne_nil
  refine ⟨pos, ?_⟩
  cases precedes with
  | encoded character => exact Nat.le_mul_of_pos_left _ (by decide)
  | replaced subpart => exact Nat.le_mul_of_pos_right 3 pos

theorem Divides.length_le {bytes : List UInt8} {parts : List Part} (divides : Divides bytes parts) :
    parts.length ≤ bytes.length ∧
      (encode (parts.map Part.character)).length ≤ 3 * bytes.length := by
  induction divides with
  | nil => exact ⟨Nat.le_refl 0, Nat.le_refl 0⟩
  | @cons part rest parts first others ih =>
      have bounds := first.length_le
      simp only [List.length_cons, List.length_append, List.map_cons, encode, List.flatMap_cons]
        at ih ⊢
      omega

/-- Every byte sequence has exactly one division into encoded characters and maximal ill-formed
subparts.  Its segments are not empty and make up the sequence, and the lenient view has the
character of each of them.  So it has no more characters than there are bytes, and its own
encoding is at most three times as long. -/
theorem lossy_division (bytes : List UInt8) :
    exists parts, Divides bytes parts ∧ (forall others, Divides bytes others -> others = parts) ∧
      (parts.map Part.segment).flatten = bytes ∧ (forall part, part ∈ parts -> part.segment ≠ []) ∧
      lossy bytes = parts.map Part.character ∧ (lossy bytes).length ≤ bytes.length ∧
      (encode (lossy bytes)).length ≤ 3 * bytes.length := by
  rcases contribute_readFrom bytes [] .idle rfl with ⟨parts, divides, _⟩
  have contributed := divides.map_character
  have bounds := divides.length_le
  rw [contributed, ← List.length_map Part.character, contributed] at bounds
  exact ⟨parts, divides, fun others again => divides.unique again, divides.flatten,
    divides.ne_nil, contributed.symm, bounds⟩

/-- Three bytes of which the last is missing, a surrogate that is cut off behind its second byte,
and an encoded character: the first two bytes are one part, those of the surrogate are two. -/
theorem lossy_division_truncated :
    let bytes : List UInt8 := [0xE2, 0x82, 0xED, 0xA0, 0xC3, 0xA9]
    let parts : List Part :=
      [⟨[0xE2, 0x82], replacement⟩, ⟨[0xED], replacement⟩, ⟨[0xA0], replacement⟩,
        ⟨[0xC3, 0xA9], Char.ofNat 0xE9⟩]
    Divides bytes parts ∧
      lossy bytes = [replacement, replacement, replacement, Char.ofNat 0xE9] ∧
      forall others, Divides bytes others -> others = parts := by
  intro bytes parts
  have three : Lead.of? 0xE2 = some ⟨0x2, 2, 0x80, 0xBF⟩ := rfl
  have cut : IsSubpart [0xE2, 0x82] [0xED, 0xA0, 0xC3, 0xA9] :=
    ((Unfinished.of_lead three).next (by decide) (by decide)).isSubpart_of_unexpected (by decide) _
  have narrow : Lead.of? 0xED = some ⟨0xD, 2, 0x80, 0x9F⟩ := rfl
  have surrogate : IsSubpart [0xED] [0xA0, 0xC3, 0xA9] :=
    (Unfinished.of_lead narrow).isSubpart_of_unexpected (by decide) _
  have stray : IsSubpart [0xA0] [0xC3, 0xA9] := isSubpart_of_silent (by decide) rfl _
  have divides : Divides bytes parts :=
    .cons (.replaced cut) (.cons (.replaced surrogate) (.cons (.replaced stray)
      (.cons (.encoded (Char.ofNat 0xE9) []) .nil)))
  rcases lossy_division bytes with ⟨found, _, unique, _, _, view, _⟩
  rcases unique parts divides with rfl
  exact ⟨divides, view, unique⟩

end Utf8
end Text
end WhitespaceBench
