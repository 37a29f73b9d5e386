import WhitespaceBench.Proofs.LossySegments

namespace WhitespaceBench
namespace Text
namespace Utf8

/-!
# The lenient view starts afresh at every ASCII byte

Bytes can be cut behind or in front of any ASCII byte and read in pieces.  A cut may fall into
the middle of a sequence, and then the reader has something unfinished there.  No ASCII byte
continues it, so it is given up with one replacement, which is what the end of the bytes would
have made of it; the ASCII byte itself is then read as if nothing had been unfinished.
Soundness of the reader is all that is needed of the bytes in front.
-/

namespace Reader

/-- An ASCII byte ends what is unfinished as the end of the bytes would end it, and is then read
for itself. -/
theorem readFrom_of_ascii {pending : Pending} (sound : pending.IsSound) {byte : UInt8}
    (small : byte < 0x80) (bytes : List UInt8) :
    readFrom pending (byte :: bytes) =
      readFrom pending [] ++ Char.ofNat byte.toNat :: readFrom .idle bytes := by
  cases pending with
  | idle => exact readFrom_ascii small bytes
  | awaiting code needed low high =>
      have unexpected : Not (low ≤ byte ∧ byte ≤ high) :=
        fun inRange => not_ascii_of_inRange sound inRange small
      rw [readFrom_blocked unexpected, readFrom_ascii small]
      rfl

/-- The bytes in front of an ASCII byte are read as if nothing came behind them, and those behind
it as if nothing stood in front.  The induction is on the bytes in front: each of them leaves the
reader sound. -/
theorem readFrom_append_ascii {byte : UInt8} (small : byte < 0x80) (after before : List UInt8)
    {pending : Pending} (sound : pending.IsSound) :
    readFrom pending (before ++ byte :: after) =
      readFrom pending before ++ Char.ofNat byte.toNat :: readFrom .idle after := by
  induction before generalizing pending with
  | nil => exact readFrom_of_ascii sound small after
  | cons first before ih =>
      have later := ih (step_isSound ⟨pending, []⟩ first sound)
      rw [List.cons_append, readFrom_cons, readFrom_cons, later, List.append_assoc]

end Reader

/-- An ASCII character of the lenient view is one of the bytes. -/
theorem mem_of_mem_lossy {bytes : List UInt8} {character : Char}
    (member : character ∈ lossy bytes) (small : character.toNat < 0x80) :
    UInt8.ofNat character.toNat ∈ bytes := by
  have kept : UInt8.ofNat character.toNat ∈ asciiBytes (lossy bytes) :=
    List.mem_map.mpr ⟨character, List.mem_filter.mpr ⟨member, decide_eq_true small⟩, rfl⟩
  rw [asciiBytes_lossy] at kept
  exact (List.mem_filter.mp kept).1

/-- Bytes are read in two pieces around any ASCII byte, whatever stands unfinished in front of
it; and bytes among which there is no ASCII are read without an ASCII character. -/
theorem lossy_around_ascii :
    (forall (before after : List UInt8) (byte : UInt8), byte < 0x80 ->
      lossy (before ++ [byte] ++ after) =
        lossy before ++ [Char.ofNat byte.toNat] ++ lossy after) ∧
    forall bytes : List UInt8, (forall byte, byte ∈ bytes -> 0x80 ≤ byte) ->
      forall character, character ∈ lossy bytes -> 0x80 ≤ character.toNat := by
  constructor
  · intro before after byte small
    rw [List.append_assoc, List.append_assoc]
    exact Reader.readFrom_append_ascii small after before trivial
  · intro bytes above character member
    by_contra small
    have below : character.toNat < 0x80 := Nat.lt_of_not_le small
    have large := UInt8.le_iff_toNat_le.mp (above _ (mem_of_mem_lossy member below))
    rw [UInt8.toNat_ofNat_of_lt' (Nat.lt_trans below (by decide))] at large
    exact small large

/-- A blank between the halves of a sequence of four bytes: the first half is given up as one
part, and each byte of the second half is a part of its own. -/
theorem lossy_around_ascii_blank :
    (0x20 : UInt8) < 0x80 ∧
      lossy ([0xF0, 0x9F] ++ [0x20] ++ [0x98, 0x80]) =
        [replacement] ++ [' '] ++ [replacement, replacement] ∧
      (forall byte, byte ∈ ([0xF0, 0x9F] : List UInt8) -> 0x80 ≤ byte) ∧
      forall character, character ∈ lossy [0xF0, 0x9F] -> 0x80 ≤ character.toNat := by
  have small : (0x20 : UInt8) < 0x80 := by decide
  have above : forall byte, byte ∈ ([0xF0, 0x9F] : List UInt8) -> 0x80 ≤ byte :=
    List.forall_mem_cons.mpr ⟨by decide, List.forall_mem_singleton.mpr (by decide)⟩
  have pieces := lossy_around_ascii.1 [0xF0, 0x9F] [0x98, 0x80] 0x20 small
  exact ⟨small, pieces.trans (by decide), above, lossy_around_ascii.2 [0xF0, 0x9F] above⟩

end Utf8
end Text
end WhitespaceBench
