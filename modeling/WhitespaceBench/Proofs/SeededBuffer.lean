import Mathlib
import WhitespaceBench.Proofs.BlockFunction
import WhitespaceBench.Proofs.SuccessiveDraws

namespace WhitespaceBench

/-!
# The bytes of a seed

The key stream is written block by block, each block word by word and each word byte by
byte, and is cut off where the buffer ends, in the middle of a word or of a block.  Since
all blocks have one size, and all words another, a byte is found by dividing its place:
the block is the quotient by 64, and within the block its place is the remainder.  The
length of the stream does not occur in this, so a shorter stream is the beginning of a
longer one.
-/

namespace Random

@[simp] theorem length_wordBytes (word : UInt32) : (wordBytes word).length = 4 := rfl

/-- The bytes of a word are its digits, least significant first. -/
theorem getElem?_wordBytes (word : UInt32) (place : Fin 4) :
    (wordBytes word)[place.val]? = some (UInt8.ofNat (word.toNat / 256 ^ place.val)) := by
  have digit : forall shift : UInt32, (word >>> shift).toUInt8 =
      UInt8.ofNat (word.toNat / 2 ^ (shift.toNat % 32)) := by
    intro shift
    apply UInt8.toNat_inj.mp
    rw [UInt32.toNat_toUInt8, UInt32.toNat_shiftRight, Nat.shiftRight_eq_div_pow,
      UInt8.toNat_ofNat']
  fin_cases place
  · exact congrArg some (by simp)
  · exact congrArg some (digit 8)
  · exact congrArg some (digit 16)
  · exact congrArg some (digit 24)

namespace Key

@[simp] theorem length_blockBytes (key : Key) (counter : UInt64) :
    (key.blockBytes counter).length = 64 :=
  rfl

theorem getElem?_blockBytes (key : Key) (counter : UInt64) (place : Fin 64) :
    (key.blockBytes counter)[place.val]? = some (ChaCha.blockByte key.words counter place) := by
  have word : place.val / 4 < 16 := by omega
  have rest : place.val % 4 < 4 := Nat.mod_lt _ (by decide)
  rw [blockBytes, blockWords_eq, getElem?_flatMap (by decide) (fun word _ => length_wordBytes word),
    List.getElem?_ofFn, dif_pos word, Option.bind_some]
  exact getElem?_wordBytes _ ⟨_, rest⟩

-- The first bytes under a key of zeros, as they are published for eight rounds.
example : ((List.finRange 64).map (ChaCha.blockByte 0 0)).take 8 =
    [0x3E, 0x00, 0xEF, 0x2F, 0x89, 0x5F, 0x40, 0xD6] := by
  decide +kernel

/-- A byte of the stream, by the number of its block and its place in the block.  The stream
may end inside a word or a block. -/
theorem getElem?_stream (key : Key) {length place : Nat} (inside : place < length) :
    (key.stream length)[place]? =
      some (ChaCha.blockByte key.words (UInt64.ofNat (place / 64))
        ⟨place % 64, Nat.mod_lt _ (by decide)⟩) := by
  have started : place / 64 < (length + 63) / 64 := by omega
  have rest : place % 64 < 64 := Nat.mod_lt _ (by decide)
  rw [stream, List.getElem?_take_of_lt inside,
    getElem?_flatMap (by decide) (fun index _ => length_blockBytes key (UInt64.ofNat index)),
    List.getElem?_range started, Option.bind_some]
  exact getElem?_blockBytes key _ ⟨_, rest⟩

@[simp] theorem length_stream (key : Key) (length : Nat) : (key.stream length).length = length := by
  have blocks : ((List.range ((length + 63) / 64)).flatMap fun index =>
      key.blockBytes (UInt64.ofNat index)).length = (length + 63) / 64 * 64 := by
    simp [List.length_flatMap]
  rw [stream, List.length_take, blocks]
  omega

theorem take_stream (key : Key) {shorter longer : Nat} (le : shorter ≤ longer) :
    (key.stream longer).take shorter = key.stream shorter := by
  apply List.ext_getElem?
  intro place
  by_cases inside : place < shorter
  · rw [List.getElem?_take_of_lt inside, getElem?_stream key (Nat.lt_of_lt_of_le inside le),
      getElem?_stream key inside]
  · have beyond : shorter ≤ place := Nat.le_of_not_lt inside
    rw [List.getElem?_take_eq_none beyond, List.getElem?_eq_none (by simpa using beyond)]

end Key

@[simp] theorem Source.fill_seeded (key : Key) (count : Nat) :
    (Source.seeded key).fill 0 count =
      ((count + 3) / 4, .ok ⟨key.stream count, key.length_stream count⟩) := by
  simp only [Source.seeded, Nat.mul_zero, Nat.zero_add, List.drop_zero,
    Source.exactly_of_length (key.length_stream count)]

end Random

namespace Buffer

/-- The buffer of a seed is the key stream of the seed, as far as the length goes. -/
theorem generateSeeded_stream {machine : Machine} {length : UInt64}
    (admits : machine.Admits length) (seed : UInt64) :
    exists buffer : Buffer, (generateSeeded machine length seed).result = .ok buffer ∧
      buffer.bytes = (Random.Key.ofSeed seed).stream length.toNat := by
  have answer := Random.Source.fill_seeded (Random.Key.ofSeed seed) length.toNat
  rcases exists_buffer admits ⟨_, Random.Key.length_stream _ _⟩ with ⟨buffer, same⟩
  refine ⟨buffer, ?_, same⟩
  rw [generateSeeded, generate_of_bytes admits answer same]
  rfl

/-- Where there is memory, the buffer of a seed has the length that was asked for, and each of
its bytes is the byte of the block function at its place, under the key of the seed.  A shorter
buffer of the same seed is its beginning, on whatever machine. -/
theorem generateSeeded_blocks {machine : Machine} {length : UInt64}
    (admits : machine.Admits length) (seed : UInt64) :
    exists buffer : Buffer, (generateSeeded machine length seed).result = .ok buffer ∧
      buffer.bytes.length = length.toNat ∧
      (forall place : Nat, place < length.toNat ->
        exists counter : UInt64, counter.toNat = place / 64 ∧
          buffer.bytes[place]? =
            some (Random.ChaCha.blockByte (Random.ChaCha.seedKey seed) counter
              ⟨place % 64, Nat.mod_lt _ (by decide)⟩)) ∧
      forall (other : Machine) (shorter : UInt64), shorter ≤ length -> other.Admits shorter ->
        exists beginning : Buffer, (generateSeeded other shorter seed).result = .ok beginning ∧
          beginning.bytes = buffer.bytes.take shorter.toNat := by
  rcases generateSeeded_stream admits seed with ⟨buffer, drawn, bytes⟩
  refine ⟨buffer, drawn, by simp [bytes], ?_, ?_⟩
  · intro place inside
    have bound := length.toNat_lt
    have unwrapped : place / 64 < UInt64.size := by
      rw [UInt64.size]
      omega
    refine ⟨UInt64.ofNat (place / 64), UInt64.toNat_ofNat_of_lt' unwrapped, ?_⟩
    simp [bytes, Random.Key.getElem?_stream _ inside]
  · intro other shorter le granted
    rcases generateSeeded_stream granted seed with ⟨beginning, given, start⟩
    refine ⟨beginning, given, ?_⟩
    rw [start, bytes, Random.Key.take_stream _ (UInt64.le_iff_toNat_le.mp le)]

/-- A length that ends in the middle of a word of the second block, and one inside the first
word. -/
theorem generateSeeded_blocks_partial :
    let ample := Machine.bounded 1 100
    let small := Machine.bounded 2 4
    ample.Admits 70 ∧ small.Admits 3 ∧
      exists buffer : Buffer, (generateSeeded ample 70 1).result = .ok buffer ∧
        buffer.bytes.length = 70 ∧
        buffer.bytes[69]? = some (Random.ChaCha.blockByte (Random.ChaCha.seedKey 1) 1 5) ∧
        exists beginning : Buffer, (generateSeeded small 3 1).result = .ok beginning ∧
          beginning.bytes = buffer.bytes.take 3 := by
  intro ample small
  have admits : ample.Admits 70 := by decide
  have granted : small.Admits 3 := by decide
  rcases generateSeeded_blocks admits 1 with ⟨buffer, drawn, exact, bytes, shorter⟩
  rcases bytes 69 (by decide) with ⟨counter, second, last⟩
  have first : counter = 1 := UInt64.toNat_inj.mp second
  exact ⟨admits, granted, buffer, drawn, exact, by rw [last, first]; rfl,
    shorter small 3 (by decide) granted⟩

end Buffer
end WhitespaceBench
