import Mathlib
import WhitespaceBench.Random.KeyStream

namespace WhitespaceBench
namespace Random

/-!
# The block function, word by word

The key stream works on whole rows.  Here the same function is written down in its usual
form: sixteen numbered words, a quarter round that names the four words it changes, and
rounds made of four quarter rounds each, first down the columns and then along the
diagonals.  Both forms give the same block.

Each byte of a block is then determined on its own, by the word that it belongs to and its
place in that word, least significant byte first.
-/

namespace ChaCha

/-- The sixteen words of a block in order. -/
abbrev State := Fin 16 -> UInt32

def rotateLeft (word : UInt32) (distance : Nat) : UInt32 :=
  ⟨word.toBitVec.rotateLeft distance⟩

/-- Adds word `b` to word `a`; word `d` is then combined with the sum and rotated. -/
def mix (a b d : Fin 16) (distance : Nat) (state : State) : State :=
  let sum := state a + state b
  Function.update (Function.update state a sum) d (rotateLeft (state d ^^^ sum) distance)

/-- The quarter round on four of the words. -/
def quarterRound (a b c d : Fin 16) (state : State) : State :=
  mix c d b 7 (mix a b d 8 (mix c d b 12 (mix a b d 16 state)))

def columns (state : State) : State :=
  quarterRound 3 7 11 15
    (quarterRound 2 6 10 14 (quarterRound 1 5 9 13 (quarterRound 0 4 8 12 state)))

def diagonals (state : State) : State :=
  quarterRound 3 4 9 14
    (quarterRound 2 7 8 13 (quarterRound 1 6 11 12 (quarterRound 0 5 10 15 state)))

/-- The words that the rounds start from: four constants, the key, the block counter in two
halves and a nonce of zero. -/
def start (key : Fin 8 -> UInt32) (counter : UInt64) : State :=
  ![0x61707865, 0x3320646e, 0x79622d32, 0x6b206574, key 0, key 1, key 2, key 3, key 4, key 5,
    key 6, key 7, counter.toUInt32, (counter >>> 32).toUInt32, 0, 0]

/-- The block of a counter: eight rounds, and the words that they started from added. -/
def block (key : Fin 8 -> UInt32) (counter : UInt64) : State :=
  fun place => (diagonals ∘ columns)^[4] (start key counter) place + start key counter place

/-- One of the 64 bytes of a block. -/
def blockByte (key : Fin 8 -> UInt32) (counter : UInt64) (place : Fin 64) : UInt8 :=
  UInt8.ofNat ((block key counter ⟨place / 4, by omega⟩).toNat / 256 ^ (place.val % 4))

/-- The word that a state of the congruential generator puts out. -/
def permuted (state : UInt64) : UInt32 :=
  ⟨(((state >>> 18) ^^^ state) >>> 27).toUInt32.toBitVec.rotateRight (state.toNat / 2 ^ 59)⟩

/-- The key of a seed: the generator makes a step in front of every word. -/
def seedKey (seed : UInt64) (place : Fin 8) : UInt32 :=
  permuted ((fun state => state * 6364136223846793005 + 11634580027462260723)^[place + 1] seed)

end ChaCha

/-! ## Rotations -/

theorem toBitVec_shiftLeft (word distance : UInt32) :
    (word <<< distance).toBitVec = word.toBitVec <<< (distance.toNat % 32) := rfl

theorem toBitVec_shiftRight (word distance : UInt32) :
    (word >>> distance).toBitVec = word.toBitVec >>> (distance.toNat % 32) := rfl

theorem toNat_sub_distance {distance : UInt32} (short : distance.toNat < 32) :
    (32 - distance).toNat = 32 - distance.toNat :=
  UInt32.toNat_sub_of_le _ _ (Nat.le_of_lt short)

theorem rotateLeft_eq_rotateWord (word distance : UInt32) (pos : 0 < distance.toNat)
    (short : distance.toNat < 32) :
    ChaCha.rotateLeft word distance.toNat = Row.rotateWord distance word := by
  have rest : 32 - distance.toNat < 32 := by omega
  apply UInt32.toBitVec_inj.mp
  rw [ChaCha.rotateLeft, Row.rotateWord, UInt32.toBitVec_or, toBitVec_shiftLeft,
    toBitVec_shiftRight, toNat_sub_distance short, Nat.mod_eq_of_lt short, Nat.mod_eq_of_lt rest,
    BitVec.rotateLeft_def, Nat.mod_eq_of_lt short]

/-- The distances that the rounds rotate by. -/
theorem rotateLeft_distances (word : UInt32) :
    ChaCha.rotateLeft word 16 = Row.rotateWord 16 word ∧
      ChaCha.rotateLeft word 12 = Row.rotateWord 12 word ∧
      ChaCha.rotateLeft word 8 = Row.rotateWord 8 word ∧
      ChaCha.rotateLeft word 7 = Row.rotateWord 7 word :=
  ⟨rotateLeft_eq_rotateWord word 16 (by decide) (by decide),
    rotateLeft_eq_rotateWord word 12 (by decide) (by decide),
    rotateLeft_eq_rotateWord word 8 (by decide) (by decide),
    rotateLeft_eq_rotateWord word 7 (by decide) (by decide)⟩

/-- A rotation to the right by the complementary shift.  At distance zero the shift to the left
is by nothing and not by a whole word, which makes no difference. -/
theorem toBitVec_rotateRight (word distance : UInt32) (short : distance.toNat < 32) :
    ((word >>> distance) ||| (word <<< (32 - distance))).toBitVec =
      word.toBitVec.rotateRight distance.toNat := by
  rw [UInt32.toBitVec_or, toBitVec_shiftLeft, toBitVec_shiftRight, toNat_sub_distance short,
    BitVec.rotateRight_def, Nat.mod_eq_of_lt short]
  by_cases none : distance.toNat = 0
  · simp [none]
  · rw [Nat.mod_eq_of_lt (by omega : 32 - distance.toNat < 32)]

/-! ## Blocks -/

namespace Block

/-- The words of a block by their numbers. -/
def state (block : Block) : ChaCha.State :=
  ![block.constants.first, block.constants.second, block.constants.third, block.constants.fourth,
    block.keyLow.first, block.keyLow.second, block.keyLow.third, block.keyLow.fourth,
    block.keyHigh.first, block.keyHigh.second, block.keyHigh.third, block.keyHigh.fourth,
    block.counter.first, block.counter.second, block.counter.third, block.counter.fourth]

theorem words_eq_ofFn (block : Block) : block.words = List.ofFn block.state := rfl

@[simp] theorem state_add (left right : Block) (place : Fin 16) :
    (left.add right).state place = left.state place + right.state place := by
  fin_cases place <;> rfl

@[simp] theorem state_columnRound (block : Block) :
    block.columnRound.state = ChaCha.columns block.state := by
  funext place
  simp only [ChaCha.columns, ChaCha.quarterRound, ChaCha.mix, rotateLeft_distances]
  fin_cases place <;> rfl

/-- On turned rows the columns are the diagonals. -/
@[simp] theorem state_diagonalRound (block : Block) :
    block.turned.columnRound.turnedBack.state = ChaCha.diagonals block.state := by
  funext place
  simp only [ChaCha.diagonals, ChaCha.quarterRound, ChaCha.mix, rotateLeft_distances]
  fin_cases place <;> rfl

@[simp] theorem state_doubleRound (block : Block) :
    block.doubleRound.state = (ChaCha.diagonals ∘ ChaCha.columns) block.state := by
  simp [doubleRound]

end Block

namespace Key

def words (key : Key) : Fin 8 -> UInt32 :=
  ![key.low.first, key.low.second, key.low.third, key.low.fourth,
    key.high.first, key.high.second, key.high.third, key.high.fourth]

@[simp] theorem state_initialBlock (key : Key) (counter : UInt64) :
    (key.initialBlock counter).state = ChaCha.start key.words counter := rfl

theorem blockWords_eq (key : Key) (counter : UInt64) :
    key.blockWords counter = List.ofFn (ChaCha.block key.words counter) := by
  rw [blockWords, Block.words_eq_ofFn]
  congr 1
  funext place
  simp only [Block.state_add, Block.state_doubleRound, state_initialBlock]
  rfl

/-- The word that the generator puts out is a rotation of some of the bits of its state. -/
theorem output_eq_permuted (state : UInt64) : output state = ChaCha.permuted state := by
  have bound := state.toNat_lt
  have places : (state >>> 59).toUInt32.toNat = state.toNat / 2 ^ 59 := by
    simp only [UInt64.toNat_toUInt32, UInt64.toNat_shiftRight, Nat.shiftRight_eq_div_pow,
      UInt64.reduceToNat, Nat.reduceMod]
    omega
  apply UInt32.toBitVec_inj.mp
  rw [ChaCha.permuted, ← places]
  exact toBitVec_rotateRight _ _ (by rw [places]; omega)

@[simp] theorem words_ofSeed (seed : UInt64) : (ofSeed seed).words = ChaCha.seedKey seed := by
  funext place
  rw [ChaCha.seedKey, ← output_eq_permuted]
  fin_cases place <;> rfl

end Key
end Random
end WhitespaceBench
