namespace WhitespaceBench
namespace Random

/-!
# The seeded key stream

A 64-bit seed is expanded to a 256-bit key by a permuted congruential generator.
Under that key the ChaCha function with eight rounds gives one block of 64 bytes
for each value of a 64-bit block counter, with a nonce of zero.  The stream is
the blocks in the order of their counters.

The sixteen words of a state stand in four rows.  A round adds, xors and rotates
whole rows, so it works on the four columns at once; the diagonals are brought
into the columns by turning the rows, and turned back afterwards.
-/

/-- Four words that are worked on together. -/
structure Row where
  first : UInt32
  second : UInt32
  third : UInt32
  fourth : UInt32
deriving Repr, DecidableEq

namespace Row

def add (left right : Row) : Row :=
  ⟨left.first + right.first, left.second + right.second,
    left.third + right.third, left.fourth + right.fourth⟩

def xor (left right : Row) : Row :=
  ⟨left.first ^^^ right.first, left.second ^^^ right.second,
    left.third ^^^ right.third, left.fourth ^^^ right.fourth⟩

def rotateWord (distance : UInt32) (word : UInt32) : UInt32 :=
  (word <<< distance) ||| (word >>> (32 - distance))

def rotate (distance : UInt32) (row : Row) : Row :=
  ⟨rotateWord distance row.first, rotateWord distance row.second,
    rotateWord distance row.third, rotateWord distance row.fourth⟩

/-- Turns a row by one place: the second word comes first. -/
def turn (row : Row) : Row :=
  ⟨row.second, row.third, row.fourth, row.first⟩

def words (row : Row) : List UInt32 :=
  [row.first, row.second, row.third, row.fourth]

end Row

/-- The state of a block, row by row. -/
structure Block where
  constants : Row
  keyLow : Row
  keyHigh : Row
  counter : Row
deriving Repr, DecidableEq

namespace Block

/-- The quarter round on the four columns at once. -/
def columnRound (block : Block) : Block :=
  let a := block.constants.add block.keyLow
  let d := (block.counter.xor a).rotate 16
  let c := block.keyHigh.add d
  let b := (block.keyLow.xor c).rotate 12
  let a := a.add b
  let d := (d.xor a).rotate 8
  let c := c.add d
  let b := (b.xor c).rotate 7
  ⟨a, b, c, d⟩

/-- Brings the diagonals into the columns. -/
def turned (block : Block) : Block :=
  ⟨block.constants, block.keyLow.turn, block.keyHigh.turn.turn, block.counter.turn.turn.turn⟩

/-- Takes the diagonals back to their places. -/
def turnedBack (block : Block) : Block :=
  ⟨block.constants, block.keyLow.turn.turn.turn, block.keyHigh.turn.turn, block.counter.turn⟩

/-- A round on the columns followed by a round on the diagonals. -/
def doubleRound (block : Block) : Block :=
  block.columnRound.turned.columnRound.turnedBack

def add (left right : Block) : Block :=
  ⟨left.constants.add right.constants, left.keyLow.add right.keyLow,
    left.keyHigh.add right.keyHigh, left.counter.add right.counter⟩

def words (block : Block) : List UInt32 :=
  block.constants.words ++ block.keyLow.words ++ block.keyHigh.words ++ block.counter.words

end Block

structure Key where
  low : Row
  high : Row
deriving Repr, DecidableEq

/-- The four bytes of a word, least significant first. -/
def wordBytes (word : UInt32) : List UInt8 :=
  [word.toUInt8, (word >>> 8).toUInt8, (word >>> 16).toUInt8, (word >>> 24).toUInt8]

namespace Key

def initialBlock (key : Key) (counter : UInt64) : Block :=
  ⟨⟨0x61707865, 0x3320646e, 0x79622d32, 0x6b206574⟩, key.low, key.high,
    ⟨counter.toUInt32, (counter >>> 32).toUInt32, 0, 0⟩⟩

/-- The sixteen words of the stream at a block counter: eight rounds, and the
initial block added to their result. -/
def blockWords (key : Key) (counter : UInt64) : List UInt32 :=
  let start := key.initialBlock counter
  (start.doubleRound.doubleRound.doubleRound.doubleRound.add start).words

/-- The 64 bytes of the stream at a block counter. -/
def blockBytes (key : Key) (counter : UInt64) : List UInt8 :=
  (key.blockWords counter).flatMap wordBytes

/-- The first bytes of the stream. -/
def stream (key : Key) (length : Nat) : List UInt8 :=
  ((List.range ((length + 63) / 64)).flatMap fun index =>
    key.blockBytes (UInt64.ofNat index)).take length

/-- One step of the congruential generator. -/
def advance (state : UInt64) : UInt64 :=
  state * 6364136223846793005 + 11634580027462260723

/-- The word that a generator state puts out: some of its bits, rotated to the
right by as many places as its five highest bits say. -/
def output (state : UInt64) : UInt32 :=
  let shifted := (((state >>> 18) ^^^ state) >>> 27).toUInt32
  let distance := (state >>> 59).toUInt32
  (shifted >>> distance) ||| (shifted <<< (32 - distance))

/-- The key expanded from a seed. -/
def ofSeed (seed : UInt64) : Key :=
  let s1 := advance seed
  let s2 := advance s1
  let s3 := advance s2
  let s4 := advance s3
  let s5 := advance s4
  let s6 := advance s5
  let s7 := advance s6
  let s8 := advance s7
  ⟨⟨output s1, output s2, output s3, output s4⟩, ⟨output s5, output s6, output s7, output s8⟩⟩

end Key
end Random
end WhitespaceBench
