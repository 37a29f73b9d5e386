import WhitespaceBench.Random.KeyStream

namespace WhitespaceBench
namespace Random

/-!
# Random sources

A source is asked for a number of bytes.  It either gives exactly that many or
fails with a message, and in both cases it passes to a new state.
-/

abbrev Bytes (count : Nat) := { bytes : List UInt8 // bytes.length = count }

/-- A source of random bytes over states of a given type. -/
structure Source (State : Type) where
  fill : State -> (count : Nat) -> State × Except String (Bytes count)

namespace Source

/-- The first `count` bytes of a list, the missing ones taken as zero. -/
def exactly (count : Nat) (bytes : List UInt8) : Bytes count :=
  ⟨(bytes ++ List.replicate (count - bytes.length) 0).take count, by
    rw [List.length_take, List.length_append, List.length_replicate]
    omega⟩

/-- The key stream of a seed.  The state is the number of words drawn; a fill that
ends inside a word uses the word up. -/
def seeded (key : Key) : Source Nat where
  fill drawn count :=
    (drawn + (count + 3) / 4,
      .ok (exactly count ((key.stream (4 * drawn + count)).drop (4 * drawn))))

/-- The bytes of a repeated cycle from a place in it, newest first. -/
def cycleFrom (cycle : Array UInt8) : (count place : Nat) -> (taken : List UInt8) -> List UInt8
  | 0, _, taken => taken
  | count + 1, place, taken =>
      cycleFrom cycle count (place + 1) (cycle.getD (place % cycle.size) 0 :: taken)

/-- A source that repeats a cycle of bytes.  The state is the number of bytes
drawn, so a draw goes on where the one before it stopped. -/
def cycle (bytes : List UInt8) : Source Nat where
  fill drawn count :=
    (drawn + count, .ok (exactly count (cycleFrom bytes.toArray count drawn []).reverse))

/-- A source that always fails with the same message. -/
def failing (message : String) : Source Unit where
  fill state _ := (state, .error message)

/-- A source whose bytes were drawn beforehand; it fails once they run out. -/
def supplied : Source (List UInt8) where
  fill bytes count :=
    if enough : count ≤ bytes.length then
      (bytes.drop count, .ok ⟨bytes.take count, by rw [List.length_take]; omega⟩)
    else (bytes, .error "not enough entropy")

end Source
end Random
end WhitespaceBench
