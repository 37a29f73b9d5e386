import WhitespaceBench.Buffer
import WhitespaceBench.Event
import WhitespaceBench.Machine
import WhitespaceBench.Random.Source

namespace WhitespaceBench
namespace Buffer

/-!
# Random buffers

A buffer is made in two steps: memory for it is reserved, and then it is filled from a
random source in a single request.  If there is no memory the source is not asked.
-/

/-- The number of leading bytes that are logged. -/
def previewLength : Nat := 16

/-- Draws a buffer from a source. -/
def generate {State : Type} (machine : Machine) (length : UInt64)
    (source : Random.Source State) (state : State) :
    State × Logged (Except ScanError Buffer) :=
  match machine.reserve length with
  | .error fault => (state, ⟨[], .error (.allocation length fault)⟩)
  | .ok size =>
      match source.fill state size.1 with
      | (next, .error reason) => (next, ⟨[], .error (.randomSource reason)⟩)
      | (next, .ok bytes) =>
          let buffer : Buffer := ⟨bytes.1, by rw [bytes.2]; exact size.2.2⟩
          (next, ⟨[.bufferReady buffer.length (buffer.headHex previewLength)], .ok buffer⟩)

/-- Draws buffers one after the other from the same source. -/
def generateMany {State : Type} (machine : Machine) (length : UInt64)
    (source : Random.Source State) :
    (count : Nat) -> State -> State × List (Logged (Except ScanError Buffer))
  | 0, state => (state, [])
  | count + 1, state =>
      let (next, first) := generate machine length source state
      let (last, others) := generateMany machine length source count next
      (last, first :: others)

def generateSeeded (machine : Machine) (length seed : UInt64) :
    Logged (Except ScanError Buffer) :=
  (generate machine length (Random.Source.seeded (Random.Key.ofSeed seed)) 0).2.after
    [.generatingFromSeed length seed]

def generateFromEntropy {State : Type} (machine : Machine) (length : UInt64)
    (entropy : Random.Source State) (state : State) :
    State × Logged (Except ScanError Buffer) :=
  let (next, drawn) := generate machine length entropy state
  (next, drawn.after [.generatingFromEntropy length])

end Buffer
end WhitespaceBench
