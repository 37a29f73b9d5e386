import Mathlib
import WhitespaceBench.Buffer.Random

namespace WhitespaceBench

/-!
# Successive draws from one source

Buffers may be drawn one after the other from the same source.  A draw for which there is
no memory does not touch the source, so the next draw goes on where the last one that was
granted stopped.  Every other draw asks the source once, for the whole length, even if that
is zero, and passes its answer on.  The answers of the granted draws are therefore the
consecutive answers of the source, and nothing between them is lost or repeated.

Memory may be had at one time and not at another, so each draw has a machine of its own: the
machine as it is then.
-/

namespace Machine

/-- The memory for so many bytes can be addressed and is granted. -/
def Admits (machine : Machine) (length : UInt64) : Prop :=
  length.toNat < 0x8000000000000000 ∧ machine.grants length = true

instance (machine : Machine) (length : UInt64) : Decidable (machine.Admits length) :=
  inferInstanceAs (Decidable (_ ∧ _))

@[simp] theorem reserve_of_admits {machine : Machine} {length : UInt64}
    (admits : machine.Admits length) :
    machine.reserve length = .ok ⟨length.toNat, rfl, admits.1⟩ := by
  rw [reserve, dif_pos admits.1, if_pos admits.2]

theorem reserve_eq_error_iff {machine : Machine} {length : UInt64} :
    (exists fault, machine.reserve length = .error fault) <-> Not (machine.Admits length) := by
  constructor
  · rintro ⟨fault, refused⟩ admits
    cases refused.symm.trans (reserve_of_admits admits)
  · intro refused
    rw [reserve]
    split_ifs with addressable granted
    · exact absurd ⟨addressable, granted⟩ refused
    · exact ⟨_, rfl⟩
    · exact ⟨_, rfl⟩

end Machine

namespace Random.Source

variable {State : Type}

/-- The answers of a source that is asked a number of times for as many bytes. -/
def fills (source : Source State) (count : Nat) :
    (times : Nat) -> State -> State × List (Except String (List UInt8))
  | 0, state => (state, [])
  | times + 1, state =>
      let (next, answer) := source.fill state count
      let (last, answers) := source.fills count times next
      (last, answer.map Subtype.val :: answers)

/-- The same source, with a list of the numbers of bytes that it was asked for. -/
def recorded (source : Source State) : Source (State × List Nat) where
  fill held count :=
    (((source.fill held.1 count).1, held.2 ++ [count]), (source.fill held.1 count).2)

section Answers

variable {source : Source State} {state next : State} {count : Nat}
  {answer : Except String (Bytes count)}

theorem fills_succ (given : source.fill state count = (next, answer)) (times : Nat) :
    source.fills count (times + 1) state =
      ((source.fills count times next).1,
        answer.map Subtype.val :: (source.fills count times next).2) := by
  rw [fills, given]

theorem fill_recorded (given : source.fill state count = (next, answer)) (requests : List Nat) :
    source.recorded.fill (state, requests) count = ((next, requests ++ [count]), answer) := by
  simp only [recorded, given]

end Answers

/-! ## Repeated cycles -/

theorem exactly_of_length {bytes : List UInt8} {count : Nat} (full : bytes.length = count) :
    exactly count bytes = ⟨bytes, full⟩ := by
  apply Subtype.ext
  subst full
  change (bytes ++ List.replicate (bytes.length - bytes.length) 0).take bytes.length = bytes
  rw [List.take_left]

/-- The bytes that follow a place in a repeated cycle. -/
def turns (bytes : List UInt8) (place count : Nat) : List UInt8 :=
  (List.range count).map fun step => bytes.getD ((place + step) % bytes.length) 0

@[simp] theorem length_turns (bytes : List UInt8) (place count : Nat) :
    (turns bytes place count).length = count := by
  simp [turns]

/-- A longer draw is two shorter ones, the second of which goes on where the first stopped. -/
theorem turns_add (bytes : List UInt8) (place first second : Nat) :
    turns bytes place (first + second) =
      turns bytes place first ++ turns bytes (place + first) second := by
  simp only [turns, List.range_add, List.map_append, List.map_map, Function.comp_def,
    Nat.add_assoc]

theorem reverse_cycleFrom (bytes : List UInt8) (count place : Nat) (taken : List UInt8) :
    (cycleFrom bytes.toArray count place taken).reverse =
      taken.reverse ++ turns bytes place count := by
  induction count generalizing place taken with
  | zero => rw [cycleFrom, turns, List.range_zero, List.map_nil, List.append_nil]
  | succ count ih =>
      rw [cycleFrom, ih, Nat.add_comm count 1, turns_add, ← List.append_assoc, List.reverse_cons]
      simp [turns]

@[simp] theorem fill_cycle (bytes : List UInt8) (drawn count : Nat) :
    (cycle bytes).fill drawn count =
      (drawn + count, .ok ⟨turns bytes drawn count, length_turns bytes drawn count⟩) := by
  have given : (cycleFrom bytes.toArray count drawn []).reverse = turns bytes drawn count :=
    reverse_cycleFrom bytes count drawn []
  simp only [cycle, given, exactly_of_length (length_turns bytes drawn count)]

/-- The answers of a repeated cycle follow each other without a gap. -/
theorem fills_cycle (bytes : List UInt8) (count times drawn : Nat) :
    exists pieces : List (List UInt8), (cycle bytes).fills count times drawn =
        (drawn + times * count, pieces.map .ok) ∧
      pieces.length = times ∧ pieces.flatten = turns bytes drawn (times * count) := by
  induction times generalizing drawn with
  | zero => exact ⟨[], by simp [fills], rfl, by simp [turns]⟩
  | succ times ih =>
      rcases ih (drawn + count) with ⟨pieces, answered, length, joined⟩
      refine ⟨turns bytes drawn count :: pieces, ?_, congrArg Nat.succ length, ?_⟩
      · rw [fills_succ (fill_cycle bytes drawn count), answered, Nat.succ_mul,
          Nat.add_comm (times * count), Nat.add_assoc]
        rfl
      · rw [List.flatten_cons, joined, Nat.succ_mul, Nat.add_comm (times * count), turns_add]

end Random.Source

namespace Random

/-- In pieces of one size a byte is found by dividing its place by the size. -/
theorem getElem?_flatMap {Piece : Type} {bytes : Piece -> List UInt8} {size : Nat} (pos : 0 < size)
    {pieces : List Piece} (even : forall piece, piece ∈ pieces -> (bytes piece).length = size)
    (place : Nat) :
    (pieces.flatMap bytes)[place]? =
      pieces[place / size]?.bind fun piece => (bytes piece)[place % size]? := by
  induction pieces generalizing place with
  | nil => rfl
  | cons piece pieces ih =>
      rcases List.forall_mem_cons.mp even with ⟨here, others⟩
      rw [List.flatMap_cons]
      by_cases inside : place < size
      · rw [List.getElem?_append_left (here ▸ inside), Nat.div_eq_of_lt inside,
          Nat.mod_eq_of_lt inside]
        rfl
      · have beyond : size ≤ place := Nat.le_of_not_lt inside
        rw [List.getElem?_append_right (here ▸ beyond), here, ih others,
          Nat.div_eq_sub_div pos beyond, Nat.mod_eq_sub_mod beyond]
        rfl

/-- What a repeated cycle gives from its start is the beginning of the cycle, written often
enough. -/
theorem Source.turns_start {bytes : List UInt8} (started : bytes ≠ []) (count : Nat) :
    Source.turns bytes 0 count = ((List.replicate count bytes).flatten).take count := by
  have pos : 0 < bytes.length := List.length_pos_iff.mpr started
  apply List.ext_getElem?
  intro place
  by_cases inside : place < count
  · have even : forall piece, piece ∈ List.replicate count bytes ->
        (id piece).length = bytes.length := fun piece member =>
      congrArg List.length (List.eq_of_mem_replicate member)
    have earlier : place / bytes.length < count :=
      Nat.lt_of_le_of_lt (Nat.div_le_self _ _) inside
    have within : place % bytes.length < bytes.length := Nat.mod_lt _ pos
    rw [List.getElem?_take_of_lt inside, ← List.flatMap_id, getElem?_flatMap pos even]
    simp [Source.turns, inside, earlier, within]
  · have beyond : count ≤ place := Nat.le_of_not_lt inside
    rw [List.getElem?_eq_none (by simpa using beyond), List.getElem?_eq_none]
    exact Nat.le_trans (List.length_take_le _ _) beyond

end Random

namespace Buffer

variable {State : Type}

/-- What a draw does: without memory it leaves the source alone, and otherwise it passes the
source's answer on.  Only a buffer is announced. -/
inductive IsDraw (machine : Machine) (length : UInt64) (source : Random.Source State) :
    State -> Logged (Except ScanError Buffer) -> State -> Prop
  | refused {state : State} {fault : ReservationFault}
      (refusal : machine.reserve length = .error fault) :
      IsDraw machine length source state ⟨[], .error (.allocation length fault)⟩ state
  | failed {state next : State} {reason : String} (admits : machine.Admits length)
      (answer : source.fill state length.toNat = (next, .error reason)) :
      IsDraw machine length source state ⟨[], .error (.randomSource reason)⟩ next
  | filled {state next : State} {bytes : Random.Bytes length.toNat} {buffer : Buffer}
      (admits : machine.Admits length)
      (answer : source.fill state length.toNat = (next, .ok bytes))
      (same : buffer.bytes = bytes.1) (exact : buffer.length = length.toNat) :
      IsDraw machine length source state
        ⟨[.bufferReady buffer.length (buffer.headHex previewLength)], .ok buffer⟩ next

section Cases

variable {machine : Machine} {length : UInt64} {source : Random.Source State} {state next : State}

theorem generate_of_refusal {fault : ReservationFault}
    (refusal : machine.reserve length = .error fault) :
    generate machine length source state = (state, ⟨[], .error (.allocation length fault)⟩) := by
  rw [generate, refusal]

theorem generate_of_failure {reason : String} (admits : machine.Admits length)
    (answer : source.fill state length.toNat = (next, .error reason)) :
    generate machine length source state = (next, ⟨[], .error (.randomSource reason)⟩) := by
  rw [generate, Machine.reserve_of_admits admits]
  dsimp only
  rw [answer]

theorem generate_of_bytes {bytes : Random.Bytes length.toNat} (admits : machine.Admits length)
    (answer : source.fill state length.toNat = (next, .ok bytes)) {buffer : Buffer}
    (same : buffer.bytes = bytes.1) :
    generate machine length source state =
      (next, ⟨[.bufferReady buffer.length (buffer.headHex previewLength)], .ok buffer⟩) := by
  rcases buffer with ⟨held, short⟩
  rcases same with rfl
  rw [generate, Machine.reserve_of_admits admits]
  dsimp only
  rw [answer]

/-- The buffer that holds the bytes of an answer. -/
theorem exists_buffer (admits : machine.Admits length) (bytes : Random.Bytes length.toNat) :
    exists buffer : Buffer, buffer.bytes = bytes.1 :=
  ⟨⟨bytes.1, by rw [bytes.2]; exact admits.1⟩, rfl⟩

end Cases

theorem generate_isDraw (machine : Machine) (length : UInt64) (source : Random.Source State)
    (state : State) :
    IsDraw machine length source state (generate machine length source state).2
      (generate machine length source state).1 := by
  by_cases admits : machine.Admits length
  · rcases answer : source.fill state length.toNat with ⟨next, reason | bytes⟩
    · rw [generate_of_failure admits answer]
      exact .failed admits answer
    · rcases exists_buffer admits bytes with ⟨buffer, same⟩
      rw [generate_of_bytes admits answer same]
      exact .filled admits answer same ((congrArg List.length same).trans bytes.2)
  · rcases Machine.reserve_eq_error_iff.mpr admits with ⟨fault, refusal⟩
    rw [generate_of_refusal refusal]
    exact .refused refusal

/-- Draws buffers one after the other from the same source, each on the machine as it is
then. -/
def generateEach (length : UInt64) (source : Random.Source State) :
    (machines : List Machine) -> State -> State × List (Logged (Except ScanError Buffer))
  | [], state => (state, [])
  | machine :: machines, state =>
      let (next, first) := generate machine length source state
      let (last, others) := generateEach length source machines next
      (last, first :: others)

/-- On a machine that does not change, these are the draws of a fixed number of buffers. -/
theorem generateMany_eq_generateEach (machine : Machine) (length : UInt64)
    (source : Random.Source State) (count : Nat) (state : State) :
    generateMany machine length source count state =
      generateEach length source (List.replicate count machine) state := by
  induction count generalizing state with
  | zero => rfl
  | succ count ih =>
      simp only [generateMany, List.replicate_succ, generateEach, ih]

/-- A chain of draws from a state of the source to a later one. -/
inductive History (length : UInt64) (source : Random.Source State) :
    State -> List Machine -> List (Logged (Except ScanError Buffer)) -> State -> Prop
  | nil (state : State) : History length source state [] [] state
  | cons {state next last : State} {machine : Machine} {machines : List Machine}
      {drawn : Logged (Except ScanError Buffer)} {others : List (Logged (Except ScanError Buffer))}
      (first : IsDraw machine length source state drawn next)
      (later : History length source next machines others last) :
      History length source state (machine :: machines) (drawn :: others) last

theorem generateEach_history (length : UInt64) (source : Random.Source State)
    (machines : List Machine) (state : State) :
    History length source state machines (generateEach length source machines state).2
      (generateEach length source machines state).1 := by
  induction machines generalizing state with
  | nil => exact .nil state
  | cons machine machines ih => exact .cons (generate_isDraw machine length source state) (ih _)

/-! ## How often the source is asked -/

/-- Watching a source changes nothing, and shows one request for each draw that is granted. -/
theorem generate_recorded (machine : Machine) (length : UInt64) (source : Random.Source State)
    (state : State) (requests : List Nat) :
    generate machine length source.recorded (state, requests) =
      (((generate machine length source state).1,
        requests ++ if machine.Admits length then [length.toNat] else []),
        (generate machine length source state).2) := by
  by_cases admits : machine.Admits length
  · rw [if_pos admits]
    rcases answer : source.fill state length.toNat with ⟨next, reason | bytes⟩
    · rw [generate_of_failure admits answer,
        generate_of_failure admits (Random.Source.fill_recorded answer requests)]
    · rcases exists_buffer admits bytes with ⟨buffer, same⟩
      rw [generate_of_bytes admits answer same,
        generate_of_bytes admits (Random.Source.fill_recorded answer requests) same]
  · rcases Machine.reserve_eq_error_iff.mpr admits with ⟨fault, refusal⟩
    rw [generate_of_refusal refusal, generate_of_refusal refusal, if_neg admits, List.append_nil]

/-- The number of draws for which there is memory. -/
def granted (length : UInt64) (machines : List Machine) : Nat :=
  machines.countP fun machine => decide (machine.Admits length)

@[simp] theorem granted_of_admits {machine : Machine} {length : UInt64}
    (admits : machine.Admits length) (machines : List Machine) :
    granted length (machine :: machines) = granted length machines + 1 :=
  List.countP_cons_of_pos (decide_eq_true admits)

@[simp] theorem granted_of_not_admits {machine : Machine} {length : UInt64}
    (refused : Not (machine.Admits length)) (machines : List Machine) :
    granted length (machine :: machines) = granted length machines :=
  List.countP_cons_of_neg (by rw [decide_eq_true_eq]; exact refused)

theorem generateEach_recorded (length : UInt64) (source : Random.Source State)
    (machines : List Machine) (state : State) (requests : List Nat) :
    generateEach length source.recorded machines (state, requests) =
      (((generateEach length source machines state).1,
        requests ++ List.replicate (granted length machines) length.toNat),
        (generateEach length source machines state).2) := by
  induction machines generalizing state requests with
  | nil =>
      rw [granted, List.countP_nil, List.replicate_zero, List.append_nil]
      rfl
  | cons machine machines ih =>
      simp only [generateEach, generate_recorded, ih]
      by_cases admits : machine.Admits length
      · simp [admits, List.replicate_succ]
      · simp [admits]

/-! ## What is drawn -/

/-- The answer of the source that a draw passes on, if it got as far as asking. -/
def answer? (drawn : Logged (Except ScanError Buffer)) : Option (Except String (List UInt8)) :=
  match drawn.result with
  | .ok buffer => some (.ok buffer.bytes)
  | .error (.randomSource reason) => some (.error reason)
  | .error _ => none

/-- The draws that are granted pass on the consecutive answers of the source. -/
theorem History.fills_eq {length : UInt64} {source : Random.Source State} {state last : State}
    {machines : List Machine} {drawn : List (Logged (Except ScanError Buffer))}
    (history : History length source state machines drawn last) :
    source.fills length.toNat (granted length machines) state =
      (last, drawn.filterMap answer?) := by
  induction history with
  | nil state => rfl
  | cons first later ih =>
      cases first with
      | refused refusal =>
          rw [granted_of_not_admits (Machine.reserve_eq_error_iff.mp ⟨_, refusal⟩), ih]
          rfl
      | failed admits answer =>
          rw [granted_of_admits admits, Random.Source.fills_succ answer, ih]
          rfl
      | filled admits answer same exact =>
          rw [granted_of_admits admits, Random.Source.fills_succ answer, ih]
          simp only [List.filterMap_cons, answer?, same]
          rfl

/-- Draws that all succeed were all granted, and the buffers are the answers of the source. -/
theorem History.fills_of_buffers {length : UInt64} {source : Random.Source State}
    {state last : State} {machines : List Machine}
    {drawn : List (Logged (Except ScanError Buffer))}
    (history : History length source state machines drawn last) {buffers : List Buffer}
    (succeeded : drawn.map Logged.result = buffers.map .ok) :
    source.fills length.toNat machines.length state =
      (last, buffers.map fun buffer => .ok buffer.bytes) := by
  induction history generalizing buffers with
  | nil state =>
      cases buffers with
      | nil => rfl
      | cons buffer buffers => cases succeeded
  | cons first later ih =>
      cases buffers with
      | nil => cases succeeded
      | cons buffer buffers =>
          rcases List.cons.inj succeeded with ⟨here, others⟩
          cases first with
          | refused refusal => cases here
          | failed admits answer => cases here
          | filled admits answer same exact =>
              rcases Except.ok.inj here with rfl
              rw [List.length_cons, Random.Source.fills_succ answer, ih others, List.map_cons, same]
              rfl

def drawnBuffers (drawn : List (Logged (Except ScanError Buffer))) : List Buffer :=
  drawn.filterMap fun one => one.result.toOption

/-- If the source never fails, the buffers are what it answered. -/
theorem map_drawnBuffers {drawn : List (Logged (Except ScanError Buffer))}
    {pieces : List (List UInt8)} (answered : drawn.filterMap answer? = pieces.map .ok) :
    (drawnBuffers drawn).map Buffer.bytes = pieces := by
  induction drawn generalizing pieces with
  | nil => exact (List.map_eq_nil_iff.mp answered.symm).symm
  | cons one drawn ih =>
      rcases one with ⟨log, error | buffer⟩
      · cases error with
        | randomSource reason =>
            -- The failure would be the first answer.
            cases pieces <;> cases answered
        | _ => exact ih answered
      · cases pieces with
        | nil => cases answered
        | cons piece pieces =>
            rcases List.cons.inj answered with ⟨here, others⟩
            rcases Except.ok.inj here with rfl
            exact congrArg (buffer.bytes :: ·) (ih others)

/-- The draws of buffers from one source, whatever the source and whatever memory there is at
the time of each of them.

Every draw without memory leaves the source where it was and announces nothing.  Every other
draw asks for the whole length once and passes the answer on, so that the granted draws have
the consecutive answers of the source.  Of a repeated cycle they are the beginning, no matter
how many draws were refused between them. -/
theorem generateEach_consecutive (length : UInt64) (source : Random.Source State)
    (machines : List Machine) (state : State) :
    let run := generateEach length source machines state
    History length source state machines run.2 run.1 ∧
      generateEach length source.recorded machines (state, []) =
        ((run.1, List.replicate (granted length machines) length.toNat), run.2) ∧
      source.fills length.toNat (granted length machines) state =
        (run.1, run.2.filterMap answer?) ∧
      (forall buffers : List Buffer, run.2.map Logged.result = buffers.map .ok ->
        source.fills length.toNat machines.length state =
          (run.1, buffers.map fun buffer => .ok buffer.bytes)) ∧
      (forall cycle : List UInt8, cycle ≠ [] ->
        let buffers := drawnBuffers (generateEach length (.cycle cycle) machines 0).2
        buffers.length = granted length machines ∧
          (buffers.map Buffer.bytes).flatten =
            ((List.replicate (buffers.length * length.toNat) cycle).flatten).take
              (buffers.length * length.toNat)) ∧
      forall (machine : Machine) (count : Nat),
        generateMany machine length source count state =
          generateEach length source (List.replicate count machine) state := by
  intro run
  have history : History length source state machines run.2 run.1 :=
    generateEach_history length source machines state
  refine ⟨history, generateEach_recorded length source machines state [], history.fills_eq,
    fun buffers succeeded => history.fills_of_buffers succeeded, ?_,
    fun machine count => generateMany_eq_generateEach machine length source count state⟩
  intro cycle started buffers
  have turned := (generateEach_history length (.cycle cycle) machines 0).fills_eq
  rcases Random.Source.fills_cycle cycle length.toNat (granted length machines) 0 with
    ⟨pieces, answered, many, joined⟩
  have same : buffers.map Buffer.bytes = pieces :=
    map_drawnBuffers (congrArg Prod.snd (turned.symm.trans answered))
  have number : buffers.length = granted length machines := by
    rw [← many, ← same, List.length_map]
  refine ⟨number, ?_⟩
  rw [same, joined, number, Random.Source.turns_start started]

/-- The draws go on in the middle of a cycle, and one that is refused before or between them
makes no difference. -/
theorem generateEach_consecutive_refusals :
    let cycle : List UInt8 := [0x61, 0x62, 0x63]
    let short := Machine.bounded 1 2
    let ample := Machine.bounded 1 9
    let interrupted := generateEach 2 (.cycle cycle) [short, ample, short, ample] 0
    let uninterrupted := generateEach 2 (.cycle cycle) [ample, ample] 0
    cycle ≠ [] ∧
      (drawnBuffers interrupted.2).map Buffer.bytes = [[0x61, 0x62], [0x63, 0x61]] ∧
      ((drawnBuffers interrupted.2).map Buffer.bytes).flatten =
        ((List.replicate 4 cycle).flatten).take 4 ∧
      (Random.Source.cycle cycle).fills 2 2 0 = (interrupted.1, interrupted.2.filterMap answer?) ∧
      uninterrupted.2.map Logged.result =
        [⟨[0x61, 0x62], by decide⟩, ⟨[0x63, 0x61], by decide⟩].map .ok ∧
      (Random.Source.cycle cycle).fills 2 2 0 =
        (uninterrupted.1, [.ok [0x61, 0x62], .ok [0x63, 0x61]]) := by
  intro cycle short ample interrupted uninterrupted
  have started : cycle ≠ [] := List.cons_ne_nil _ _
  rcases generateEach_consecutive 2 (.cycle cycle) [short, ample, short, ample] 0 with
    ⟨_, _, answers, _, turned, _⟩
  rcases generateEach_consecutive 2 (.cycle cycle) [ample, ample] 0 with
    ⟨_, _, _, buffers, _, _⟩
  have drawn : (drawnBuffers interrupted.2).map Buffer.bytes = [[0x61, 0x62], [0x63, 0x61]] := by
    dsimp only [interrupted, cycle, short, ample]
    rfl
  have succeeded : uninterrupted.2.map Logged.result =
      [⟨[0x61, 0x62], by decide⟩, ⟨[0x63, 0x61], by decide⟩].map .ok := by
    dsimp only [uninterrupted, cycle, ample]
    rfl
  exact ⟨started, drawn, (turned cycle started).2, answers, succeeded, buffers _ succeeded⟩

end Buffer
end WhitespaceBench
