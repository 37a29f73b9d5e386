import WhitespaceBench.Proofs.Admissibility
import WhitespaceBench.Proofs.HarnessReport
import WhitespaceBench.Proofs.SuccessiveDraws

namespace WhitespaceBench

/-!
# What comes of setting up a harness

Setting up asks for memory, then for bytes, then whether the walk may be shared, and then for
workers.  The first of these that fails decides the error, so an error tells how far the setup
came: it is fatal exactly if there is no buffer.  A configuration that passed validation is never
refused, since validation and setup refuse the same sharing.
-/

theorem Machine.not_admits_of_refusal {machine : Machine} {length : UInt64}
    {fault : ReservationFault} (refusal : machine.reserve length = .error fault) :
    Not (machine.Admits length) :=
  reserve_eq_error_iff.mp ⟨fault, refusal⟩

namespace Buffer

/-- What is drawn: nothing without memory, and otherwise what the source answers. -/
theorem generate_result_cases {State : Type} (machine : Machine) (length : UInt64)
    (source : Random.Source State) (state : State) :
    (exists fault, machine.reserve length = .error fault ∧
      (generate machine length source state).2.result = .error (.allocation length fault)) ∨
    (machine.Admits length ∧ exists reason, (source.fill state length.toNat).2 = .error reason ∧
      (generate machine length source state).2.result = .error (.randomSource reason)) ∨
    (machine.Admits length ∧ exists bytes, (source.fill state length.toNat).2 = .ok bytes ∧
      exists buffer : Buffer, (generate machine length source state).2.result = .ok buffer ∧
        buffer.length = length.toNat) := by
  have draw := generate_isDraw machine length source state
  generalize generate machine length source state = drawn at draw ⊢
  rcases drawn with ⟨next, logged⟩
  cases draw with
  | refused refusal => exact Or.inl ⟨_, refusal, rfl⟩
  | failed admits answer => exact Or.inr (Or.inl ⟨admits, _, congrArg Prod.snd answer, rfl⟩)
  | filled admits answer same exact =>
      exact Or.inr (Or.inr ⟨admits, _, congrArg Prod.snd answer, _, rfl, exact⟩)

end Buffer

namespace Harness

variable {State : Type}

section Surroundings

variable (machine : Machine) (config : Config) (entropy : Random.Source State) (state : State)

/-- Why there is no buffer: its memory was not reserved, or system entropy failed to fill it.
The stream of a seed never fails. -/
inductive DrawFails : ScanError -> Prop where
  | reservation {fault : ReservationFault}
      (refusal : machine.reserve config.buffer.length = .error fault) :
      DrawFails (.allocation config.buffer.length fault)
  | filling {reason : String} (admits : machine.Admits config.buffer.length)
      (unseeded : config.buffer.seed = none)
      (failed : (entropy.fill state config.buffer.length.toNat).2 = .error reason) :
      DrawFails (.randomSource reason)

/-- Nothing stands in the way of a buffer. -/
def IsDrawn : Prop := forall error, Not (DrawFails machine config entropy state error)

/-- What comes of setting up: the first failure, or a harness that walks the drawn buffer as it
was configured. -/
inductive ComesTo : Except ScanError Harness -> Prop where
  | undrawn {error : ScanError} (fails : DrawFails machine config entropy state error) :
      ComesTo (.error error)
  | refused (drawn : IsDrawn machine config entropy state)
      (shared : config.scanner.parallel = true) (characters : config.scanner.mode = .chars) :
      ComesTo (.error (.config (.invalid .parallelChars)))
  | unstarted {reason : String} (drawn : IsDrawn machine config entropy state)
      (shared : config.scanner.parallel = true) (view : config.scanner.mode = .bytes)
      (failed : machine.startWorkers (askedWorkers machine config) = .error reason) :
      ComesTo (.error (.threadPool reason))
  | ready {buffer : Buffer} {scanning : Scanning} (drawn : IsDrawn machine config entropy state)
      (allowed : Not (config.scanner.parallel = true ∧ config.scanner.mode = .chars))
      (started : config.scanner.parallel = true ->
        machine.startWorkers (askedWorkers machine config) = .ok ())
      (length : buffer.length = config.buffer.length.toNat)
      (mode : scanning.mode = config.scanner.mode)
      (parallel : scanning.isParallel = config.scanner.parallel) :
      ComesTo (.ok ⟨buffer, scanning, config.harness⟩)

/-- Memory, entropy and workers are there as far as a configuration asks for them. -/
structure Serves : Prop where
  memory : machine.grants config.buffer.length = true
  filling : config.buffer.seed = none ->
    exists bytes, (entropy.fill state config.buffer.length.toNat).2 = .ok bytes
  workers : config.scanner.parallel = true ->
    machine.startWorkers (askedWorkers machine config) = .ok ()

end Surroundings

variable {machine : Machine} {config : Config} {entropy : Random.Source State} {state : State}

/-! ## The buffer -/

/-- Only one thing can be the first to fail. -/
theorem DrawFails.unique {first second : ScanError}
    (fails : DrawFails machine config entropy state first)
    (other : DrawFails machine config entropy state second) : first = second := by
  cases fails with
  | reservation refusal =>
      cases other with
      | reservation again =>
          cases refusal.symm.trans again
          rfl
      | filling admits => exact absurd admits (Machine.not_admits_of_refusal refusal)
  | filling admits _ failed =>
      cases other with
      | reservation refusal => exact absurd admits (Machine.not_admits_of_refusal refusal)
      | filling _ _ again =>
          cases failed.symm.trans again
          rfl

theorem DrawFails.isFatal {error : ScanError}
    (fails : DrawFails machine config entropy state error) : error.isFatal = true := by
  cases fails <;> rfl

theorem isDrawn_of_admits (admits : machine.Admits config.buffer.length)
    (filling : config.buffer.seed = none ->
      exists bytes, (entropy.fill state config.buffer.length.toNat).2 = .ok bytes) :
    IsDrawn machine config entropy state := by
  intro error fails
  cases fails with
  | reservation refusal => exact absurd admits (Machine.not_admits_of_refusal refusal)
  | filling _ unseeded failed =>
      rcases filling unseeded with ⟨bytes, filled⟩
      cases failed.symm.trans filled

/-- A draw fails for one of the reasons, or it gives a buffer of the configured length. -/
theorem drawBuffer_cases (machine : Machine) (config : Config) (entropy : Random.Source State)
    (state : State) :
    (exists error, DrawFails machine config entropy state error ∧
      (drawBuffer machine config entropy state).2.result = .error error) ∨
    (IsDrawn machine config entropy state ∧ exists buffer : Buffer,
      (drawBuffer machine config entropy state).2.result = .ok buffer ∧
      buffer.length = config.buffer.length.toNat) := by
  unfold drawBuffer
  cases given : config.buffer.seed with
  | none =>
      rcases Buffer.generate_result_cases machine config.buffer.length entropy state with
        ⟨fault, refusal, failed⟩ | ⟨admits, reason, answer, failed⟩ |
        ⟨admits, bytes, answer, buffer, drawn, exact⟩
      · exact Or.inl ⟨_, .reservation refusal, failed⟩
      · exact Or.inl ⟨_, .filling admits given answer, failed⟩
      · exact Or.inr ⟨isDrawn_of_admits admits fun _ => ⟨bytes, answer⟩, buffer, drawn, exact⟩
  | some seed =>
      have seeded : Not (config.buffer.seed = none) := by
        rw [given]
        exact Option.some_ne_none seed
      rcases Buffer.generate_result_cases machine config.buffer.length
          (.seeded (.ofSeed seed)) 0 with
        ⟨fault, refusal, failed⟩ | ⟨_, reason, answer, _⟩ | ⟨admits, _, _, buffer, drawn, exact⟩
      · exact Or.inl ⟨_, .reservation refusal, failed⟩
      · cases answer
      · exact Or.inr ⟨isDrawn_of_admits admits fun unseeded => absurd unseeded seeded, buffer,
          drawn, exact⟩

theorem drawBuffer_eq_error_iff {error : ScanError} :
    (drawBuffer machine config entropy state).2.result = .error error <->
      DrawFails machine config entropy state error := by
  rcases drawBuffer_cases machine config entropy state with
    ⟨cause, fails, failed⟩ | ⟨drawn, buffer, given, _⟩
  · rw [failed, Except.error.injEq]
    exact ⟨fun same => same ▸ fails, fails.unique⟩
  · rw [given]
    exact ⟨nofun, fun fails => absurd fails (drawn error)⟩

/-! ## The harness -/

theorem setup_of_error {error : ScanError}
    (failed : (drawBuffer machine config entropy state).2.result = .error error) :
    (setup machine config entropy state).2.result = .error error := by
  rw [setup]
  split
  · rename_i found
    rw [found] at failed
    cases failed
    rfl
  · rename_i found
    rw [found] at failed
    cases failed

theorem setup_of_buffer {buffer : Buffer}
    (drawn : (drawBuffer machine config entropy state).2.result = .ok buffer) :
    (setup machine config entropy state).2.result = (ofBuffer machine config buffer).result := by
  rw [setup]
  split
  · rename_i found
    rw [found] at drawn
    cases drawn
  · rename_i found
    rw [found] at drawn
    cases drawn
    rfl

/-- A walk that is shared is shared among workers that were started. -/
theorem started_of_ofBuffer {buffer : Buffer} {harness : Harness}
    (made : (ofBuffer machine config buffer).result = .ok harness)
    (allowed : Not (config.scanner.parallel = true ∧ config.scanner.mode = .chars))
    (shared : config.scanner.parallel = true) :
    machine.startWorkers (askedWorkers machine config) = .ok () := by
  have view : config.scanner.mode = .bytes := by
    cases view : config.scanner.mode with
    | bytes => rfl
    | chars => exact absurd ⟨shared, view⟩ allowed
  cases started : machine.startWorkers (askedWorkers machine config) with
  | ok nothing => rfl
  | error reason =>
      have failed := (ofBuffer_shared_bytes machine config buffer shared view).1 reason started
      cases made.symm.trans failed

theorem setup_comesTo (machine : Machine) (config : Config) (entropy : Random.Source State)
    (state : State) :
    ComesTo machine config entropy state (setup machine config entropy state).2.result := by
  rcases drawBuffer_cases machine config entropy state with
    ⟨error, fails, failed⟩ | ⟨drawn, buffer, given, length⟩
  · rw [setup_of_error failed]
    exact .undrawn fails
  · rw [setup_of_buffer given]
    rcases ofBuffer_cases machine config buffer with
      ⟨shared, characters, refused⟩ | ⟨shared, view, reason, failed, unstarted⟩ |
      ⟨allowed, scanning, mode, parallel, made⟩
    · rw [refused]
      exact .refused drawn shared characters
    · rw [unstarted]
      exact .unstarted drawn shared view failed
    · rw [made]
      exact .ready drawn allowed (started_of_ofBuffer made allowed) length mode parallel

variable {result : Except ScanError Harness}

/-- An error is fatal exactly if it is about the buffer. -/
theorem isFatal_iff_of_comesTo (outcome : ComesTo machine config entropy state result)
    {error : ScanError} (failed : result = .error error) :
    error.isFatal = true <-> exists cause, DrawFails machine config entropy state cause := by
  cases outcome with
  | undrawn fails =>
      cases failed
      exact iff_of_true fails.isFatal ⟨error, fails⟩
  | refused drawn =>
      cases failed
      exact iff_of_false Bool.false_ne_true fun ⟨cause, fails⟩ => drawn cause fails
  | unstarted drawn =>
      cases failed
      exact iff_of_false Bool.false_ne_true fun ⟨cause, fails⟩ => drawn cause fails
  | ready => cases failed

/-- Without a buffer nothing else is looked at. -/
theorem eq_error_of_drawFails (outcome : ComesTo machine config entropy state result)
    {error : ScanError} (fails : DrawFails machine config entropy state error) :
    result = .error error := by
  cases outcome with
  | undrawn other => rw [other.unique fails]
  | refused drawn => exact absurd fails (drawn error)
  | unstarted drawn => exact absurd fails (drawn error)
  | ready drawn => exact absurd fails (drawn error)

/-- Characters that are to be shared are refused before any worker is started. -/
theorem config_error_iff_of_comesTo
    (outcome : ComesTo machine config entropy state result) {error : ConfigError} :
    result = .error (.config error) <->
      IsDrawn machine config entropy state ∧ config.scanner.parallel = true ∧
        config.scanner.mode = .chars ∧ error = .invalid .parallelChars := by
  cases outcome with
  | undrawn fails =>
      refine ⟨fun failed => ?_, fun ⟨drawn, _⟩ => absurd fails (drawn _)⟩
      cases failed
      cases fails
  | refused drawn shared characters =>
      refine ⟨fun failed => ?_, fun ⟨_, _, _, same⟩ => by rw [same]⟩
      cases failed
      exact ⟨drawn, shared, characters, rfl⟩
  | unstarted _ _ view =>
      refine ⟨nofun, fun ⟨_, _, characters, _⟩ => ?_⟩
      cases view.symm.trans characters
  | ready _ allowed =>
      exact ⟨nofun, fun ⟨_, shared, characters, _⟩ => absurd ⟨shared, characters⟩ allowed⟩

theorem threadPool_error_iff_of_comesTo
    (outcome : ComesTo machine config entropy state result) {reason : String} :
    result = .error (.threadPool reason) <->
      IsDrawn machine config entropy state ∧ config.scanner.parallel = true ∧
        config.scanner.mode = .bytes ∧
        machine.startWorkers (askedWorkers machine config) = .error reason := by
  cases outcome with
  | undrawn fails =>
      refine ⟨fun failed => ?_, fun ⟨drawn, _⟩ => absurd fails (drawn _)⟩
      cases failed
      cases fails
  | refused _ _ characters =>
      refine ⟨nofun, fun ⟨_, _, view, _⟩ => ?_⟩
      cases view.symm.trans characters
  | unstarted drawn shared view failed =>
      rw [failed, Except.error.injEq, Except.error.injEq, ScanError.threadPool.injEq]
      exact ⟨fun same => ⟨drawn, shared, view, same⟩, fun ⟨_, _, _, same⟩ => same⟩
  | ready _ _ started =>
      refine ⟨nofun, fun ⟨_, shared, _, failed⟩ => ?_⟩
      cases failed.symm.trans (started shared)

/-- With a buffer, workers and an allowed walk there is a harness. -/
theorem exists_harness_of_comesTo (outcome : ComesTo machine config entropy state result)
    (drawn : IsDrawn machine config entropy state)
    (allowed : Not (config.scanner.parallel = true ∧ config.scanner.mode = .chars))
    (workers : config.scanner.parallel = true ->
      machine.startWorkers (askedWorkers machine config) = .ok ()) :
    exists harness, result = .ok harness ∧
      harness.buffer.length = config.buffer.length.toNat ∧
      harness.scanning.mode = config.scanner.mode ∧
      harness.scanning.isParallel = config.scanner.parallel := by
  cases outcome with
  | undrawn fails => exact absurd fails (drawn _)
  | refused _ shared characters => exact absurd ⟨shared, characters⟩ allowed
  | unstarted _ shared _ failed => cases failed.symm.trans (workers shared)
  | ready _ _ _ length mode parallel => exact ⟨_, rfl, length, mode, parallel⟩

/-- An error of the setup is fatal exactly if there is no buffer, because memory was not reserved
or not filled.  Such a failure comes before the refusal of shared characters, which comes before
a failure of the workers.  After validation nothing is refused, and where memory, entropy and
workers are there, the harness has a buffer of the configured length and walks it in the
configured mode, shared exactly if configured so. -/
theorem setup_failure_order (machine : Machine) (config : Config)
    (entropy : Random.Source State) (state : State) :
    let result := (setup machine config entropy state).2.result
    (forall error, result = .error error ->
      (error.isFatal = true <-> exists cause, DrawFails machine config entropy state cause)) ∧
    (forall cause, (drawBuffer machine config entropy state).2.result = .error cause <->
      DrawFails machine config entropy state cause) ∧
    (forall cause, DrawFails machine config entropy state cause -> result = .error cause) ∧
    (forall error, result = .error (.config error) <->
      IsDrawn machine config entropy state ∧ config.scanner.parallel = true ∧
        config.scanner.mode = .chars ∧ error = .invalid .parallelChars) ∧
    (forall reason, result = .error (.threadPool reason) <->
      IsDrawn machine config entropy state ∧ config.scanner.parallel = true ∧
        config.scanner.mode = .bytes ∧
        machine.startWorkers (askedWorkers machine config) = .error reason) ∧
    (config.validate.result = .ok () ->
      (forall error, result ≠ .error (.config error)) ∧
      (Serves machine config entropy state ->
        exists harness, result = .ok harness ∧
          harness.buffer.length = config.buffer.length.toNat ∧
          harness.scanning.mode = config.scanner.mode ∧
          harness.scanning.isParallel = config.scanner.parallel)) := by
  intro result
  have outcome : ComesTo machine config entropy state result :=
    setup_comesTo machine config entropy state
  refine ⟨fun error => isFatal_iff_of_comesTo outcome, fun cause => drawBuffer_eq_error_iff,
    fun cause => eq_error_of_drawFails outcome, fun error => config_error_iff_of_comesTo outcome,
    fun reason => threadPool_error_iff_of_comesTo outcome, fun valid => ?_⟩
  rcases Config.bounds_of_validate valid with ⟨short, allowed⟩
  refine ⟨fun error refused => ?_, fun served => ?_⟩
  · rcases (config_error_iff_of_comesTo outcome).mp refused with ⟨_, shared, characters, _⟩
    exact allowed ⟨shared, characters⟩
  · have admits : machine.Admits config.buffer.length := ⟨by omega, served.memory⟩
    exact exists_harness_of_comesTo outcome (isDrawn_of_admits admits served.filling) allowed
      served.workers

/-- Everything that fails at once is told in order: first the entropy, then the refusal, then the
workers.  With entropy and workers the valid configuration has its harness. -/
theorem setup_failure_order_together :
    let shared : Config := ⟨⟨3, none⟩, ⟨.chars, true, 2, 65536⟩, ⟨1, 0, .text⟩, ⟨"info"⟩⟩
    let valid : Config := ⟨⟨3, none⟩, ⟨.bytes, true, 2, 65536⟩, ⟨1, 0, .text⟩, ⟨"info"⟩⟩
    let idle : Machine := { Machine.bounded 1 16 with startWorkers := fun _ => .error "no threads" }
    let ample := Machine.bounded 1 16
    let dead := Random.Source.failing "no entropy"
    let blanks := Random.Source.cycle [0x20]
    (setup idle shared dead ()).2.result = .error (.randomSource "no entropy") ∧
      (setup idle shared blanks 0).2.result = .error (.config (.invalid .parallelChars)) ∧
      (setup idle valid blanks 0).2.result = .error (.threadPool "no threads") ∧
      valid.validate.result = .ok () ∧ Serves ample valid blanks 0 ∧
      exists harness, (setup ample valid blanks 0).2.result = .ok harness ∧
        harness.buffer.length = 3 ∧ harness.scanning.isParallel = true := by
  intro shared valid idle ample dead blanks
  have starved : DrawFails idle shared dead () (.randomSource "no entropy") :=
    .filling (by decide) rfl rfl
  have drawn (config : Config) (short : config.buffer.length = 3) :
      IsDrawn idle config blanks 0 :=
    isDrawn_of_admits (short ▸ by decide) fun _ => ⟨_, rfl⟩
  have accepted : (Config.mk ⟨3, none⟩ ⟨.bytes, true, 2, 65536⟩ ⟨1, 0, .text⟩
      ⟨"info"⟩).validate.result = .ok () := by rfl
  have served : Serves ample valid blanks 0 := ⟨rfl, fun _ => ⟨_, rfl⟩, fun _ => rfl⟩
  rcases setup_failure_order idle shared dead () with ⟨_, _, first, _⟩
  rcases setup_failure_order idle shared blanks 0 with ⟨_, _, _, refused, _⟩
  rcases setup_failure_order idle valid blanks 0 with ⟨_, _, _, _, unstarted, _⟩
  rcases setup_failure_order ample valid blanks 0 with ⟨_, _, _, _, _, ready⟩
  rcases (ready accepted).2 served with ⟨harness, made, length, _, parallel⟩
  exact ⟨first _ starved, (refused _).mpr ⟨drawn shared rfl, rfl, rfl, rfl⟩,
    (unstarted _).mpr ⟨drawn valid rfl, rfl, rfl, rfl⟩, accepted, served,
    harness, made, length, parallel⟩

end Harness
end WhitespaceBench
