import WhitespaceBench.Proofs.JsonGrammar
import WhitespaceBench.Proofs.ObjectMembers

namespace WhitespaceBench

open Decode Json

/-!
# What an object says about a report

An object with the members of a report may be spelled in many ways, in any order and with
members that a report does not have.  It is read as a report exactly if each of the six
members occurs once and the seconds of the total time, with those among its nanoseconds, fit
in a word; the report then is what the members say.
-/

namespace Duration

theorem toNanos_injective : Function.Injective toNanos := by
  rintro ⟨secs, nanos, small⟩ ⟨otherSecs, otherNanos, otherSmall⟩ same
  simp only [toNanos, nanosPerSecond] at same
  have equal : secs.toNat = otherSecs.toNat ∧ nanos.toNat = otherNanos.toNat := by omega
  cases UInt64.toNat_inj.mp equal.1
  cases UInt32.toNat_inj.mp equal.2
  rfl

/-- Whole seconds among the nanoseconds count as seconds, as far as these fit in a word. -/
theorem ofParts?_spec (secs : UInt64) (nanos : UInt32) :
    (secs.toNat + nanos.toNat / nanosPerSecond < UInt64.size ∧
      exists duration, ofParts? secs nanos = some duration ∧
        duration.toNanos = secs.toNat * nanosPerSecond + nanos.toNat) ∨
    (UInt64.size ≤ secs.toNat + nanos.toNat / nanosPerSecond ∧ ofParts? secs nanos = none) := by
  have bound := nanos.toNat_lt
  have carried : (UInt64.ofNat (nanos.toNat / nanosPerSecond)).toNat =
      nanos.toNat / nanosPerSecond := by
    apply UInt64.toNat_ofNat_of_lt'
    simp only [nanosPerSecond, UInt64.size]
    omega
  by_cases fits : secs.toNat + nanos.toNat / nanosPerSecond < UInt64.size
  · refine Or.inl ⟨fits, ?_⟩
    cases sum : Word.add? secs (UInt64.ofNat (nanos.toNat / nanosPerSecond)) with
    | none => simp [Word.add?, carried, fits] at sum
    | some word =>
        have whole : word.toNat = secs.toNat + nanos.toNat / nanosPerSecond := by
          simp only [Word.add?, carried, fits, dite_true, Option.some.injEq] at sum
          rw [← sum, UInt64.toNat_ofNatLT]
        have part : (UInt32.ofNat (nanos.toNat % nanosPerSecond)).toNat =
            nanos.toNat % nanosPerSecond := by
          apply UInt32.toNat_ofNat_of_lt'
          simp only [nanosPerSecond, UInt32.size]
          omega
        simp only [ofParts?, sum, Option.some.injEq, exists_eq_left', toNanos, whole, part]
        rw [Nat.add_mul, Nat.add_assoc, Nat.div_add_mod']
  · refine Or.inr ⟨Nat.le_of_not_lt fits, ?_⟩
    simp [ofParts?, Word.add?, carried, fits]

/-- The parts make up a duration. -/
@[simp] theorem ofParts?_eq_some_iff {secs : UInt64} {nanos : UInt32} {duration : Duration} :
    ofParts? secs nanos = some duration <->
      duration.toNanos = secs.toNat * nanosPerSecond + nanos.toNat := by
  rcases ofParts?_spec secs nanos with ⟨_, found, made, total⟩ | ⟨large, none⟩
  · rw [made, ← total, Option.some.injEq, eq_comm]
    exact toNanos_injective.eq_iff.symm
  · -- A duration has fewer seconds than there are here.
    have seconds := duration.secs.toNat_lt
    have small := duration.nanos_lt
    rw [none, toNanos]
    simp only [nanosPerSecond, UInt64.size] at large ⊢
    constructor
    · exact nofun
    · intro same
      omega

theorem exists_ofParts?_iff {secs : UInt64} {nanos : UInt32} :
    (exists duration, ofParts? secs nanos = some duration) <->
      secs.toNat + nanos.toNat / nanosPerSecond < UInt64.size := by
  rcases ofParts?_spec secs nanos with ⟨fits, found, made, _⟩ | ⟨large, none⟩
  · simp [made, fits]
  · simp [none, Nat.not_lt.mpr large]

/-- The members of a duration, in either order. -/
inductive AreParts (secs : UInt64) (nanos : UInt32) : List (String × UInt64) -> Prop where
  | secsFirst : AreParts secs nanos [("secs", secs), ("nanos", nanos.toUInt64)]
  | nanosFirst : AreParts secs nanos [("nanos", nanos.toUInt64), ("secs", secs)]

/-- An object that holds a number of seconds and a number of nanoseconds, and nothing else. -/
def IsSpelled (secs : UInt64) (nanos : UInt32) (text : List Char) : Prop :=
  exists parts entries, AreParts secs nanos parts ∧
    List.Forall₂ (fun (entry : Entry) (part : String × UInt64) =>
      entry.IsSpelled part.1 fun text => text = (toString part.2.toNat).toList) entries parts ∧
    text = enclosed '\x7b' '\x7d' [] (entries.map Entry.written)

def partRead (part : String × UInt64) : Option String × Tree :=
  (some part.1, .number (.natural part.2.toNat))

theorem decode_parts {secs : UInt64} {nanos : UInt32} {parts : List (String × UInt64)}
    (areParts : AreParts secs nanos parts) {duration : Duration} :
    Duration.decode (dialect .text) (.object (parts.map partRead) .closed) = .ok duration <->
      ofParts? secs nanos = some duration := by
  have secsRead := word_natural "u64" secs
  have nanosRead : (dialect .text).count (.number (.natural nanos.toUInt64.toNat)) = .ok nanos := by
    rw [UInt32.toNat_toUInt64]
    exact count_natural nanos
  have read : exists given, (shape (dialect .text)).missing? given = none ∧
      readMembers (shape (dialect .text)) (parts.map partRead) ⟨⟨0, 0⟩, []⟩ =
        .ok ⟨⟨secs, nanos⟩, given⟩ := by
    cases areParts with
    | secsFirst =>
        exact ⟨_, rfl, readMembers_cons rfl (by simp) secsRead
          (readMembers_cons rfl (by simp) nanosRead rfl)⟩
    | nanosFirst =>
        exact ⟨_, rfl, readMembers_cons rfl (by simp) nanosRead
          (readMembers_cons rfl (by simp) secsRead rfl)⟩
  rcases read with ⟨given, present, read⟩
  have whole : Duration.decode (dialect .text) (.object (parts.map partRead) .closed) =
      Json.finish (shape (dialect .text)) ⟨secs, nanos⟩ := by
    change readRecord .text (shape (dialect .text)) (.object (parts.map partRead) .closed) = _
    have initial : (shape (dialect .text)).initial = ⟨0, 0⟩ := rfl
    simp only [readRecord, Origin.members, initial, read, present, reduceCtorEq, if_false]
  rw [whole, Json.finish, shape]
  cases made : ofParts? secs nanos <;> simp [made]

/-- Such an object is read as the duration that the parts make up. -/
theorem reads_of_isSpelled {secs : UInt64} {nanos : UInt32} {text : List Char}
    (spelled : IsSpelled secs nanos text) :
    Reads text fun tree => forall duration, Duration.decode (dialect .text) tree = .ok duration <->
      ofParts? secs nanos = some duration := by
  rcases spelled with ⟨parts, entries, areParts, each, rfl⟩
  have isRead : List.Forall₂ Entry.IsRead entries (parts.map fun part member =>
      member.1 = some part.1 ∧ member.2.sound = true ∧
        member.2 = Tree.number (.natural part.2.toNat)) := by
    rw [List.forall₂_map_right_iff]
    refine each.imp fun entry part spelled => ?_
    have number := reads_natural (Nat.le_of_lt_succ part.2.toNat_lt_size)
    exact spelled.isRead fun text written => written ▸ number
  have blanks : AreBlanks [] := by simp [AreBlanks]
  refine (reads_object blanks isRead).imp ?_
  rintro _ ⟨members, rfl, shown⟩ duration
  have same : members.map id = parts.map partRead := by
    rw [List.forall₂_map_right_iff] at shown
    exact Toml.map_eq_map_of_forall₂ (fun _ _ known => Prod.ext known.1 known.2.2) shown
  rw [List.map_id] at same
  rw [same]
  exact decode_parts areParts

end Duration

namespace ScanMode

/-- The texts of a mode: its name, by itself or as the only member of an object, with null. -/
inductive IsSpelled (mode : ScanMode) : List Char -> Prop where
  | name {body : List Char} (literal : IsLiteral body mode.name) :
      IsSpelled mode ('\x22' :: (body ++ ['\x22']))
  | object {entry : Entry}
      (spelled : entry.IsSpelled mode.name fun text => text = ['n', 'u', 'l', 'l']) :
      IsSpelled mode (enclosed '\x7b' '\x7d' [] [entry.written])

theorem reads_of_isSpelled {mode : ScanMode} {text : List Char} (spelled : mode.IsSpelled text) :
    Reads text fun tree => ScanMode.decode (dialect .text) tree = .ok mode := by
  cases spelled with
  | name literal =>
      refine (reads_literal literal).imp ?_
      rintro _ rfl
      cases mode <;> rfl
  | object spelled =>
      have isRead := List.Forall₂.cons (spelled.isRead fun text written => written ▸ reads_null)
        List.Forall₂.nil
      have blanks : AreBlanks [] := by simp [AreBlanks]
      refine (reads_object blanks isRead).imp ?_
      rintro _ ⟨members, rfl, shown⟩
      rcases shown with _ | ⟨known, none⟩
      cases none
      rename_i member
      rcases member with ⟨label, tree⟩
      rcases known with ⟨rfl, _, rfl⟩
      cases mode <;> rfl

end ScanMode

namespace Report

/-- The names of the members of a report. -/
def memberNames : List String :=
  ["mode", "parallel", "buffer_len", "iterations", "total", "whitespace"]

/-- A member of an object that is read as a report: one of those that a report has, with its
value, or one of another name. -/
inductive Given where
  | mode (mode : ScanMode)
  | parallel (flag : Bool)
  | bufferLength (length : UInt64)
  | iterations (count : UInt32)
  | total (secs : UInt64) (nanos : UInt32)
  | whitespace (count : UInt64)
  | unknown (name : String) (other : name ∉ memberNames)

namespace Given

def name : Given -> String
  | mode _ => "mode"
  | parallel _ => "parallel"
  | bufferLength _ => "buffer_len"
  | iterations _ => "iterations"
  | total _ _ => "total"
  | whitespace _ => "whitespace"
  | unknown name _ => name

/-- The texts of the value of a member.  Numbers are written in decimal digits; what stands
under an unknown name only has to be well formed. -/
def IsSpelled : Given -> List Char -> Prop
  | mode choice, text => choice.IsSpelled text
  | parallel flag, text => text = (if flag then "true" else "false").toList
  | bufferLength word, text | whitespace word, text => text = (toString word.toNat).toList
  | iterations count, text => text = (toString count.toNat).toList
  | total secs nanos, text => Duration.IsSpelled secs nanos text
  | unknown _ _, text => WellFormed text

/-- A report has the value of a member.  The total time is compared in nanoseconds. -/
def Agrees : Given -> Report -> Prop
  | mode choice, report => report.mode = choice
  | parallel flag, report => report.parallel = flag
  | bufferLength length, report => report.bufferLength = length
  | iterations count, report => report.iterations = count
  | total secs nanos, report => report.total.toNanos = secs.toNat * 1000000000 + nanos.toNat
  | whitespace count, report => report.whitespace = count
  | unknown _ _, _ => True

/-- A report can have the value of a member: the seconds, with those among the nanoseconds,
fit in a word. -/
def Fits : Given -> Prop
  | total secs nanos => secs.toNat + nanos.toNat / 1000000000 < 2 ^ 64
  | _ => True

/-- What is read for the value of a member. -/
def Means : Given -> Tree -> Prop
  | mode choice, tree => ScanMode.decode (dialect .text) tree = .ok choice
  | parallel flag, tree => tree = .boolean flag
  | bufferLength word, tree | whitespace word, tree => tree = .number (.natural word.toNat)
  | iterations count, tree => tree = .number (.natural count.toNat)
  | total secs nanos, tree => forall duration,
      Duration.decode (dialect .text) tree = .ok duration <->
        Duration.ofParts? secs nanos = some duration
  | unknown _ _, _ => True

theorem reads_of_isSpelled {given : Given} {text : List Char} (spelled : given.IsSpelled text) :
    Reads text given.Means := by
  cases given with
  | mode choice => exact ScanMode.reads_of_isSpelled spelled
  | parallel flag =>
      cases spelled
      exact reads_flag flag
  | bufferLength word =>
      cases spelled
      exact reads_natural (Nat.le_of_lt_succ word.toNat_lt_size)
  | iterations count =>
      cases spelled
      exact reads_natural (Nat.le_trans (Nat.le_of_lt count.toNat_lt_size) (by decide))
  | total secs nanos => exact Duration.reads_of_isSpelled spelled
  | whitespace word =>
      cases spelled
      exact reads_natural (Nat.le_of_lt_succ word.toNat_lt_size)
  | unknown name other => exact reads_of_wellFormed spelled

end Given

/-- The texts of objects with these members, with blanks wherever they may stand. -/
def IsSpelled (givens : List Given) (text : List Char) : Prop :=
  exists lead gap tail entries, AreBlanks lead ∧ AreBlanks gap ∧ AreBlanks tail ∧
    List.Forall₂ (fun (entry : Entry) (given : Given) =>
      entry.IsSpelled given.name given.IsSpelled) entries givens ∧
    text = lead ++ enclosed '\x7b' '\x7d' gap (entries.map Entry.written) ++ tail

/-- Every member that a report has occurs exactly once. -/
def IsOnce (givens : List Given) : Prop :=
  forall name, name ∈ memberNames -> (givens.map Given.name).count name = 1

def modeSlot : Slot (shape (dialect .text)) :=
  .ofName "mode" mode rfl (fun _ _ => rfl) (by simp [shape])

def parallelSlot : Slot (shape (dialect .text)) :=
  .ofName "parallel" parallel rfl (fun _ _ => rfl) (by simp [shape])

def lengthSlot : Slot (shape (dialect .text)) :=
  .ofName "buffer_len" bufferLength rfl (fun _ _ => rfl) (by simp [shape])

def iterationsSlot : Slot (shape (dialect .text)) :=
  .ofName "iterations" iterations rfl (fun _ _ => rfl) (by simp [shape])

def totalSlot : Slot (shape (dialect .text)) :=
  .ofName "total" total rfl (fun _ _ => rfl) (by simp [shape])

def whitespaceSlot : Slot (shape (dialect .text)) :=
  .ofName "whitespace" whitespace rfl (fun _ _ => rfl) (by simp [shape])

def slots : List (Slot (shape (dialect .text))) :=
  [modeSlot, parallelSlot, lengthSlot, iterationsSlot, totalSlot, whitespaceSlot]

theorem hasSlots : (shape (dialect .text)).HasSlots slots where
  all := rfl
  ext := by
    rintro ⟨_, _, _, _, _, _⟩ ⟨_, _, _, _, _, _⟩ same
    simpa [slots, modeSlot, parallelSlot, lengthSlot, iterationsSlot, totalSlot, whitespaceSlot,
      Slot.ofName] using same

theorem isComplete : (shape (dialect .text)).IsComplete where
  strict := rfl
  required := by simp [shape]
  finish := rfl

/-- The slot of a member that a report has. -/
def Given.slot? : Given -> Option (Slot (shape (dialect .text)))
  | mode _ => some modeSlot
  | parallel _ => some parallelSlot
  | bufferLength _ => some lengthSlot
  | iterations _ => some iterationsSlot
  | total _ _ => some totalSlot
  | whitespace _ => some whitespaceSlot
  | unknown _ _ => none

/-- The slots have the names of the members. -/
@[simp] theorem names_slots : slots.map (fun slot => slot.field.name) = memberNames := rfl

theorem slot?_of_name {slot : Slot (shape (dialect .text))} (listed : slot ∈ slots) {given : Given}
    (named : given.name = slot.field.name) : given.slot? = some slot := by
  have known : given.name ∈ memberNames := by
    rw [named, ← names_slots]
    exact List.mem_map_of_mem listed
  have own : exists own, own ∈ slots ∧ own.field.name = given.name ∧ given.slot? = some own := by
    cases given with
    | unknown name other => exact absurd known other
    | _ => exact ⟨_, by simp [slots], rfl, rfl⟩
  rcases own with ⟨own, ownListed, ownNamed, found⟩
  have distinct : (slots.map fun slot => slot.field.name).Nodup := by
    rw [names_slots]
    decide
  cases List.inj_on_of_nodup_map distinct ownListed listed (ownNamed.trans named)
  exact found

/-- The value of a member can be read unless it overflows, and then is what the report has. -/
theorem read_iff_agrees {slot : Slot (shape (dialect .text))} {given : Given}
    (own : given.slot? = some slot) {tree : Tree} (means : given.Means tree) :
    ((exists inner, slot.read tree = .ok inner) <-> given.Fits) ∧
      forall report, slot.read tree = .ok (slot.view report) <-> given.Agrees report := by
  have plain {slot : Slot (shape (dialect .text))} {given : Given} {inner : slot.Inner}
      (fits : given.Fits) (read : slot.read tree = .ok inner)
      (agrees : forall report, given.Agrees report <-> slot.view report = inner) :
      ((exists inner, slot.read tree = .ok inner) <-> given.Fits) ∧
        forall report, slot.read tree = .ok (slot.view report) <-> given.Agrees report := by
    refine ⟨⟨fun _ => fits, fun _ => ⟨inner, read⟩⟩, fun report => ?_⟩
    rw [agrees, read, Except.ok.injEq, eq_comm]
  cases given with
  | mode choice =>
      cases own
      exact plain trivial means fun _ => Iff.rfl
  | parallel flag =>
      cases own
      cases means
      exact plain trivial rfl fun _ => Iff.rfl
  | bufferLength word =>
      cases own
      cases means
      exact plain trivial (word_natural "usize" word) fun _ => Iff.rfl
  | iterations count =>
      cases own
      cases means
      exact plain trivial (count_natural count) fun _ => Iff.rfl
  | total secs nanos =>
      cases own
      refine ⟨(exists_congr means).trans Duration.exists_ofParts?_iff, fun report => ?_⟩
      exact (means report.total).trans Duration.ofParts?_eq_some_iff
  | whitespace word =>
      cases own
      cases means
      exact plain trivial (word_natural "usize" word) fun _ => Iff.rfl
  | unknown name other => cases own

/-- The values of a name are those of the members of that name. -/
theorem forall₂_valuesOf {members : List (Option String × Tree)} {givens : List Given}
    (shown : List.Forall₂ (fun member (given : Given) => member.1 = some given.name ∧
      member.2.sound = true ∧ given.Means member.2) members givens) (name : String) :
    List.Forall₂ (fun tree (given : Given) => given.Means tree) (valuesOf name members)
      (givens.filter fun given => given.name = name) := by
  induction shown with
  | nil => exact .nil
  | cons known later ih =>
      rename_i member given members givens
      rcases member with ⟨label, tree⟩
      rcases known with ⟨rfl, _, means⟩
      by_cases same : given.name = name
      · subst same
        rw [valuesOf_cons_same, List.filter_cons_of_pos (by simp)]
        exact .cons means ih
      · rw [valuesOf_cons_other (by simpa using same),
          List.filter_cons_of_neg (by simpa using same)]
        exact ih

theorem count_names (givens : List Given) (name : String) :
    (givens.map Given.name).count name = (givens.filter fun given => given.name = name).length := by
  rw [List.count_eq_countP, List.countP_map, List.countP_eq_length_filter]
  congr 1

/-- To say something of one member for each slot is to say it of all members. -/
theorem forall_slots_iff {givens : List Given} {holds : Given -> Prop}
    (others : forall name other, holds (.unknown name other)) :
    (forall slot, slot ∈ slots -> exists given,
      (givens.filter fun given => given.name = slot.field.name) = [given] ∧ holds given) <->
      IsOnce givens ∧ forall given, given ∈ givens -> holds given := by
  have names (property : String -> Prop) :
      (forall slot, slot ∈ slots -> property slot.field.name) <->
        forall name, name ∈ memberNames -> property name := by
    rw [← names_slots, List.forall_mem_map]
  rw [names fun name => exists given,
    (givens.filter fun given => given.name = name) = [given] ∧ holds given]
  constructor
  · intro single
    refine ⟨fun name listed => ?_, fun given member => ?_⟩
    · rcases single name listed with ⟨given, only, _⟩
      rw [count_names, only, List.length_singleton]
    · by_cases listed : given.name ∈ memberNames
      · rcases single given.name listed with ⟨only, found, known⟩
        have among : given ∈ givens.filter fun other => other.name = given.name :=
          List.mem_filter.mpr ⟨member, decide_eq_true rfl⟩
        rw [found, List.mem_singleton] at among
        exact among ▸ known
      · cases given with
        | unknown name other => exact others name other
        | _ => exact absurd (by simp [Given.name, memberNames]) listed
  · rintro ⟨once, all⟩ name listed
    have single := once name listed
    rw [count_names, List.length_eq_one_iff] at single
    rcases single with ⟨given, only⟩
    have member : given ∈ givens.filter fun given => given.name = name := by simp [only]
    exact ⟨given, only, all given (List.mem_filter.mp member).1⟩

/-- One value that is accepted belongs to one member of which something holds. -/
theorem exists_single_iff {trees : List Tree} {givens : List Given} {holds : Given -> Prop}
    {accepts : Tree -> Prop}
    (means : List.Forall₂ (fun tree (given : Given) => given.Means tree) trees givens)
    (same : forall tree given, given ∈ givens -> given.Means tree ->
      (accepts tree <-> holds given)) :
    (exists tree, trees = [tree] ∧ accepts tree) <->
      exists given, givens = [given] ∧ holds given := by
  cases means with
  | nil => simp
  | cons first later =>
      cases later with
      | nil => simp [same _ _ List.mem_cons_self first]
      | cons => simp

/-- An object is read as a report by what its members say. -/
theorem readRecord_members_iff {members : List (Option String × Tree)} {givens : List Given}
    (shown : List.Forall₂ (fun member (given : Given) => member.1 = some given.name ∧
      member.2.sound = true ∧ given.Means member.2) members givens) :
    (forall report, readRecord .text (shape (dialect .text)) (.object members .closed) =
        .ok report <-> IsOnce givens ∧ forall given, given ∈ givens -> given.Agrees report) ∧
    ((exists report, readRecord .text (shape (dialect .text)) (.object members .closed) =
        .ok report) <-> IsOnce givens ∧ forall given, given ∈ givens -> given.Fits) := by
  have sound : forall member, member ∈ members -> member.2.sound = true ∧
      exists name, member.1 = some name := by
    intro member listed
    rcases Toml.exists_related_of_mem shown listed with ⟨given, _, named, sound, _⟩
    exact ⟨sound, given.name, named⟩
  have own {slot : Slot (shape (dialect .text))} (listed : slot ∈ slots) {given : Given}
      (member : given ∈ givens.filter fun given => given.name = slot.field.name) :
      given.slot? = some slot :=
    slot?_of_name listed (of_decide_eq_true (List.mem_filter.mp member).2)
  constructor
  · intro report
    rw [readRecord_complete_iff isComplete hasSlots sound]
    refine Iff.trans (forall₂_congr fun slot listed => ?_) (forall_slots_iff fun _ _ => trivial)
    exact exists_single_iff (forall₂_valuesOf shown slot.field.name) fun tree given member means =>
      (read_iff_agrees (own listed member) means).2 report
  · rw [exists_readRecord_iff isComplete hasSlots sound]
    refine Iff.trans (forall₂_congr fun slot listed => ?_) (forall_slots_iff fun _ _ => trivial)
    exact exists_single_iff (forall₂_valuesOf shown slot.field.name) fun tree given member means =>
      (read_iff_agrees (own listed member) means).1

/-- A text that holds a sound value and nothing else is read as a report like this value. -/
theorem ofJson_of_parse {text : List Char} {tree : Tree} (parsed : parse text = ⟨tree, true⟩)
    {report : Report} :
    ofJson (String.ofList text) = .ok report <->
      readRecord .text (shape (dialect .text)) tree = .ok report := by
  change _ <-> Report.decode (dialect .text) tree = .ok report
  rw [ofJson, String.toList_ofList, Json.decode, parsed]
  cases Report.decode (dialect .text) tree <;> simp

/-- Every report is read back from its text.  An object in any spelling, whose members are
those of a report with admissible values or have other names, is read as a report exactly if
each of the six members occurs once and the total time does not overflow; the report then has
their values. -/
theorem ofJson_iff_given :
    (forall report : Report, ofJson report.json = .ok report) ∧
    forall (givens : List Given) (text : List Char), IsSpelled givens text ->
      (forall report, ofJson (String.ofList text) = .ok report <->
        IsOnce givens ∧ forall given, given ∈ givens -> given.Agrees report) ∧
      ((exists report, ofJson (String.ofList text) = .ok report) <->
        IsOnce givens ∧ forall given, given ∈ givens -> given.Fits) := by
  refine ⟨ofJson_json, ?_⟩
  rintro givens text ⟨lead, gap, tail, entries, leadBlanks, gapBlanks, tailBlanks, each, rfl⟩
  have isRead : List.Forall₂ Entry.IsRead entries (givens.map fun given member =>
      member.1 = some given.name ∧ member.2.sound = true ∧ given.Means member.2) := by
    rw [List.forall₂_map_right_iff]
    exact each.imp fun entry given spelled => spelled.isRead fun _ => Given.reads_of_isSpelled
  rcases parse_of_reads (reads_object gapBlanks isRead) leadBlanks tailBlanks with
    ⟨_, parsed, members, rfl, shown⟩
  rw [List.forall₂_map_right_iff] at shown
  simp only [ofJson_of_parse parsed]
  exact readRecord_members_iff shown

/-- All members in reverse order, with blanks, an escape in a name and an unknown member; the
nanoseconds hold two more seconds, which overflow if there are too many already. -/
theorem ofJson_iff_given_reordered :
    let text (secs : UInt64) : List Char :=
      "\n\x7b \x22x\x22 : [ 1.5e3 , \x7b\x7d ] ,\x22whitespace\x22:3,".toList ++
        "\x22total\x22:\x7b\x22nanos\x22\t:2000000001,\x22secs\x22:".toList ++
        (toString secs.toNat).toList ++
        "\x7d,\x22iterations\x22:2,\x22buffer_len\x22:7,\x22parallel\x22:true,".toList ++
        "\x22m\\u006fde\x22:\x22chars\x22\x7d\n".toList
    let givens (secs : UInt64) : List Given := [.unknown "x" (by decide), .whitespace 3,
      .total secs 2000000001, .iterations 2, .bufferLength 7, .parallel true, .mode .chars]
    (forall secs, IsSpelled (givens secs) (text secs)) ∧
      ofJson (String.ofList (text 1)) = .ok ⟨.chars, true, 7, 2, ⟨3, 1, by decide⟩, 3⟩ ∧
      Not (exists report, ofJson (String.ofList (text 18446744073709551614)) = .ok report) := by
  intro text givens
  have none : AreBlanks [] := by simp [AreBlanks]
  have spaces : AreBlanks [' '] ∧ AreBlanks ['\t'] ∧ AreBlanks ['\n'] := by
    simp [AreBlanks, isBlank]
  have digits (digit : Char) (isDigit : Json.isDigit digit = true) : AreDigits [digit] :=
    ⟨by simp, by simp [isDigit]⟩
  have wellFormed : WellFormed "[ 1.5e3 , \x7b\x7d ]".toList := by
    have number : WellFormed ([] ++ Nat.toDigits 10 1 ++ ['.', '5'] ++ ('e' :: ([] ++ ['3']))) :=
      .number (.intro 1 (.inl rfl) (.point (digits '5' rfl))
        (.mark (.inl rfl) (.inl rfl) (digits '3' rfl)))
    have object : WellFormed (enclosed '\x7b' '\x7d' [] ([].map Entry.written)) :=
      .object none (by simp) (by simp) (by simp)
    have array : WellFormed (enclosed '[' ']' [] (List.map Item.written
        [⟨[' '], "1.5e3".toList, [' ']⟩, ⟨[' '], "\x7b\x7d".toList, [' ']⟩])) :=
      .array none
        (List.forall_mem_cons.mpr ⟨⟨spaces.1, spaces.1⟩, List.forall_mem_singleton.mpr
          ⟨spaces.1, spaces.1⟩⟩)
        (List.forall_mem_cons.mpr ⟨number, List.forall_mem_singleton.mpr object⟩)
    exact array
  have spelled (secs : UInt64) : IsSpelled (givens secs) (text secs) := by
    let entry (name : String) (text : List Char) : Entry := ⟨[], name.toList, [], [], text, []⟩
    have plain {name : String} {text : List Char} {texts : List Char -> Prop}
        (ordinary : name.toList.all isOrdinary = true) (valued : texts text) :
        (entry name text).IsSpelled name texts :=
      ⟨⟨none, none, none, none⟩, isLiteral_ordinary ordinary, valued⟩
    let nanos : Entry := ⟨[], "nanos".toList, ['\t'], [], "2000000001".toList, []⟩
    let total : List Char := enclosed '\x7b' '\x7d' []
      [nanos.written, (entry "secs" (toString secs.toNat).toList).written]
    let unknown : Entry := ⟨[' '], "x".toList, [' '], [' '],
      "[ 1.5e3 , \x7b\x7d ]".toList, [' ']⟩
    let mode : Entry := ⟨[], "m\\u006fde".toList, [], [], "\x22chars\x22".toList, []⟩
    have escaped : IsLiteral mode.body "mode" :=
      ⟨_, .ordinary (by decide) (.unit rfl (.ordinary (by decide) (.ordinary (by decide) .nil))),
        .character (.scalar (.inl (by decide)) (.character (.character .nil)))⟩
    refine ⟨['\n'], [], ['\n'], [unknown, entry "whitespace" "3".toList, entry "total" total,
      entry "iterations" "2".toList, entry "buffer_len" "7".toList,
      entry "parallel" "true".toList, mode], spaces.2.2, none, spaces.2.2,
      .cons ?_ (.cons ?_ (.cons ?_ (.cons ?_ (.cons ?_ (.cons ?_ (.cons ?_ .nil)))))), ?_⟩
    · exact ⟨⟨spaces.1, spaces.1, spaces.1, spaces.1⟩, isLiteral_ordinary (by decide), wellFormed⟩
    · exact plain (by decide) rfl
    · have plainSecs : "secs".toList.all isOrdinary = true := by decide
      refine plain (by decide) ⟨_, _, .nanosFirst, .cons ?_ (.cons (plain plainSecs rfl) .nil), rfl⟩
      exact ⟨⟨none, spaces.2.1, none, none⟩, isLiteral_ordinary (by decide), rfl⟩
    · exact plain (by decide) rfl
    · exact plain (by decide) rfl
    · exact plain (by decide) rfl
    · exact ⟨⟨none, none, none, none⟩, escaped, .name (isLiteral_ordinary (by decide))⟩
    · simp [text, enclosed, separated, Entry.written, Entry.bare, entry, nanos, total, unknown,
        mode]
  refine ⟨spelled, ?_, ?_⟩
  · refine ((ofJson_iff_given.2 _ _ (spelled 1)).1 _).mpr ⟨?_, ?_⟩
    · simp [IsOnce, memberNames, givens, Given.name]
    · simp [givens, Given.Agrees, Duration.toNanos, Duration.nanosPerSecond]
  · rw [(ofJson_iff_given.2 _ _ (spelled 18446744073709551614)).2]
    rintro ⟨_, fits⟩
    have total := fits (.total 18446744073709551614 2000000001) (by simp [givens])
    simp [Given.Fits] at total

end Report

end WhitespaceBench
