import WhitespaceBench.Json.Decode
import WhitespaceBench.Proofs.NamedFields

namespace WhitespaceBench
namespace Json

open Decode

/-!
# Objects are read member by member

A record in which nothing may be left out is read from an object exactly if every field is
given once, by a value that it accepts.  A field that is given twice makes the record fail
just as one that is not given; members of other names only have to be sound, and may be
repeated.
-/

/-- The values that members give to a name. -/
def valuesOf (name : String) (members : List (Option String × Tree)) : List Tree :=
  members.filterMap fun member => if member.1 = some name then some member.2 else none

@[simp] theorem valuesOf_cons_same {name : String} {tree : Tree}
    {members : List (Option String × Tree)} :
    valuesOf name ((some name, tree) :: members) = tree :: valuesOf name members := by
  simp [valuesOf]

@[simp] theorem valuesOf_cons_other {name : String} {member : Option String × Tree}
    {members : List (Option String × Tree)} (other : member.1 ≠ some name) :
    valuesOf name (member :: members) = valuesOf name members := by
  simp [valuesOf, other]

section Members

variable {Record Result : Type} {shape : Shape Tree Failure Record Result}

/-- One member that is read without a fault: its name is unknown and nothing changes, or it
is the name of a field that was not given yet, which stores the value. -/
theorem readMember_cases {draft next : Draft Record} {member : Option String × Tree}
    (read : readMember shape draft member = .ok next) :
    exists name, member.1 = some name ∧
      ((shape.named? name = none ∧ next = draft) ∨
      exists field record, shape.named? name = some field ∧ name ∉ draft.given ∧
        field.store member.2 draft.record = .ok record ∧ next = ⟨record, name :: draft.given⟩) := by
  unfold readMember at read
  split at read
  · cases read
  · rename_i name named
    refine ⟨name, named, ?_⟩
    split at read
    · rename_i unknown
      split at read
      · cases read
      · split at read
        · cases read
          exact Or.inl ⟨unknown, rfl⟩
        · cases read
    · rename_i field known
      split at read
      · cases read
      · rename_i fresh
        split at read
        · cases read
        · rename_i record stored
          cases read
          exact Or.inr ⟨field, record, known, fun given => fresh (List.contains_iff_mem.mpr given),
            stored, rfl⟩

/-- A field that was given before is not given again, and stays as it is. -/
theorem kept_of_readMembers (slot : Slot shape) {members : List (Option String × Tree)}
    {start last : Draft Record} (read : readMembers shape members start = .ok last)
    (given : slot.field.name ∈ start.given) :
    valuesOf slot.field.name members = [] ∧ slot.view last.record = slot.view start.record := by
  induction members generalizing start with
  | nil =>
      cases read
      exact ⟨rfl, rfl⟩
  | cons member members ih =>
      rw [readMembers] at read
      split at read
      · cases read
      · rename_i next first
        rcases readMember_cases first with ⟨name, named, ⟨unknown, rfl⟩ |
          ⟨field, record, known, fresh, stored, rfl⟩⟩
        · have other : member.1 ≠ some slot.field.name := by
            intro same
            rw [Option.some.inj (named.symm.trans same), slot.named] at unknown
            cases unknown
          rw [valuesOf_cons_other other]
          exact ih read given
        · have different : name ≠ slot.field.name := fun same => fresh (same ▸ given)
          have other : member.1 ≠ some slot.field.name :=
            fun same => different (Option.some.inj (named.symm.trans same))
          have untouched := slot.apart field (Shape.mem_of_named? known)
            (Shape.name_of_named? known ▸ different) _ _ _ stored
          rw [valuesOf_cons_other other]
          rcases ih read (List.mem_cons_of_mem _ given) with ⟨none, same⟩
          exact ⟨none, same.trans untouched⟩

/-- A field that is given in the end and was not before is given once, and is what was read
for it. -/
theorem told_of_readMembers (slot : Slot shape) {members : List (Option String × Tree)}
    {start last : Draft Record} (read : readMembers shape members start = .ok last)
    (before : slot.field.name ∉ start.given) (after : slot.field.name ∈ last.given) :
    exists tree, valuesOf slot.field.name members = [tree] ∧
      slot.read tree = .ok (slot.view last.record) := by
  induction members generalizing start with
  | nil =>
      cases read
      exact absurd after before
  | cons member members ih =>
      rw [readMembers] at read
      split at read
      · cases read
      · rename_i next first
        rcases member with ⟨label, tree⟩
        rcases readMember_cases first with ⟨name, named, ⟨unknown, rfl⟩ |
          ⟨field, record, known, fresh, stored, rfl⟩⟩
        · have other : label ≠ some slot.field.name := by
            intro same
            rw [Option.some.inj (named.symm.trans same), slot.named] at unknown
            cases unknown
          rw [valuesOf_cons_other other]
          exact ih read before
        · cases named
          by_cases same : name = slot.field.name
          · subst same
            -- No later member has the name, so what is stored here remains.
            rcases kept_of_readMembers slot read List.mem_cons_self with ⟨none, kept⟩
            cases slot.named.symm.trans known
            rw [slot.stores] at stored
            rcases storing_eq_ok_iff.mp stored with ⟨inner, found, rfl⟩
            refine ⟨tree, by simp [none], ?_⟩
            rw [found, kept, slot.placed]
          · have other : some name ≠ some slot.field.name :=
              fun equal => same (Option.some.inj equal)
            rw [valuesOf_cons_other other]
            refine ih read ?_
            simp [Ne.symm same, before]

/-- A field with a value is among those that were given in the end. -/
theorem given_of_readMembers {field : Field Tree Failure Record}
    (named : shape.named? field.name = some field) {members : List (Option String × Tree)}
    {start last : Draft Record} (read : readMembers shape members start = .ok last)
    (given : field.name ∈ start.given ∨ valuesOf field.name members ≠ []) :
    field.name ∈ last.given := by
  induction members generalizing start with
  | nil =>
      cases read
      exact given.resolve_right (fun some => some rfl)
  | cons member members ih =>
      rw [readMembers] at read
      split at read
      · cases read
      · rename_i next first
        apply ih read
        rcases readMember_cases first with ⟨name, label, ⟨unknown, rfl⟩ |
          ⟨other, record, known, fresh, stored, rfl⟩⟩
        · have different : member.1 ≠ some field.name := by
            intro same
            rw [Option.some.inj (label.symm.trans same), named] at unknown
            cases unknown
          rwa [valuesOf_cons_other different] at given
        · by_cases same : name = field.name
          · exact Or.inl (List.mem_cons.mpr (Or.inl same.symm))
          · have different : member.1 ≠ some field.name :=
              fun equal => same (Option.some.inj (label.symm.trans equal))
            rw [valuesOf_cons_other different] at given
            exact given.imp_left (List.mem_cons_of_mem _)

end Members

section Records

variable {Record : Type} {shape : Shape Tree Failure Record Record} {slots : List (Slot shape)}

/-- Members with sound values are read without a fault if none is repeated whose name is that
of a field, and every field accepts its value. -/
theorem readMembers_isOk (passes : shape.strict = false) (covered : shape.HasSlots slots)
    {members : List (Option String × Tree)}
    (sound : forall member, member ∈ members -> member.2.sound = true ∧
      exists name, member.1 = some name)
    (start : Draft Record)
    (each : forall slot, slot ∈ slots -> valuesOf slot.field.name members = [] ∨
      slot.field.name ∉ start.given ∧ exists tree inner,
        valuesOf slot.field.name members = [tree] ∧ slot.read tree = .ok inner) :
    exists last, readMembers shape members start = .ok last := by
  induction members generalizing start with
  | nil => exact ⟨start, rfl⟩
  | cons member members ih =>
      rcases List.forall_mem_cons.mp sound with ⟨⟨firstSound, name, label⟩, othersSound⟩
      rcases member with ⟨_, tree⟩
      cases label
      rw [readMembers, readMember]
      dsimp only
      cases known : shape.named? name with
      | none =>
          simp only [passes, Bool.false_eq_true, if_false, firstSound, if_true]
          apply ih othersSound
          intro slot member
          have other : some name ≠ some slot.field.name := by
            intro same
            rw [Option.some.inj same, slot.named] at known
            cases known
          have known := each slot member
          rwa [valuesOf_cons_other other] at known
      | some field =>
          have listed := Shape.mem_of_named? known
          rw [← covered.all] at listed
          rcases List.mem_map.mp listed with ⟨slot, member, rfl⟩
          cases Shape.name_of_named? known
          have accepted := each slot member
          rw [valuesOf_cons_same] at accepted
          rcases accepted with none | ⟨fresh, only, inner, single, found⟩
          · cases none
          · rcases List.cons.inj single with ⟨rfl, none⟩
            have given : Not (start.given.contains slot.field.name = true) :=
              fun given => fresh (List.contains_iff_mem.mp given)
            have stored : slot.field.store tree start.record =
                .ok (slot.place inner start.record) := by
              rw [slot.stores]
              exact storing_eq_ok_iff.mpr ⟨inner, found, rfl⟩
            simp only [if_neg given, stored]
            apply ih othersSound
            intro other otherMember
            by_cases same : slot.field.name = other.field.name
            · exact Or.inl (same ▸ none)
            · have different : some slot.field.name ≠ some other.field.name :=
                fun equal => same (Option.some.inj equal)
              have known := each other otherMember
              rw [valuesOf_cons_other different] at known
              refine known.imp_right fun ⟨absent, rest⟩ => ⟨?_, rest⟩
              simp [Ne.symm same, absent]

/-- Where all members have been read and nothing is missing, every slot was told by one. -/
theorem told_of_complete (complete : shape.IsComplete) {members : List (Option String × Tree)}
    {last : Draft Record} (read : readMembers shape members ⟨shape.initial, []⟩ = .ok last)
    (present : shape.missing? last.given = none) (slot : Slot shape) :
    exists tree, valuesOf slot.field.name members = [tree] ∧
      slot.read tree = .ok (slot.view last.record) := by
  have listed := Shape.mem_of_named? slot.named
  have after := Shape.missing?_eq_none_iff.mp present _ listed (complete.required _ listed)
  exact told_of_readMembers slot read List.not_mem_nil after

theorem readRecord_object_eq_ok_iff (complete : shape.IsComplete)
    {members : List (Option String × Tree)} {final : Record} :
    readRecord .text shape (.object members .closed) = .ok final <->
      exists last, readMembers shape members ⟨shape.initial, []⟩ = .ok last ∧
        shape.missing? last.given = none ∧ last.record = final := by
  cases read : readMembers shape members ⟨shape.initial, []⟩ with
  | error failure => simp [readRecord, Origin.members, read]
  | ok last =>
      cases missing : shape.missing? last.given with
      | some name => simp [readRecord, Origin.members, read, missing]
      | none => simp [readRecord, Origin.members, read, missing, finish, complete.finish]

variable {members : List (Option String × Tree)}

/-- An object is read as a complete record exactly if it has one value for every slot, which
can be read. -/
theorem exists_readRecord_iff (complete : shape.IsComplete) (covered : shape.HasSlots slots)
    (sound : forall member, member ∈ members -> member.2.sound = true ∧
      exists name, member.1 = some name) :
    (exists final, readRecord .text shape (.object members .closed) = .ok final) <->
      forall slot, slot ∈ slots -> exists tree, valuesOf slot.field.name members = [tree] ∧
        exists inner, slot.read tree = .ok inner := by
  constructor
  · rintro ⟨final, success⟩ slot _
    rcases (readRecord_object_eq_ok_iff complete).mp success with ⟨last, read, present, _⟩
    rcases told_of_complete complete read present slot with ⟨tree, single, found⟩
    exact ⟨tree, single, _, found⟩
  · intro each
    have accepted : forall slot, slot ∈ slots -> valuesOf slot.field.name members = [] ∨
        slot.field.name ∉ ([] : List String) ∧ exists tree inner,
          valuesOf slot.field.name members = [tree] ∧ slot.read tree = .ok inner := by
      intro slot member
      rcases each slot member with ⟨tree, single, inner, found⟩
      exact Or.inr ⟨List.not_mem_nil, tree, inner, single, found⟩
    rcases readMembers_isOk complete.strict covered sound ⟨shape.initial, []⟩ accepted with
      ⟨last, read⟩
    have present : shape.missing? last.given = none := by
      rw [Shape.missing?_eq_none_iff, ← covered.all, List.forall_mem_map]
      intro slot member _
      rcases each slot member with ⟨tree, single, _⟩
      exact given_of_readMembers slot.named read (Or.inr (by simp [single]))
    exact ⟨last.record, (readRecord_object_eq_ok_iff complete).mpr ⟨last, read, present, rfl⟩⟩

/-- The record is the one whose parts are read from these values. -/
theorem readRecord_complete_iff (complete : shape.IsComplete) (covered : shape.HasSlots slots)
    (sound : forall member, member ∈ members -> member.2.sound = true ∧
      exists name, member.1 = some name) {final : Record} :
    readRecord .text shape (.object members .closed) = .ok final <->
      forall slot, slot ∈ slots -> exists tree, valuesOf slot.field.name members = [tree] ∧
        slot.read tree = .ok (slot.view final) := by
  constructor
  · intro success slot _
    rcases (readRecord_object_eq_ok_iff complete).mp success with ⟨last, read, present, rfl⟩
    exact told_of_complete complete read present slot
  · intro each
    have readable := (exists_readRecord_iff complete covered sound).mpr fun slot member => by
      rcases each slot member with ⟨tree, single, found⟩
      exact ⟨tree, single, _, found⟩
    rcases readable with ⟨other, success⟩
    rcases (readRecord_object_eq_ok_iff complete).mp success with ⟨last, read, present, rfl⟩
    -- Both records are told the same, part by part.
    have equal : last.record = final := by
      apply covered.ext
      intro slot member
      rcases told_of_complete complete read present slot with ⟨tree, single, found⟩
      rcases each slot member with ⟨other, otherSingle, otherFound⟩
      cases single.symm.trans otherSingle
      exact Except.ok.inj (found.symm.trans otherFound)
    rw [← equal]
    exact success

end Records

end Json
end WhitespaceBench
