import Mathlib
import WhitespaceBench.Proofs.IntegerLiteral
import WhitespaceBench.Report.Json

namespace WhitespaceBench

open Decode

/-!
# Written reports are read back

A report is one object on one line, and its duration is an object within.  The reader of
values takes off exactly the text that a value was written to, whatever is written behind it:
a comma, or the brace that closes the object around.  The steps that it needs are counted, so
that the bound on them is never met.
-/

namespace Json

/-! ## Plain values -/

/-- Whether a character may stand behind a value: a blank, or one that separates or closes. -/
def isEnd (character : Char) : Bool :=
  isBlank character || character == ',' || character == ']' || character == '\x7d'

/-- What may stand behind a value within another one, or at the end of a text. -/
def Follows (rest : List Char) : Prop :=
  forall character, rest.head? = some character -> isEnd character = true

theorem follows_cons {first : Char} (isEnd : isEnd first = true) (others : List Char) :
    Follows (first :: others) := by
  rintro _ ⟨⟩
  exact isEnd

theorem ne_cons_of_follows {rest : List Char} (follows : Follows rest) {within : Char}
    (isWithin : isEnd within = false) (others : List Char) : rest ≠ within :: others := by
  rintro rfl
  exact absurd ((follows within rfl).symm.trans isWithin) (by decide)

/-- A text on one line that is read as a value, given more than so many steps. -/
structure Spells (steps : Nat) (text : List Char) (tree : Tree) : Prop where
  line : '\n' ∉ text
  read : forall bound rest, steps < bound -> Follows rest ->
    value bound (text ++ rest) = (tree, rest)

@[simp] theorem natural_toDigits (size : Nat) : natural (Nat.toDigits 10 size) = size := by
  have read := Nat.ofDigitChars_toDigits (b := 10) (n := size) (by decide) (by decide)
  rw [Nat.ofDigitChars_eq_foldl] at read
  simp only [Nat.mul_comm] at read
  exact read

/-- A text that starts with no digit. -/
def NoDigit (rest : List Char) : Prop :=
  forall character, rest.head? = some character -> isDigit character = false

theorem noDigit_of_follows {rest : List Char} (follows : Follows rest) : NoDigit rest := by
  intro character first
  have known := follows character first
  simp only [isEnd, isBlank, Bool.or_eq_true, beq_iff_eq] at known
  rcases known with ((((((rfl | rfl) | rfl) | rfl) | rfl) | rfl) | rfl) <;> rfl

/-- Digits are taken as far as they go. -/
theorem digits_append {written rest : List Char}
    (all : forall character, character ∈ written -> isDigit character = true)
    (stops : NoDigit rest) : digits (written ++ rest) = (written, rest) := by
  have none : rest.takeWhile isDigit = [] ∧ rest.dropWhile isDigit = rest := by
    cases rest with
    | nil => exact ⟨rfl, rfl⟩
    | cons first others =>
        have other : Not (isDigit first = true) := by simp [stops first rfl]
        exact ⟨List.takeWhile_cons_of_neg other, List.dropWhile_cons_of_neg other⟩
  rw [digits, List.takeWhile_append_of_pos all, List.dropWhile_append_of_pos all, none.1, none.2,
    List.append_nil]

/-- Digits without a point or an exponent behind them are an integer. -/
theorem afterWhole_of_follows {rest : List Char} (follows : Follows rest) (negative : Bool)
    (whole : List Char) : afterWhole negative whole rest = (integer negative whole, rest) := by
  unfold afterWhole
  dsimp only
  split
  · exact absurd rfl (ne_cons_of_follows follows (by decide) _)
  · exact absurd rfl (ne_cons_of_follows follows (by decide) _)
  · exact absurd rfl (ne_cons_of_follows follows (by decide) _)
  · rfl

/-- The whole part of a number has no zeros in front. -/
theorem unsignedNumber_append (negative : Bool) (whole : Nat) {rest : List Char}
    (stops : NoDigit rest) :
    unsignedNumber negative (Nat.toDigits 10 whole ++ rest) =
      afterWhole negative (Nat.toDigits 10 whole) rest := by
  rw [unsignedNumber, digits_append (Toml.isDigit_of_mem_toDigits whole) stops]
  rcases Nat.eq_zero_or_pos whole with rfl | positive
  · rfl
  · -- Only zero starts with the digit zero, so the cases of a leading zero do not arise.
    have notZero := Toml.head?_toDigits positive
    split
    · rename_i same
      exact absurd (Prod.mk.inj same).1 Nat.toDigits_ne_nil
    · rename_i same
      rw [(Prod.mk.inj same).1] at notZero
      exact absurd rfl notZero
    · rename_i same
      rw [(Prod.mk.inj same).1] at notZero
      exact absurd rfl notZero
    · rename_i same
      cases same
      rfl

theorem unsignedNumber_toDigits {size : Nat} (small : size ≤ wordLimit) {rest : List Char}
    (follows : Follows rest) :
    unsignedNumber false (Nat.toDigits 10 size ++ rest) = (.number (.natural size), rest) := by
  rw [unsignedNumber_append false size (noDigit_of_follows follows), afterWhole_of_follows follows]
  simp [integer, small]

theorem value_of_isDigit (bound : Nat) {first : Char} (digit : isDigit first = true)
    (rest : List Char) :
    value (bound + 1) (first :: rest) = unsignedNumber false (first :: rest) := by
  have visible : skipBlanks (first :: rest) = first :: rest := by
    refine List.dropWhile_cons_of_neg fun blank => ?_
    simp only [isBlank, Bool.or_eq_true, beq_iff_eq] at blank
    rcases blank with ((rfl | rfl) | rfl) | rfl <;> exact absurd digit (by decide)
  rw [value, visible]
  split <;> rename_i same <;> cases same
  case h_9 => exact if_pos digit
  all_goals exact absurd digit (by decide)

theorem spells_number {size : Nat} (small : size ≤ wordLimit) :
    Spells 0 (toString size).toList (.number (.natural size)) := by
  have all := Toml.isDigit_of_mem_toDigits size
  rw [Nat.toString_eq_repr, Nat.toList_repr]
  refine ⟨fun newline => absurd (all _ newline) (by decide), ?_⟩
  intro bound rest enough follows
  rcases bound with _ | bound
  · cases enough
  · rw [← unsignedNumber_toDigits small follows]
    cases written : Nat.toDigits 10 size with
    | nil => exact absurd written Nat.toDigits_ne_nil
    | cons first others =>
        rw [written] at all
        exact value_of_isDigit bound (all first List.mem_cons_self) (others ++ rest)

theorem spells_word (word : UInt64) :
    Spells 0 (toString word.toNat).toList (.number (.natural word.toNat)) :=
  spells_number (Nat.le_of_lt_succ word.toNat_lt_size)

theorem spells_count (count : UInt32) :
    Spells 0 (toString count.toNat).toList (.number (.natural count.toNat)) :=
  spells_number (Nat.le_trans (Nat.le_of_lt count.toNat_lt_size)
    (by decide : UInt32.size ≤ wordLimit))

theorem spells_flag (flag : Bool) :
    Spells 0 (if flag then "true" else "false").toList (.boolean flag) := by
  refine ⟨by cases flag <;> decide, ?_⟩
  intro bound rest enough _
  rcases bound with _ | bound
  · cases enough
  · cases flag <;> rfl

/-- A character that stands in quotes as it is. -/
def isOrdinary (character : Char) : Bool :=
  !(character == '\x22' || character == '\\' || decide (character.toNat < 0x20))

theorem isOrdinary_iff {character : Char} :
    isOrdinary character = true <->
      character ≠ '\x22' ∧ character ≠ '\\' ∧ Not (character.toNat < 0x20) := by
  simp [isOrdinary, and_assoc]

theorem newline_not_mem {text : List Char} (plain : text.all isOrdinary = true) :
    '\n' ∉ text := by
  intro newline
  exact absurd (List.all_eq_true.mp plain _ newline) (by decide)

/-- An ordinary character is a piece of its own. -/
theorem pieces_cons {character : Char} (plain : isOrdinary character = true) {text left : List Char}
    {written : List Piece} (later : pieces text = some (written, left)) :
    pieces (character :: text) = some (.character character :: written, left) := by
  rcases isOrdinary_iff.mp plain with ⟨notQuote, notEscape, visible⟩
  rw [pieces.eq_def]
  split <;> rename_i same
  case h_1 => cases same
  case h_2 => exact absurd (List.cons.inj same).1 notQuote
  case h_3 => exact absurd (List.cons.inj same).1 notEscape
  case h_4 => exact absurd (List.cons.inj same).1 notEscape
  case h_5 =>
      rw [← (List.cons.inj same).1, ← (List.cons.inj same).2,
        if_neg (not_or.mpr ⟨notEscape, visible⟩), later]

theorem pieces_ordinary {text : List Char} (plain : text.all isOrdinary = true)
    (rest : List Char) :
    pieces (text ++ '\x22' :: rest) = some (text.map .character, rest) := by
  induction text with
  | nil => rfl
  | cons character text ih =>
      rw [List.all_cons, Bool.and_eq_true] at plain
      exact pieces_cons plain.1 (ih plain.2)

@[simp] theorem characters?_characters (text : List Char) :
    characters? (text.map .character) = some text := by
  induction text with
  | nil => rfl
  | cons character text ih =>
      rw [List.map_cons, characters?, ih]
      rfl

theorem value_quote (bound : Nat) (rest : List Char) :
    value (bound + 1) ('\x22' :: rest) =
      match pieces rest with
      | none => (.broken, [])
      | some (read, left) =>
          match characters? read with
          | some characters => (.text (String.ofList characters), left)
          | none => (.valueless, left) := by
  rw [value]
  rfl

theorem spells_text {text : String} (plain : text.toList.all isOrdinary = true) :
    Spells 0 ('\x22' :: text.toList ++ ['\x22']) (.text text) := by
  refine ⟨by simp [newline_not_mem plain], ?_⟩
  intro bound rest enough _
  rcases bound with _ | bound
  · cases enough
  · rw [List.append_assoc, List.singleton_append, List.cons_append, value_quote,
      pieces_ordinary plain rest]
    simp

/-! ## Objects -/

/-- A member of an object: its name, its value, and the text that the value is written to. -/
structure Member where
  name : String
  text : List Char
  tree : Tree

namespace Member

def written (member : Member) : List Char :=
  '\x22' :: member.name.toList ++ '\x22' :: ':' :: member.text

def read (member : Member) : Option String × Tree :=
  (some member.name, member.tree)

/-- What is written is read, given more than so many steps. -/
structure IsSpelled (steps : Nat) (member : Member) : Prop where
  plain : member.name.toList.all isOrdinary = true
  spelled : Spells steps member.text member.tree
  sound : member.tree.sound = true

theorem isSpelled (name : String) (plain : name.toList.all isOrdinary = true) {few steps : Nat}
    {text : List Char} {tree : Tree} (spelled : Spells few text tree) (enough : few ≤ steps)
    (sound : tree.sound = true) : (Member.mk name text tree).IsSpelled steps where
  plain := plain
  spelled := ⟨spelled.line, fun bound rest more =>
    spelled.read bound rest (Nat.lt_of_le_of_lt enough more)⟩
  sound := sound

end Member

/-- Members as they are written, up to the closing brace. -/
def writtenMembers : List Member -> List Char
  | [] => ['\x7d']
  | [member] => member.written ++ ['\x7d']
  | first :: second :: others => first.written ++ ',' :: writtenMembers (second :: others)

/-- What is read behind the name of a member and its colon. -/
theorem members_quote {bound : Nat} {rest left : List Char} {written : List Piece}
    (name : pieces rest = some (written, ':' :: left)) :
    members (bound + 1) ('\x22' :: rest) =
      match value bound left with
      | (read, behind) =>
          if read.sound then
            match skipBlanks behind with
            | '\x7d' :: rest => ([((characters? written).map String.ofList, read)], .closed, rest)
            | ',' :: rest =>
                match members bound (skipBlanks rest) with
                | (more, ending, last) =>
                    (((characters? written).map String.ofList, read) :: more, ending, last)
            | _ => ([((characters? written).map String.ofList, read)], .broken, [])
          else ([((characters? written).map String.ofList, read)], .broken, []) := by
  rw [members]
  change (match pieces rest with | none => _ | some (written, left) => _) = _
  rw [name]
  rfl

/-- One member is taken off.  What becomes of the others depends on what stands behind it. -/
theorem members_written {steps bound : Nat} (enough : steps < bound) {member : Member}
    (spelled : member.IsSpelled steps) {rest : List Char} (follows : Follows rest) :
    members (bound + 1) (member.written ++ rest) =
      match skipBlanks rest with
      | '\x7d' :: rest => ([member.read], .closed, rest)
      | ',' :: rest =>
          match members bound (skipBlanks rest) with
          | (more, ending, last) => (member.read :: more, ending, last)
      | _ => ([member.read], .broken, []) := by
  have name := pieces_ordinary spelled.plain (':' :: (member.text ++ rest))
  have found := spelled.spelled.read bound rest enough follows
  have text : member.written ++ rest =
      '\x22' :: (member.name.toList ++ '\x22' :: ':' :: (member.text ++ rest)) := by
    simp [Member.written]
  have same : (characters? (member.name.toList.map .character)).map String.ofList =
      some member.name := by simp
  rw [text, members_quote name, found]
  dsimp only
  rw [if_pos spelled.sound, same]
  rfl

theorem members_writtenMembers {steps bound : Nat} {first : Member} {others : List Member}
    (enough : steps + others.length + 1 < bound) (rest : List Char)
    (spelled : forall member, member ∈ first :: others -> member.IsSpelled steps) :
    members bound (writtenMembers (first :: others) ++ rest) =
      ((first :: others).map Member.read, .closed, rest) := by
  induction others generalizing first bound with
  | nil =>
      rcases bound with _ | bound
      · cases enough
      · have follows : Follows ('\x7d' :: rest) := follows_cons rfl rest
        have last := members_written (Nat.lt_of_succ_lt_succ enough)
          (spelled first List.mem_cons_self) follows
        rw [writtenMembers, List.append_assoc, List.singleton_append, last]
        rfl
  | cons second others ih =>
      rcases bound with _ | bound
      · cases enough
      · have spelled := List.forall_mem_cons.mp spelled
        have later : steps + others.length + 1 < bound := Nat.lt_of_succ_lt_succ enough
        have follows : Follows (',' :: (writtenMembers (second :: others) ++ rest)) :=
          follows_cons rfl _
        have visible : skipBlanks (writtenMembers (second :: others) ++ rest) =
            writtenMembers (second :: others) ++ rest := by
          cases others <;> rfl
        rw [writtenMembers, List.append_assoc, List.cons_append,
          members_written (by omega) spelled.1 follows]
        change (match members bound (skipBlanks (writtenMembers (second :: others) ++ rest)) with
          | (more, ending, last) => (first.read :: more, ending, last)) = _
        rw [visible, ih later spelled.2]
        rfl

def writtenObject (members : List Member) : List Char :=
  '\x7b' :: writtenMembers members

theorem newline_not_mem_writtenMembers {steps : Nat} {written : List Member}
    (spelled : forall member, member ∈ written -> member.IsSpelled steps) :
    '\n' ∉ writtenMembers written := by
  have single {member : Member} (spelled : member.IsSpelled steps) : '\n' ∉ member.written := by
    simp [Member.written, newline_not_mem spelled.plain, spelled.spelled.line]
  induction written with
  | nil => decide
  | cons first others ih =>
      have spelled := List.forall_mem_cons.mp spelled
      cases others with
      | nil => simp [writtenMembers, single spelled.1]
      | cons second others => simp [writtenMembers, single spelled.1, ih spelled.2]

def readObject (members : List Member) : Tree :=
  .object (members.map Member.read) .closed

/-- An object is read whatever stands behind it. -/
theorem value_writtenObject {steps bound : Nat} {written : List Member}
    (enough : steps + written.length + 1 < bound) (rest : List Char)
    (spelled : forall member, member ∈ written -> member.IsSpelled steps) :
    value bound (writtenObject written ++ rest) = (readObject written, rest) := by
  rcases bound with _ | bound
  · cases enough
  · cases written with
    | nil => rfl
    | cons first others =>
        have read := members_writtenMembers (Nat.lt_of_succ_lt_succ enough) rest spelled
        have opened : exists inner,
            writtenMembers (first :: others) ++ rest = '\x22' :: inner := by
          cases others <;> exact ⟨_, rfl⟩
        rcases opened with ⟨inner, opened⟩
        rw [opened] at read
        rw [writtenObject, List.cons_append, opened, value]
        change (match members bound ('\x22' :: inner) with
          | (read, ending, left) => (Tree.object read ending, left)) = _
        rw [read]
        rfl

theorem spells_writtenObject {steps : Nat} {written : List Member}
    (spelled : forall member, member ∈ written -> member.IsSpelled steps) :
    Spells (steps + written.length + 1) (writtenObject written) (readObject written) where
  line := by simp [writtenObject, newline_not_mem_writtenMembers spelled]
  read := fun _ rest enough _ => value_writtenObject enough rest spelled

theorem length_le_writtenMembers (written : List Member) :
    written.length ≤ (writtenMembers written).length := by
  induction written with
  | nil => exact Nat.zero_le _
  | cons first others ih =>
      cases others with
      | nil => simp [writtenMembers]
      | cons second others =>
          simp only [writtenMembers, List.length_append, List.length_cons] at ih ⊢
          omega

/-- A text that is nothing but a written object. -/
theorem parse_writtenObject {steps : Nat} {written : List Member}
    (short : steps ≤ written.length)
    (spelled : forall member, member ∈ written -> member.IsSpelled steps) :
    parse (writtenObject written) = ⟨readObject written, true⟩ := by
  have longer := length_le_writtenMembers written
  have length : (writtenObject written).length = (writtenMembers written).length + 1 := rfl
  have enough : steps + written.length + 1 < 2 * (writtenObject written).length + 2 := by omega
  have read := value_writtenObject enough [] spelled
  rw [List.append_nil] at read
  rw [parse, read]
  rfl

/-! ## Records -/

section Records

variable {Record Result : Type} {shape : Shape Tree Failure Record Result}

/-- A member that names a field is stored there. -/
theorem readMembers_cons {name : String} {required : Bool} {Inner : Type}
    {read : Tree -> Except Failure Inner} {place : Inner -> Record -> Record} {tree : Tree}
    {inner : Inner} {record : Record} {given : List String} {draft : Draft Record}
    {members : List (Option String × Tree)}
    (named : shape.named? name = some ⟨name, required, storing read place⟩)
    (fresh : name ∉ given) (found : read tree = .ok inner)
    (later : readMembers shape members ⟨place inner record, name :: given⟩ = .ok draft) :
    readMembers shape ((some name, tree) :: members) ⟨record, given⟩ = .ok draft := by
  have absent : given.contains name = false := by
    rw [Bool.eq_false_iff]
    exact fun present => fresh (List.contains_iff_mem.mp present)
  have stored : storing read place tree record = .ok (place inner record) := by
    rw [storing, found]
  simp only [readMembers, readMember, named, absent, Bool.false_eq_true, if_false, stored, later]

/-- An object whose members fill all fields is read as the record that they fill. -/
theorem readRecord_of_readMembers {members : List (Option String × Tree)} {draft : Draft Record}
    {result : Result} (read : readMembers shape members ⟨shape.initial, []⟩ = .ok draft)
    (complete : shape.missing? draft.given = none)
    (finished : shape.finish draft.record = .ok result) :
    (dialect .text).record shape (.object members .closed) = .ok result := by
  change readRecord .text shape (.object members .closed) = .ok result
  simp only [readRecord, Origin.members, read, reduceCtorEq, if_false, complete, finish, finished]

end Records

@[simp] theorem word_natural (expected : String) (word : UInt64) :
    (dialect .text).word expected (.number (.natural word.toNat)) = .ok word := by
  have read : (dialect .text).unsigned expected UInt64.size (.number (.natural word.toNat)) =
      .ok ⟨word.toNat, word.toNat_lt_size⟩ := dif_pos word.toNat_lt_size
  rw [Dialect.word, read]
  rfl

@[simp] theorem count_natural (count : UInt32) :
    (dialect .text).count (.number (.natural count.toNat)) = .ok count := by
  have read : (dialect .text).unsigned "u32" UInt32.size (.number (.natural count.toNat)) =
      .ok ⟨count.toNat, count.toNat_lt_size⟩ := dif_pos count.toNat_lt_size
  rw [Dialect.count, read]
  rfl

end Json

open Json

namespace Duration

def parts (duration : Duration) : List Member :=
  [⟨"secs", (toString duration.secs.toNat).toList, .number (.natural duration.secs.toNat)⟩,
    ⟨"nanos", (toString duration.nanos.toNat).toList, .number (.natural duration.nanos.toNat)⟩]

@[simp] theorem toList_json (duration : Duration) :
    duration.json.toList = writtenObject duration.parts := by
  simp [json, parts, writtenObject, writtenMembers, Member.written]

/-- Nanoseconds below a second carry nothing. -/
@[simp] theorem ofParts?_self (duration : Duration) :
    ofParts? duration.secs duration.nanos = some duration := by
  rcases duration with ⟨secs, nanos, small⟩
  have whole : nanos.toNat / nanosPerSecond = 0 := Nat.div_eq_of_lt small
  have part : nanos.toNat % nanosPerSecond = nanos.toNat := Nat.mod_eq_of_lt small
  have carried : Word.add? secs (UInt64.ofNat (nanos.toNat / nanosPerSecond)) = some secs := by
    rw [whole]
    simp [Word.add?, secs.toNat_lt_size]
  simp [ofParts?, carried, part]

@[simp] theorem decode_readObject (duration : Duration) :
    Duration.decode (dialect .text) (readObject duration.parts) = .ok duration := by
  have read : readMembers (shape (dialect .text)) (duration.parts.map Member.read)
      ⟨⟨0, 0⟩, []⟩ = .ok ⟨⟨duration.secs, duration.nanos⟩, ["nanos", "secs"]⟩ :=
    readMembers_cons rfl (by simp) (word_natural "u64" duration.secs)
      (readMembers_cons rfl (by simp) (count_natural duration.nanos) rfl)
  refine readRecord_of_readMembers read rfl ?_
  simp [shape]

theorem parts_areSpelled (duration : Duration) (member : Member)
    (listed : member ∈ duration.parts) : member.IsSpelled 0 := by
  have secs := spells_word duration.secs
  have nanos := spells_count duration.nanos
  simp only [parts, List.mem_cons, List.not_mem_nil, or_false] at listed
  rcases listed with rfl | rfl
  · exact Member.isSpelled "secs" (by decide) secs (by decide) rfl
  · exact Member.isSpelled "nanos" (by decide) nanos (by decide) rfl

end Duration

namespace Report

def parts (report : Report) : List Member :=
  [⟨"mode", '\x22' :: report.mode.name.toList ++ ['\x22'], .text report.mode.name⟩,
    ⟨"parallel", (if report.parallel then "true" else "false").toList, .boolean report.parallel⟩,
    ⟨"buffer_len", (toString report.bufferLength.toNat).toList,
      .number (.natural report.bufferLength.toNat)⟩,
    ⟨"iterations", (toString report.iterations.toNat).toList,
      .number (.natural report.iterations.toNat)⟩,
    ⟨"total", writtenObject report.total.parts, readObject report.total.parts⟩,
    ⟨"whitespace", (toString report.whitespace.toNat).toList,
      .number (.natural report.whitespace.toNat)⟩]

@[simp] theorem toList_json (report : Report) :
    report.json.toList = writtenObject report.parts := by
  delta json
  simp only [String.toList_append, Duration.toList_json]
  simp [parts, writtenObject, writtenMembers, Member.written]

theorem parts_areSpelled (report : Report) (member : Member) (listed : member ∈ report.parts) :
    member.IsSpelled 3 := by
  have plain : report.mode.name.toList.all isOrdinary = true := by cases report.mode <;> decide
  have mode := spells_text plain
  have parallel := spells_flag report.parallel
  have length := spells_word report.bufferLength
  have iterations := spells_count report.iterations
  have total := spells_writtenObject report.total.parts_areSpelled
  have whitespace := spells_word report.whitespace
  simp only [parts, List.mem_cons, List.not_mem_nil, or_false] at listed
  rcases listed with rfl | rfl | rfl | rfl | rfl | rfl
  · exact Member.isSpelled "mode" (by decide) mode (by decide) rfl
  · exact Member.isSpelled "parallel" (by decide) parallel (by decide) rfl
  · exact Member.isSpelled "buffer_len" (by decide) length (by decide) rfl
  · exact Member.isSpelled "iterations" (by decide) iterations (by decide) rfl
  · exact Member.isSpelled "total" (by decide) total (Nat.le_refl 3) rfl
  · exact Member.isSpelled "whitespace" (by decide) whitespace (by decide) rfl

@[simp] theorem decode_readObject (report : Report) :
    Report.decode (dialect .text) (readObject report.parts) = .ok report := by
  have mode : ScanMode.decode (dialect .text) (.text report.mode.name) = .ok report.mode := by
    cases report.mode <;> rfl
  have read : readMembers (shape (dialect .text)) (report.parts.map Member.read) ⟨blank, []⟩ =
      .ok ⟨report, ["whitespace", "total", "iterations", "buffer_len", "parallel", "mode"]⟩ :=
    readMembers_cons rfl (by simp) mode <|
    readMembers_cons rfl (by simp) rfl <|
    readMembers_cons rfl (by simp) (word_natural "usize" report.bufferLength) <|
    readMembers_cons rfl (by simp) (count_natural report.iterations) <|
    readMembers_cons rfl (by simp) (Duration.decode_readObject report.total) <|
    readMembers_cons rfl (by simp) (word_natural "usize" report.whitespace) rfl
  exact readRecord_of_readMembers read rfl rfl

/-- A written report stands on one line. -/
theorem newline_not_mem_json (report : Report) : '\n' ∉ report.json.toList := by
  simpa using (spells_writtenObject report.parts_areSpelled).line

/-- A written report is read back as the same report. -/
@[simp] theorem ofJson_json (report : Report) : ofJson report.json = .ok report := by
  have parsed := parse_writtenObject (by decide : 3 ≤ 6) report.parts_areSpelled
  simp [ofJson, Json.decode, parsed]

end Report

end WhitespaceBench
