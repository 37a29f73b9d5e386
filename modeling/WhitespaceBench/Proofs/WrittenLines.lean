import Mathlib
import WhitespaceBench.Proofs.IntegerLiteral
import WhitespaceBench.Proofs.StringLiteral
import WhitespaceBench.Toml.Document

namespace WhitespaceBench
namespace Toml

/-!
# Written lines are read as statements

A table is written as a header and one assignment for each of its values, and is read as
just these statements.  What is read also remembers where in the text it stands; nothing
is said here about these places, so statements are described by what they say.

The reader is given a bound for the number of lines.  A reading is described without one:
every bound that is not below the length of the text gives the same statements.
-/

/-! ## Plain values -/

/-- The value that a plain value is read as. -/
def Plain.scalar : Plain -> Scalar
  | number size => .integer (Int64.ofInt size)
  | flag value => .boolean value
  | text content => .string content

theorem scalarContent_written (plain : Plain) (writable : plain.fault? = none)
    (rest : List Char) :
    scalarContent (plain.written ++ '\n' :: rest) = some (plain.scalar, '\n' :: rest) := by
  cases plain with
  | number size =>
      have small : size < 0x8000000000000000 := by
        by_cases small : size < 0x8000000000000000
        · exact small
        · rw [Plain.fault?, if_neg small] at writable
          cases writable
      exact scalarContent_toString size small rest
  | flag flag => cases flag <;> rfl
  | text content =>
      have read := scalarContent_writtenString content.toList rest
      rw [String.ofList_toList] at read
      exact read

/-- A text that starts with a scalar starts with no bracket and no brace. -/
theorem value_of_scalarContent {text behind : List Char} {scalar : Scalar}
    (read : scalarContent text = some (scalar, behind)) (depth : Nat) :
    value depth text = some (.scalar (some ⟨text, behind⟩) scalar, behind) := by
  have whole : scalarValue text = some (.scalar (some ⟨text, behind⟩) scalar, behind) := by
    rw [scalarValue, read]
  cases depth with
  | zero => exact whole
  | succ depth =>
      rw [value]
      · exact whole
      · rintro others rfl
        cases read
      · rintro others rfl
        cases read

/-! ## Keys -/

/-- A name that is written without quotes. -/
structure IsBareName (name : String) : Prop where
  nonempty : name.toList ≠ []
  bare : forall character, character ∈ name.toList -> isBare character = true

instance (name : String) : Decidable (IsBareName name) :=
  decidable_of_iff (name.toList ≠ [] ∧ name.toList.all isBare = true)
    ⟨fun both => ⟨both.1, List.all_eq_true.mp both.2⟩,
      fun isName => ⟨isName.nonempty, List.all_eq_true.mpr isName.bare⟩⟩

theorem IsBareName.starts {name : String} (isName : IsBareName name) :
    exists first others, name.toList = first :: others ∧ isBare first = true := by
  have bare := isName.bare
  cases characters : name.toList with
  | nil => exact absurd characters isName.nonempty
  | cons first others =>
      rw [characters] at bare
      exact ⟨first, others, rfl, bare first List.mem_cons_self⟩

theorem not_isBlank_of_isBare {character : Char} (bare : isBare character = true) :
    Not (isBlank character = true) := by
  intro blank
  rw [isBlank, Bool.or_eq_true, beq_iff_eq, beq_iff_eq] at blank
  rcases blank with space | tab
  · exact ne_of_holds bare rfl space
  · exact ne_of_holds bare rfl tab

theorem quote?_of_isBare {character : Char} (bare : isBare character = true) :
    quote? character = none := by
  have notDouble : character ≠ Quote.double.character := ne_of_holds bare rfl
  have notSingle : character ≠ Quote.single.character := ne_of_holds bare rfl
  rw [quote?, if_neg notDouble, if_neg notSingle]

theorem simpleKey_bare {name : String} (isName : IsBareName name) (stop : Char) (rest : List Char)
    (ends : isBare stop = false) :
    simpleKey (name.toList ++ stop :: rest) =
      some (⟨name, some ⟨name.toList ++ stop :: rest, stop :: rest⟩⟩, stop :: rest) := by
  have bare := isName.bare
  cases characters : name.toList with
  | nil => exact absurd characters isName.nonempty
  | cons first others =>
      rw [characters] at bare
      have later : forall other, other ∈ others -> isBare other = true :=
        fun other member => bare other (List.mem_cons_of_mem _ member)
      have taken : (others ++ stop :: rest).takeWhile isBare = others := by
        rw [List.takeWhile_append_of_pos later, List.takeWhile_cons, ends]
        exact List.append_nil _
      have dropped : (others ++ stop :: rest).dropWhile isBare = stop :: rest := by
        rw [List.dropWhile_append_of_pos later, List.dropWhile_cons, ends]
        rfl
      have whole : String.ofList (first :: others) = name := by
        rw [← characters, String.ofList_toList]
      have start := bare first List.mem_cons_self
      simp only [List.cons_append, simpleKey, quote?_of_isBare start, start, if_true, taken,
        dropped, whole]

/-- A bare name is a key of one part, and the blanks behind it are passed over. -/
theorem dottedKey_bare {name : String} (isName : IsBareName name) (stop : Char) (rest : List Char)
    (ends : isBare stop = false) (single : (skipBlanks (stop :: rest)).head? ≠ some '.') :
    exists key : Key, key.name = name ∧
      dottedKey depthLimit (name.toList ++ stop :: rest) =
        some ([], key, skipBlanks (stop :: rest)) := by
  refine ⟨⟨name, some ⟨name.toList ++ stop :: rest, stop :: rest⟩⟩, rfl, ?_⟩
  have atName : skipBlanks (name.toList ++ stop :: rest) = name.toList ++ stop :: rest := by
    rcases isName.starts with ⟨first, others, characters, bare⟩
    rw [characters]
    exact List.dropWhile_cons_of_neg (not_isBlank_of_isBare bare)
  rw [depthLimit, dottedKey, atName, simpleKey_bare isName stop rest ends]
  dsimp only
  split
  · rename_i others dotted
    rw [dotted] at single
    exact absurd rfl single
  · rfl

/-! ## Single statements -/

/-- What an assignment says: a name, without a path in front, and a plain value. -/
structure Assignment.Matches (assignment : Assignment) (line : String × Plain) : Prop where
  direct : assignment.path = []
  named : assignment.key.name = line.1
  valued : exists span, assignment.value = .scalar span line.2.scalar

/-- What a header says: that the table of a name is opened. -/
structure Header.Opens (header : Header) (name : String) : Prop where
  single : header.element = false
  direct : header.path = []
  named : header.key.name = name

/-- A line that can be written has a bare name and a value that can be written. -/
structure IsWritable (line : String × Plain) : Prop where
  name : IsBareName line.1
  value : line.2.fault? = none

theorem isWritable_number {name : String} {size : Nat} (isName : IsBareName name)
    (small : size < 0x8000000000000000) : IsWritable (name, .number size) :=
  ⟨isName, if_pos small⟩

theorem isWritable_flag {name : String} (isName : IsBareName name) (flag : Bool) :
    IsWritable (name, .flag flag) :=
  ⟨isName, rfl⟩

theorem isWritable_text {name content : String} (isName : IsBareName name)
    (countable : isCountable content.toList = true) : IsWritable (name, .text content) :=
  ⟨isName, if_pos countable⟩

theorem skipBlanks_of_scalarContent {text behind : List Char} {scalar : Scalar}
    (read : scalarContent text = some (scalar, behind)) : skipBlanks text = text := by
  cases text with
  | nil => rfl
  | cons first others =>
      apply List.dropWhile_cons_of_neg
      intro blank
      rw [isBlank, Bool.or_eq_true, beq_iff_eq, beq_iff_eq] at blank
      rcases blank with rfl | rfl <;> cases read

theorem assignment_writtenLine {line : String × Plain} (writable : IsWritable line)
    (rest : List Char) :
    exists assigned : Assignment, assigned.Matches line ∧
      assignment (value depthLimit) (Sheet.writtenLine line ++ rest) =
        some (assigned, '\n' :: rest) := by
  have content := scalarContent_written line.2 writable.value rest
  rcases dottedKey_bare writable.name ' ' ('=' :: ' ' :: (line.2.written ++ '\n' :: rest))
    (by decide) (head?_cons_ne (by decide) _) with ⟨key, named, keyed⟩
  have text : Sheet.writtenLine line ++ rest =
      line.1.toList ++ ' ' :: '=' :: ' ' :: (line.2.written ++ '\n' :: rest) := by
    simp only [Sheet.writtenLine, List.append_assoc, List.cons_append, List.nil_append]
  have atEquals : skipBlanks (' ' :: '=' :: ' ' :: (line.2.written ++ '\n' :: rest)) =
      '=' :: ' ' :: (line.2.written ++ '\n' :: rest) := rfl
  have behind : skipBlanks (' ' :: (line.2.written ++ '\n' :: rest)) =
      line.2.written ++ '\n' :: rest := skipBlanks_of_scalarContent content
  have assigned : assignment (value depthLimit) (Sheet.writtenLine line ++ rest) =
      some (⟨[], key, .scalar (some ⟨line.2.written ++ '\n' :: rest, '\n' :: rest⟩)
        line.2.scalar⟩, '\n' :: rest) := by
    rw [atEquals] at keyed
    simp only [text, assignment, keyed, behind, value_of_scalarContent content]
  exact ⟨_, ⟨rfl, named, _, rfl⟩, assigned⟩

theorem headerLine_written {name : String} (isName : IsBareName name) (rest : List Char) :
    exists header : Header, header.Opens name ∧
      headerLine ('[' :: (name.toList ++ ']' :: '\n' :: rest)) = some (header, '\n' :: rest) := by
  rcases dottedKey_bare isName ']' ('\n' :: rest) (by decide) (head?_cons_ne (by decide) _) with
    ⟨key, named, keyed⟩
  rcases isName.starts with ⟨first, others, characters, bare⟩
  refine ⟨⟨false, [], key, ⟨'[' :: (name.toList ++ ']' :: '\n' :: rest), '\n' :: rest⟩⟩,
    ⟨rfl, rfl, named⟩, ?_⟩
  rw [headerLine]
  · rw [keyed]
    rfl
  · intro others same
    rw [characters] at same
    exact ne_of_holds bare rfl (List.cons.inj same).1

/-! ## Whole texts -/

/-- A text is read as statements, whatever bounds the number of lines. -/
def Reads (text : List Char) (read : List Statement) : Prop :=
  forall bound, text.length ≤ bound -> statements bound text = some read

namespace Reads

theorem nil : Reads [] [] := by
  intro bound _
  cases bound <;> rfl

theorem blank {text : List Char} {read : List Statement} (later : Reads text read) :
    Reads ('\n' :: text) read := by
  intro bound enough
  cases bound with
  | zero => cases enough
  | succ bound => exact later bound (Nat.le_of_succ_le_succ enough)

/-- A line that says something starts with no blank, no comment and no line break. -/
theorem line {start : Char} {others rest : List Char} {first : Statement} {more : List Statement}
    (solid : isBlank start = false) (filled : isEmptyLine [start] = false)
    (said : statement (start :: others) = some (first, '\n' :: rest))
    (shorter : rest.length ≤ others.length) (later : Reads rest more) :
    Reads (start :: others) (first :: more) := by
  intro bound enough
  cases bound with
  | zero => cases enough
  | succ bound =>
      have atStart : skipBlanks (start :: others) = start :: others :=
        List.dropWhile_cons_of_neg (Bool.eq_false_iff.mp solid)
      have ended : lineEnd? ('\n' :: rest) = some rest := rfl
      have read := later bound (Nat.le_trans shorter (Nat.le_of_succ_le_succ enough))
      have filled : isEmptyLine (start :: others) = false := filled
      simp only [statements, atStart, List.isEmpty_cons, filled, Bool.false_eq_true, if_false, said,
        ended, read]

end Reads

theorem isEmptyLine_of_isBare {character : Char} (bare : isBare character = true) :
    isEmptyLine [character] = false := by
  simp only [isEmptyLine, Bool.or_eq_false_iff, beq_eq_false_iff_ne]
  exact ⟨⟨ne_of_holds bare rfl, ne_of_holds bare rfl⟩, ne_of_holds bare rfl⟩

/-- One written assignment in front of a text. -/
theorem reads_writtenLine {line : String × Plain} (writable : IsWritable line) {rest : List Char}
    {more : List Statement} (later : Reads rest more) :
    exists assigned : Assignment, assigned.Matches line ∧
      Reads (Sheet.writtenLine line ++ rest) (.assignment assigned :: more) := by
  rcases assignment_writtenLine writable rest with ⟨assigned, matched, read⟩
  rcases writable.name.starts with ⟨first, others, characters, bare⟩
  refine ⟨assigned, matched, ?_⟩
  have starts : Sheet.writtenLine line ++ rest =
      first :: (others ++ ([' ', '=', ' '] ++ (line.2.written ++ '\n' :: rest))) := by
    simp only [Sheet.writtenLine, characters, List.append_assoc, List.cons_append, List.nil_append]
  rw [starts] at read ⊢
  apply Reads.line (Bool.eq_false_iff.mpr (not_isBlank_of_isBare bare)) (isEmptyLine_of_isBare bare)
  · rw [statement, read]
    intro _ same
    exact ne_of_holds bare rfl (List.cons.inj same).1
  · simp only [List.length_append, List.length_cons]
    omega
  · exact later

/-- Written assignments in front of a text. -/
theorem reads_writtenLines {lines : List (String × Plain)}
    (writable : forall line, line ∈ lines -> IsWritable line) {rest : List Char}
    {more : List Statement} (later : Reads rest more) :
    exists assignments : List Assignment, List.Forall₂ Assignment.Matches assignments lines ∧
      Reads (lines.flatMap Sheet.writtenLine ++ rest) (assignments.map .assignment ++ more) := by
  induction lines with
  | nil => exact ⟨[], List.Forall₂.nil, later⟩
  | cons line lines ih =>
      rcases ih fun other member => writable other (List.mem_cons_of_mem _ member) with
        ⟨assignments, later, read⟩
      rcases reads_writtenLine (writable line List.mem_cons_self) read with ⟨assigned, first, whole⟩
      refine ⟨assigned :: assignments, List.Forall₂.cons first later, ?_⟩
      rw [List.flatMap_cons, List.append_assoc]
      exact whole

/-- A section says what a table holds. -/
structure Section.Matches (part : Section) (sheet : Sheet) : Prop where
  opens : part.header.Opens sheet.name
  assigns : List.Forall₂ Assignment.Matches part.assignments sheet.lines

/-- A table that can be written: it has a bare name, and so have its values, which are
different. -/
structure Sheet.IsWritable (sheet : Sheet) : Prop where
  name : IsBareName sheet.name
  lines : forall line, line ∈ sheet.lines -> Toml.IsWritable line
  distinct : (sheet.lines.map Prod.fst).Nodup

theorem Sheet.fault?_of_isWritable {sheet : Sheet} (writable : sheet.IsWritable) :
    sheet.fault? = none := by
  rw [Sheet.fault?, List.findSome?_eq_none_iff]
  exact fun line member => (writable.lines line member).value

/-- A written table in front of a text. -/
theorem reads_writtenSheet {sheet : Sheet} (writable : sheet.IsWritable) {rest : List Char}
    {more : List Statement} (later : Reads rest more) :
    exists part : Section, part.Matches sheet ∧
      Reads (sheet.written ++ rest)
        (.header part.header :: (part.assignments.map .assignment ++ more)) := by
  rcases reads_writtenLines writable.lines later with ⟨assignments, matched, read⟩
  rcases headerLine_written writable.name (sheet.lines.flatMap Sheet.writtenLine ++ rest) with
    ⟨header, opens, headed⟩
  refine ⟨⟨header, assignments⟩, ⟨opens, matched⟩, ?_⟩
  have starts : sheet.written ++ rest =
      '[' :: (sheet.name.toList ++ ']' :: '\n' ::
        (sheet.lines.flatMap Sheet.writtenLine ++ rest)) := by
    simp only [Sheet.written, List.append_assoc, List.cons_append, List.nil_append]
  rw [starts]
  apply Reads.line rfl rfl
  · rw [statement, headed]
  · simp only [List.length_append, List.length_cons]
    omega
  · exact read

end Toml
end WhitespaceBench
