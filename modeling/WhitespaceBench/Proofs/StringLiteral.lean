import Mathlib
import WhitespaceBench.Toml.Statement
import WhitespaceBench.Toml.Writer

namespace WhitespaceBench

/-!
# Written strings are read back

A string is written in one of several forms, and its content decides which.  Whatever
the form, reading what was written gives the content back and leaves the text behind the
closing quotes.  Each way in which a reader takes a step is stated as one rule, and the
writer is then followed character by character.

On several lines the reader takes all quotes of a row at once, whereas the writer counts
them one by one.  The two meet in the number of quotes that were written last and are
not read yet: it is at most two, since a third one in a row is escaped, or is excluded by
the choice of the form.
-/

namespace Text
namespace Hex

theorem value?_toUpper_digit :
    forall number, number < 16 -> value? (digit number).toUpper = some number := by
  decide

/-- Capital digits are read as the number that they were written for, as far as so many
digits reach. -/
@[simp] theorem number?_toUpper_digits (width number : Nat) :
    number? ((digits width number).map Char.toUpper) = some (number % 16 ^ width) := by
  induction width generalizing number with
  | zero => simp [digits, number?, Nat.mod_one]
  | succ width ih =>
      have last := value?_toUpper_digit (number % 16) (Nat.mod_lt _ (by decide))
      have front := ih (number / 16)
      unfold number? at front ⊢
      rw [digits, List.map_append, List.foldlM_append, front]
      simp only [List.map_cons, List.map_nil, List.foldlM_cons, List.foldlM_nil, last]
      change some (number / 16 % 16 ^ width * 16 + number % 16) = _
      rw [Nat.pow_succ, Nat.mul_comm (16 ^ width), Nat.mod_mul]
      congr 1
      omega

@[simp] theorem length_digits (width number : Nat) : (digits width number).length = width := by
  induction width generalizing number with
  | zero => rfl
  | succ width ih => simp [digits, ih]

end Hex
end Text

namespace Toml

/-- Characters differ where a test tells them apart. -/
theorem ne_of_holds {holds : Char -> Bool} {character other : Char}
    (first : holds character = true) (second : holds other = false) : character ≠ other := by
  intro same
  rw [same, second] at first
  cases first

/-! ## Escapes -/

/-- What stands behind a backslash is read as one character, and does not join lines. -/
def Escapes (tail : List Char) (character : Char) : Prop :=
  forall rest, escape? (tail ++ rest) = some (character, rest) ∧ joinedLine? (tail ++ rest) = none

theorem lineBreak?_of_ne {character : Char} (rest : List Char) (notNewline : character ≠ '\n')
    (notReturn : character ≠ '\r') : lineBreak? (character :: rest) = none := by
  unfold lineBreak?
  split
  · rename_i equal
    exact absurd (List.cons.inj equal).1 notNewline
  · rename_i equal
    exact absurd (List.cons.inj equal).1 notReturn
  · rfl

theorem joinedLine?_of_ne {character : Char} (rest : List Char) (solid : isBlank character = false)
    (notNewline : character ≠ '\n') (notReturn : character ≠ '\r') :
    joinedLine? (character :: rest) = none := by
  unfold joinedLine? skipBlanks
  rw [List.dropWhile_cons, solid, if_neg Bool.false_ne_true,
    lineBreak?_of_ne rest notNewline notReturn]

@[simp] theorem codePoint?_toNat (character : Char) :
    codePoint? character.toNat = some character := by
  unfold codePoint?
  have valid : character.toNat.isValidChar := character.valid
  have whole := Char.ofNat_toNat character
  rw [Char.ofNat, dif_pos valid] at whole
  rw [dif_pos valid, whole]

/-- An escape by a single letter. -/
theorem escapes_letter {letter character : Char}
    (known : forall rest, escape? (letter :: rest) = some (character, rest))
    (solid : isBlank letter = false ∧ letter ≠ '\n' ∧ letter ≠ '\r') :
    Escapes [letter] character :=
  fun rest => ⟨known rest, joinedLine?_of_ne rest solid.1 solid.2.1 solid.2.2⟩

/-- The general escape of a character in the basic plane. -/
theorem escapes_code (character : Char) (small : character.toNat < 16 ^ 4) :
    Escapes ('u' :: (Text.Hex.digits 4 character.toNat).map Char.toUpper) character := by
  intro rest
  refine ⟨?_, joinedLine?_of_ne _ (by decide) (by decide) (by decide)⟩
  have width : ((Text.Hex.digits 4 character.toNat).map Char.toUpper).length = 4 := by
    simp
  change hexEscape? 4 ((Text.Hex.digits 4 character.toNat).map Char.toUpper ++ rest) = _
  unfold hexEscape?
  rw [List.take_left' width, List.drop_left' width, if_pos width]
  simp only [Text.Hex.number?_toUpper_digits, Nat.mod_eq_of_lt small, codePoint?_toNat]

/-- How a character is written between double quotes: behind a backslash; or as itself
if it is a line break or one of the first two quotes in a row, both on several lines
only; or as itself because nothing about it is special. -/
theorem escapedCharacter_cases (multiline : Bool) (run : Nat) (character : Char) :
    (exists tail, escapedCharacter multiline run character = '\\' :: tail ∧
      Escapes tail character) ∨
    (escapedCharacter multiline run character = [character] ∧
      ((multiline = true ∧ character = '\n') ∨
        (multiline = true ∧ run < 2 ∧ character = '\x22') ∨
        (isPlain character = true ∧ character ≠ '\x22' ∧ character ≠ '\\'))) := by
  unfold escapedCharacter
  -- The cases follow the order in which the writer tests the character.
  by_cases backspace : character = '\x08'
  · rw [if_pos backspace, backspace]
    exact Or.inl ⟨_, rfl, escapes_letter (fun _ => rfl) (by decide)⟩
  rw [if_neg backspace]
  by_cases tab : character = '\t'
  · rw [if_pos tab, tab]
    exact Or.inl ⟨_, rfl, escapes_letter (fun _ => rfl) (by decide)⟩
  rw [if_neg tab]
  by_cases newline : character = '\n'
  · rw [if_pos newline, newline]
    cases multiline with
    | true => exact Or.inr ⟨rfl, Or.inl ⟨rfl, rfl⟩⟩
    | false =>
        exact Or.inl ⟨_, rfl, escapes_letter (fun _ => rfl) (by decide)⟩
  rw [if_neg newline]
  by_cases feed : character = '\x0c'
  · rw [if_pos feed, feed]
    exact Or.inl ⟨_, rfl, escapes_letter (fun _ => rfl) (by decide)⟩
  rw [if_neg feed]
  by_cases carriage : character = '\r'
  · rw [if_pos carriage, carriage]
    exact Or.inl ⟨_, rfl, escapes_letter (fun _ => rfl) (by decide)⟩
  rw [if_neg carriage]
  by_cases quoted : character = '\x22'
  · rw [if_pos quoted, quoted]
    by_cases early : multiline = true ∧ run < 2
    · rw [if_pos early]
      exact Or.inr ⟨rfl, Or.inr (Or.inl ⟨early.1, early.2, rfl⟩)⟩
    · rw [if_neg early]
      exact Or.inl ⟨_, rfl, escapes_letter (fun _ => rfl) (by decide)⟩
  rw [if_neg quoted]
  by_cases backslash : character = '\\'
  · rw [if_pos backslash, backslash]
    exact Or.inl ⟨_, rfl, escapes_letter (fun _ => rfl) (by decide)⟩
  rw [if_neg backslash]
  by_cases control : character.toNat < 0x20 ∨ character.toNat = 0x7F
  · rw [if_pos control]
    exact Or.inl ⟨_, rfl, escapes_code character (by omega)⟩
  · rw [if_neg control]
    refine Or.inr ⟨rfl, Or.inr (Or.inr ⟨?_, quoted, backslash⟩)⟩
    rw [not_or, Nat.not_lt] at control
    simp only [isPlain, control.1, decide_true, bne_iff_ne.mpr control.2, Bool.and_self,
      Bool.or_true]

/-! ## Strings on one line -/

/-- Reading on one line gives a content and leaves a rest, whatever list bounds the
number of steps. -/
def ReadsLine (quote : Quote) (text content rest : List Char) : Prop :=
  forall steps : List Char, text.length ≤ steps.length ->
    singleLineWithin quote steps text = some (content, rest)

namespace ReadsLine

theorem close (quote : Quote) (rest : List Char) :
    ReadsLine quote (quote.character :: rest) [] rest := by
  intro steps enough
  cases steps with
  | nil => cases enough
  | cons step steps => simp only [singleLineWithin, if_true]

theorem plain {quote : Quote} {character : Char} {text content rest : List Char}
    (notQuote : character ≠ quote.character)
    (notEscape : Not (quote = .double ∧ character = '\\')) (isPlain : isPlain character = true)
    (later : ReadsLine quote text content rest) :
    ReadsLine quote (character :: text) (character :: content) rest := by
  intro steps enough
  cases steps with
  | nil => cases enough
  | cons step steps =>
      rw [singleLineWithin, if_neg notQuote, if_neg notEscape, if_pos isPlain,
        later steps (Nat.le_of_succ_le_succ enough)]
      rfl

theorem escape {character : Char} {tail text content rest : List Char}
    (escapes : Escapes tail character) (later : ReadsLine .double text content rest) :
    ReadsLine .double ('\\' :: (tail ++ text)) (character :: content) rest := by
  intro steps enough
  cases steps with
  | nil => cases enough
  | cons step steps =>
      have shorter : text.length ≤ steps.length := by
        rw [List.length_cons, List.length_cons, List.length_append] at enough
        omega
      rw [singleLineWithin, if_neg (by decide), if_pos ⟨rfl, rfl⟩]
      simp only [(escapes text).1, later steps shorter]
      rfl

end ReadsLine

/-- What is written between double quotes on one line is read back. -/
theorem readsLine_escapedContent (content : List Char) (run : Nat) (rest : List Char) :
    ReadsLine .double (escapedContent false run content ++ '\x22' :: rest) content rest := by
  induction content generalizing run with
  | nil => exact ReadsLine.close .double rest
  | cons character content ih =>
      have later := ih (nextRun false run character)
      rw [escapedContent, List.append_assoc]
      rcases escapedCharacter_cases false run character with
        ⟨tail, written, escapes⟩ | ⟨written, special | special | ⟨plain, notQuote, notEscape⟩⟩
      · rw [written]
        exact ReadsLine.escape escapes later
      · exact absurd special.1 Bool.false_ne_true
      · exact absurd special.1 Bool.false_ne_true
      · rw [written]
        exact ReadsLine.plain notQuote (fun both => notEscape both.2) plain later

/-- What stands between single quotes on one line is read as it stands. -/
theorem readsLine_content (content rest : List Char)
    (plain : forall character, character ∈ content ->
      isPlain character = true ∧ character ≠ '\x27') :
    ReadsLine .single (content ++ '\x27' :: rest) content rest := by
  induction content with
  | nil => exact ReadsLine.close .single rest
  | cons character content ih =>
      have first := plain character List.mem_cons_self
      have later := ih fun other member => plain other (List.mem_cons_of_mem _ member)
      exact ReadsLine.plain first.2 (fun both => Quote.noConfusion both.1) first.1 later

/-! ## Strings on several lines -/

/-- Reading on several lines gives a content and leaves a rest, whatever list bounds the
number of steps. -/
def ReadsLines (quote : Quote) (text content rest : List Char) : Prop :=
  forall steps : List Char, text.length ≤ steps.length ->
    multiLineWithin quote steps text = some (content, rest)

theorem head?_cons_ne {character other : Char} (differ : character ≠ other) (text : List Char) :
    (character :: text).head? ≠ some other :=
  fun same => differ (Option.some.inj same)

/-- Quotes in a row are taken together. -/
theorem takeWhile_quotes (quote : Quote) (run : Nat) {text : List Char}
    (ends : text.head? ≠ some quote.character) :
    (List.replicate run quote.character ++ text).takeWhile (· == quote.character) =
      List.replicate run quote.character := by
  rw [List.takeWhile_append_of_pos (by
    intro character member
    rw [List.eq_of_mem_replicate member]
    exact beq_self_eq_true _)]
  cases text with
  | nil => exact List.append_nil _
  | cons character text =>
      have differs : (character == quote.character) = false :=
        beq_eq_false_iff_ne.mpr fun same => ends (congrArg some same)
      rw [List.takeWhile_cons, differs]
      exact List.append_nil _

/-- The reader in front of a row of quotes. -/
theorem multiLineWithin_quotes (quote : Quote) (run : Nat) {text : List Char}
    (ends : text.head? ≠ some quote.character) (step : Char) (steps : List Char) :
    multiLineWithin quote (step :: steps) (List.replicate (run + 1) quote.character ++ text) =
      if run + 1 < 3 then
        prepend (List.replicate (run + 1) quote.character) (multiLineWithin quote steps text)
      else
        some (List.replicate (min (run - 2) 2) quote.character,
          (List.replicate run quote.character ++ text).drop (min (run + 1) 5 - 1)) := by
  rw [List.replicate_succ, List.cons_append, multiLineWithin, if_pos rfl]
  simp only [takeWhile_quotes quote run ends, List.length_replicate, Nat.add_sub_cancel,
    List.drop_left' List.length_replicate, List.replicate_succ]
  rfl

namespace ReadsLines

/-- Three quotes close the string, and up to two in front of them are content. -/
theorem close (quote : Quote) (run : Nat) (few : run ≤ 2) {rest : List Char}
    (ends : rest.head? ≠ some quote.character) :
    ReadsLines quote (List.replicate (run + 3) quote.character ++ rest)
      (List.replicate run quote.character) rest := by
  intro steps enough
  cases steps with
  | nil =>
      rw [List.length_append, List.length_replicate, List.length_nil] at enough
      omega
  | cons step steps =>
      rw [multiLineWithin_quotes quote (run + 2) ends, if_neg (by omega),
        Nat.add_sub_cancel, Nat.min_eq_left few]
      have all : min (run + 2 + 1) 5 - 1 = run + 2 := by omega
      rw [all, List.drop_left' List.length_replicate]

/-- Fewer than three quotes in a row are content. -/
theorem quotes {quote : Quote} {text content rest : List Char} (run : Nat) (few : run ≤ 2)
    (ends : text.head? ≠ some quote.character) (later : ReadsLines quote text content rest) :
    ReadsLines quote (List.replicate run quote.character ++ text)
      (List.replicate run quote.character ++ content) rest := by
  intro steps enough
  cases run with
  | zero => exact later steps enough
  | succ run =>
      rw [List.length_append, List.length_replicate] at enough
      cases steps with
      | nil =>
          rw [List.length_nil] at enough
          omega
      | cons step steps =>
          rw [List.length_cons] at enough
          rw [multiLineWithin_quotes quote run ends, if_pos (by omega),
            later steps (by omega)]
          rfl

theorem newline {quote : Quote} {text content rest : List Char}
    (later : ReadsLines quote text content rest) :
    ReadsLines quote ('\n' :: text) ('\n' :: content) rest := by
  intro steps enough
  cases steps with
  | nil => cases enough
  | cons step steps =>
      have notQuote : '\n' ≠ quote.character := by cases quote <;> decide
      have notEscape : Not (quote = .double ∧ '\n' = '\\') := fun both => absurd both.2 (by decide)
      rw [multiLineWithin, if_neg notQuote, if_neg notEscape]
      simp only [lineBreak?, later steps (Nat.le_of_succ_le_succ enough)]
      rfl

theorem plain {quote : Quote} {character : Char} {text content rest : List Char}
    (notQuote : character ≠ quote.character)
    (notEscape : Not (quote = .double ∧ character = '\\')) (isPlain : isPlain character = true)
    (later : ReadsLines quote text content rest) :
    ReadsLines quote (character :: text) (character :: content) rest := by
  intro steps enough
  cases steps with
  | nil => cases enough
  | cons step steps =>
      have notNewline : character ≠ '\n' := ne_of_holds isPlain rfl
      have notReturn : character ≠ '\r' := ne_of_holds isPlain rfl
      rw [multiLineWithin, if_neg notQuote, if_neg notEscape]
      simp only [lineBreak?_of_ne text notNewline notReturn, isPlain, if_true,
        later steps (Nat.le_of_succ_le_succ enough)]
      rfl

theorem escape {character : Char} {tail text content rest : List Char}
    (escapes : Escapes tail character) (later : ReadsLines .double text content rest) :
    ReadsLines .double ('\\' :: (tail ++ text)) (character :: content) rest := by
  intro steps enough
  cases steps with
  | nil => cases enough
  | cons step steps =>
      have shorter : text.length ≤ steps.length := by
        rw [List.length_cons, List.length_cons, List.length_append] at enough
        omega
      rw [multiLineWithin, if_neg (by decide), if_pos ⟨rfl, rfl⟩]
      simp only [(escapes text).1, (escapes text).2, later steps shorter]
      rfl

end ReadsLines

/-- Quotes that were counted already stand in front of one more. -/
theorem replicate_append_cons (run : Nat) (character : Char) (rest : List Char) :
    List.replicate run character ++ character :: rest =
      List.replicate (run + 1) character ++ rest := by
  rw [List.replicate_succ', List.append_assoc, List.singleton_append]

theorem nextRun_of_ne (multiline : Bool) (run : Nat) {character : Char}
    (notQuote : character ≠ '\x22') : nextRun multiline run character = 0 :=
  if_neg fun counted => notQuote counted.1

/-- An escaped quote starts a new row, and so does anything else that is escaped. -/
theorem nextRun_of_escaped {multiline : Bool} {run : Nat} {character : Char} {tail : List Char}
    (written : escapedCharacter multiline run character = '\\' :: tail) :
    nextRun multiline run character = 0 := by
  apply if_neg
  rintro ⟨quoted, early⟩
  subst quoted
  have unescaped : escapedCharacter multiline run '\x22' = ['\x22'] := if_pos early
  rw [unescaped] at written
  exact absurd (List.cons.inj written).1 (by decide)

/-- What is written between double quotes on several lines is read back.  The induction
follows the writer; `run` is the number of quotes that it wrote last, which the reader
has not taken yet. -/
theorem readsLines_escapedContent (content : List Char) (run : Nat) (few : run ≤ 2)
    {rest : List Char} (ends : rest.head? ≠ some '\x22') :
    ReadsLines .double (List.replicate run '\x22' ++ (escapedContent true run content ++
      (List.replicate 3 '\x22' ++ rest))) (List.replicate run '\x22' ++ content) rest := by
  induction content generalizing run with
  | nil =>
      -- The quotes that were written last run into the closing ones.
      have closed := ReadsLines.close .double run few ends
      rw [escapedContent, List.nil_append, List.append_nil, ← List.append_assoc,
        List.replicate_append_replicate]
      exact closed
  | cons character content ih =>
      rw [escapedContent, List.append_assoc]
      rcases escapedCharacter_cases true run character with
        ⟨tail, written, escapes⟩ |
        ⟨written, ⟨_, newline⟩ | ⟨_, early, quoted⟩ | ⟨plain, notQuote, notEscape⟩⟩
      · have later := ih 0 (Nat.zero_le 2)
        rw [nextRun_of_escaped written, written, List.cons_append]
        exact ReadsLines.quotes run few (head?_cons_ne (by decide) _) (ReadsLines.escape escapes later)
      · subst newline
        have later := ih 0 (Nat.zero_le 2)
        rw [nextRun_of_ne true run (by decide), written, List.singleton_append]
        exact ReadsLines.quotes run few (head?_cons_ne (by decide) _) (ReadsLines.newline later)
      · -- The reader does not move: it takes this quote together with the next ones.
        subst quoted
        have next : nextRun true run '\x22' = run + 1 := if_pos ⟨rfl, rfl, early⟩
        rw [next, written, List.singleton_append, replicate_append_cons, replicate_append_cons]
        exact ih (run + 1) early
      · have later := ih 0 (Nat.zero_le 2)
        rw [nextRun_of_ne true run notQuote, written, List.singleton_append]
        exact ReadsLines.quotes run few (head?_cons_ne notQuote _)
          (ReadsLines.plain notQuote (fun both => notEscape both.2) plain later)

/-- What stands between single quotes on several lines is read as it stands. -/
theorem readsLines_content (content : List Char) (run : Nat)
    (plain : forall character, character ∈ content ->
      isPlain character = true ∨ character = '\n')
    (fewInRow : hasRun '\x27' 3 run content = false)
    {rest : List Char} (ends : rest.head? ≠ some '\x27') :
    ReadsLines .single (List.replicate run '\x27' ++ (content ++
      (List.replicate 3 '\x27' ++ rest))) (List.replicate run '\x27' ++ content) rest := by
  induction content generalizing run with
  | nil =>
      have few : run ≤ 2 := by
        rw [hasRun, decide_eq_false_iff_not] at fewInRow
        omega
      have closed := ReadsLines.close .single run few ends
      rw [List.nil_append, List.append_nil, ← List.append_assoc, List.replicate_append_replicate]
      exact closed
  | cons character content ih =>
      rw [hasRun, Bool.or_eq_false_iff, decide_eq_false_iff_not] at fewInRow
      have few : run ≤ 2 := by omega
      have laterPlain := fun other member => plain other (List.mem_cons_of_mem _ member)
      rw [List.cons_append]
      by_cases quoted : character = '\x27'
      · rw [if_pos quoted] at fewInRow
        have later := ih (run + 1) laterPlain fewInRow.2
        subst quoted
        rw [replicate_append_cons, replicate_append_cons]
        exact later
      · rw [if_neg quoted] at fewInRow
        have later := ih 0 laterPlain fewInRow.2
        have read : ReadsLines .single (character :: (content ++ (List.replicate 3 '\x27' ++ rest)))
            (character :: content) rest := by
          rcases plain character List.mem_cons_self with plain | newline
          · exact ReadsLines.plain quoted (fun both => Quote.noConfusion both.1) plain later
          · rw [newline]
            exact ReadsLines.newline later
        exact ReadsLines.quotes run few (head?_cons_ne quoted _) read

/-! ## Rows of quotes -/

/-- At the start of a row, so many copies in a row are at most as many as the row has. -/
theorem replicate_prefix_iff {wanted other : Char} (differ : other ≠ wanted) (length run : Nat)
    (rest : List Char) :
    List.replicate length wanted <+: List.replicate run wanted ++ other :: rest <-> length ≤ run := by
  induction length generalizing run with
  | zero => exact ⟨fun _ => Nat.zero_le run, fun _ => List.nil_prefix⟩
  | succ length ih =>
      rw [List.replicate_succ]
      cases run with
      | zero =>
          rw [List.replicate_zero, List.nil_append, List.cons_prefix_cons]
          exact ⟨fun both => absurd both.1.symm differ, fun small => absurd small (by omega)⟩
      | succ run =>
          rw [List.replicate_succ, List.cons_append, List.cons_prefix_cons, ih run]
          exact ⟨fun both => Nat.succ_le_succ both.2, fun small => ⟨rfl, Nat.le_of_succ_le_succ small⟩⟩

/-- Copies in a row stand in the first row or behind its end. -/
theorem replicate_infix_iff {wanted other : Char} (differ : other ≠ wanted) (length run : Nat)
    (rest : List Char) :
    List.replicate length wanted <:+: List.replicate run wanted ++ other :: rest <->
      length ≤ run ∨ List.replicate length wanted <:+: rest := by
  induction run with
  | zero =>
      have start := replicate_prefix_iff differ length 0 rest
      rw [List.replicate_zero, List.nil_append] at start ⊢
      rw [List.infix_cons_iff, start]
  | succ run ih =>
      have start := replicate_prefix_iff differ length (run + 1) rest
      rw [List.replicate_succ, List.cons_append] at start ⊢
      rw [List.infix_cons_iff, start, ih, ← or_assoc]
      have absorbed : length ≤ run + 1 ∨ length ≤ run <-> length ≤ run + 1 := by omega
      rw [absorbed]

/-- The run that is counted stands in front of the content. -/
theorem hasRun_iff (wanted : Char) (length run : Nat) (content : List Char) :
    hasRun wanted length run content = true <->
      List.replicate length wanted <:+: List.replicate run wanted ++ content := by
  induction content generalizing run with
  | nil =>
      rw [hasRun, decide_eq_true_iff, List.append_nil, List.infix_replicate_iff,
        List.length_replicate]
      exact ⟨fun small => ⟨small, rfl⟩, And.left⟩
  | cons character content ih =>
      rw [hasRun, Bool.or_eq_true, decide_eq_true_iff]
      by_cases same : character = wanted
      · subst same
        rw [if_pos rfl, ih, replicate_append_cons]
        refine ⟨fun either => either.elim (fun small => ?_) id, Or.inr⟩
        have shorter : List.replicate length character <:+: List.replicate (run + 1) character := by
          rw [List.infix_replicate_iff, List.length_replicate]
          exact ⟨Nat.le_succ_of_le small, rfl⟩
        exact shorter.trans (List.prefix_append _ _).isInfix
      · rw [if_neg same, ih, replicate_infix_iff same]
        rfl

/-- The quotes of a string can be counted unless some quote occurs so often in a row that
the count needs a ninth bit. -/
theorem isCountable_iff (content : List Char) :
    isCountable content = true <->
      forall quote : Quote, Not (List.replicate (runLimit + 1) quote.character <:+: content) := by
  rw [isCountable, Bool.and_eq_true, Bool.not_eq_true', Bool.not_eq_true', Bool.eq_false_iff,
    Bool.eq_false_iff, ne_eq, ne_eq, hasRun_iff, hasRun_iff]
  constructor
  · rintro ⟨double, single⟩ quote
    cases quote with
    | double => exact double
    | single => exact single
  · exact fun none => ⟨none .double, none .single⟩

/-! ## The choice of the form -/

/-- A character that needs no escape is plain or a line break. -/
theorem isPlain_or_newline {character : Char} (noControl : isControl character = false) :
    isPlain character = true ∨ character = '\n' := by
  by_cases newline : character = '\n'
  · exact Or.inr newline
  · left
    by_cases tab : character = '\t'
    · rw [tab]
      rfl
    · simp only [isControl, bne_iff_ne.mpr newline, bne_iff_ne.mpr tab, Bool.and_true,
        Bool.or_eq_false_iff, decide_eq_false_iff_not, Nat.not_lt, beq_eq_false_iff_ne] at noControl
      simp only [isPlain, noControl.1, decide_true, bne_iff_ne.mpr noControl.2, Bool.and_self,
        Bool.or_true]

/-- Single quotes are chosen only where the content can be read as it stands. -/
theorem Form.ofContent_cases (content : List Char) :
    (Form.ofContent content).quote = .double ∨
    (Form.ofContent content = ⟨.single, false⟩ ∧ forall character, character ∈ content ->
      isPlain character = true ∧ character ≠ '\x27') ∨
    (Form.ofContent content = ⟨.single, true⟩ ∧
      (forall character, character ∈ content -> isPlain character = true ∨ character = '\n') ∧
      hasRun '\x27' 3 0 content = false) := by
  unfold Form.ofContent
  dsimp only
  split
  · exact Or.inl rfl
  split
  · rename_i fits
    simp only [Bool.and_eq_true, Bool.not_eq_true', List.any_eq_false, List.contains_eq_mem,
      decide_eq_false_iff_not] at fits
    refine Or.inr (Or.inl ⟨rfl, fun character member => ?_⟩)
    have noControl := Bool.eq_false_iff.mpr (fits.1.1 character member)
    refine ⟨(isPlain_or_newline noControl).resolve_right ?_, ?_⟩
    · rintro rfl
      exact fits.1.2 member
    · rintro rfl
      exact fits.2 member
  split
  · exact Or.inl rfl
  split
  · rename_i fits
    simp only [Bool.and_eq_true, Bool.not_eq_true', List.any_eq_false] at fits
    refine Or.inr (Or.inr ⟨rfl, fun character member => ?_, fits.2⟩)
    exact isPlain_or_newline (Bool.eq_false_iff.mpr (fits.1 character member))
  · exact Or.inl rfl

/-! ## From the first quote to the last -/

theorem lineBreak?_of_head {text : List Char} (notNewline : text.head? ≠ some '\n')
    (notReturn : text.head? ≠ some '\r') : lineBreak? text = none := by
  cases text with
  | nil => rfl
  | cons character text =>
      exact lineBreak?_of_ne text (fun same => notNewline (congrArg some same))
        (fun same => notReturn (congrArg some same))

theorem stringBody_of_readsLine {quote : Quote} {text content rest : List Char}
    (single : secondAndThird? quote text = none) (reads : ReadsLine quote text content rest) :
    stringBody quote text = some (content, rest) := by
  unfold stringBody
  rw [single]
  exact reads text (Nat.le_refl _)

/-- One line break behind the opening quotes is no content, and without one the content
must not start with one. -/
theorem stringBody_of_readsLines {quote : Quote} {opening text content rest : List Char}
    (opens : opening = ['\n'] ∨ (opening = [] ∧ lineBreak? text = none))
    (reads : ReadsLines quote text content rest) :
    stringBody quote (quote.character :: quote.character :: (opening ++ text)) =
      some (content, rest) := by
  have opened : secondAndThird? quote (quote.character :: quote.character :: (opening ++ text)) =
      some (opening ++ text) := if_pos ⟨rfl, rfl⟩
  unfold stringBody
  rw [opened]
  rcases opens with newline | ⟨nothing, sameLine⟩
  · subst newline
    exact reads text (Nat.le_refl _)
  · subst nothing
    rw [List.nil_append]
    simp only [sameLine]
    exact reads text (Nat.le_refl _)

theorem secondAndThird?_of_head {quote : Quote} {text : List Char}
    (other : text.head? ≠ some quote.character) : secondAndThird? quote text = none := by
  unfold secondAndThird?
  split
  · exact if_neg fun both => other (congrArg some both.1)
  · rfl

/-- Two quotes at the end of a line are an empty string, and open no string on several
lines. -/
theorem secondAndThird?_newline (quote : Quote) (rest : List Char) :
    secondAndThird? quote (quote.character :: '\n' :: rest) = none := by
  have differs : '\n' ≠ quote.character := by cases quote <;> decide
  exact if_neg fun both => differs both.2

/-- The first character between double quotes is never a carriage return, and on one line
never a quote. -/
theorem head?_escapedContent (multiline : Bool) (content rest : List Char) :
    (escapedContent multiline 0 content ++ '\x22' :: rest).head? ≠ some '\r' ∧
      (content ≠ [] -> multiline = false ->
        (escapedContent multiline 0 content ++ '\x22' :: rest).head? ≠ some '\x22') ∧
      ('\n' ∉ content ->
        (escapedContent multiline 0 content ++ '\x22' :: rest).head? ≠ some '\n') := by
  cases content with
  | nil =>
      exact ⟨head?_cons_ne (by decide) _, fun nonempty => absurd rfl nonempty,
        fun _ => head?_cons_ne (by decide) _⟩
  | cons character content =>
      rw [escapedContent, List.append_assoc]
      rcases escapedCharacter_cases multiline 0 character with
        ⟨tail, written, _⟩ |
        ⟨written, ⟨several, newline⟩ | ⟨several, _, quoted⟩ | ⟨plain, notQuote, _⟩⟩
      · rw [written, List.cons_append]
        exact ⟨head?_cons_ne (by decide) _, fun _ _ => head?_cons_ne (by decide) _,
          fun _ => head?_cons_ne (by decide) _⟩
      · rw [written, newline, List.singleton_append]
        exact ⟨head?_cons_ne (by decide) _, fun _ _ => head?_cons_ne (by decide) _,
          fun absent => absurd List.mem_cons_self absent⟩
      · rw [written, quoted, List.singleton_append]
        exact ⟨head?_cons_ne (by decide) _,
          fun _ oneLine => absurd (several.symm.trans oneLine) (by decide),
          fun _ => head?_cons_ne (by decide) _⟩
      · have notNewline : character ≠ '\n' := ne_of_holds plain rfl
        have notReturn : character ≠ '\r' := ne_of_holds plain rfl
        rw [written, List.singleton_append]
        exact ⟨head?_cons_ne notReturn _, fun _ _ => head?_cons_ne notQuote _,
          fun _ => head?_cons_ne notNewline _⟩

/-- Double quotes on one line. -/
theorem stringBody_doubleLine (content rest : List Char) :
    stringBody .double (escapedContent false 0 content ++ '\x22' :: '\n' :: rest) =
      some (content, '\n' :: rest) := by
  apply stringBody_of_readsLine
  · cases content with
    | nil => exact secondAndThird?_newline .double rest
    | cons character content =>
        exact secondAndThird?_of_head ((head?_escapedContent false _ _).2.1 (List.cons_ne_nil _ _) rfl)
  · exact readsLine_escapedContent content 0 _

/-- Single quotes on one line. -/
theorem stringBody_singleLine (content rest : List Char)
    (plain : forall character, character ∈ content ->
      isPlain character = true ∧ character ≠ '\x27') :
    stringBody .single (content ++ '\x27' :: '\n' :: rest) = some (content, '\n' :: rest) := by
  apply stringBody_of_readsLine
  · cases content with
    | nil => exact secondAndThird?_newline .single rest
    | cons character content =>
        exact secondAndThird?_of_head (head?_cons_ne (plain character List.mem_cons_self).2 _)
  · exact readsLine_content content _ plain

/-- What follows the opening quotes on several lines. -/
def opening (content : List Char) : List Char :=
  if content.contains '\n' then ['\n'] else []

theorem opening_cases (content : List Char) :
    opening content = ['\n'] ∨ (opening content = [] ∧ '\n' ∉ content) := by
  unfold opening
  split
  · exact Or.inl rfl
  · rename_i absent
    exact Or.inr ⟨rfl, fun member => absent (List.contains_iff_mem.mpr member)⟩

/-- Double quotes on several lines. -/
theorem stringBody_doubleLines (content rest : List Char) :
    stringBody .double ('\x22' :: '\x22' :: (opening content ++ (escapedContent true 0 content ++
      (List.replicate 3 '\x22' ++ '\n' :: rest)))) = some (content, '\n' :: rest) := by
  have reads := readsLines_escapedContent content 0 (Nat.zero_le 2)
    (head?_cons_ne (by decide : '\n' ≠ '\x22') rest)
  refine stringBody_of_readsLines ?_ reads
  rcases opening_cases content with opens | ⟨opens, absent⟩
  · exact Or.inl opens
  · have head := head?_escapedContent true content ('\x22' :: '\x22' :: '\n' :: rest)
    exact Or.inr ⟨opens, lineBreak?_of_head (head.2.2 absent) head.1⟩

/-- Single quotes on several lines. -/
theorem stringBody_singleLines (content rest : List Char)
    (plain : forall character, character ∈ content ->
      isPlain character = true ∨ character = '\n')
    (fewInRow : hasRun '\x27' 3 0 content = false) :
    stringBody .single ('\x27' :: '\x27' :: (opening content ++ (content ++
      (List.replicate 3 '\x27' ++ '\n' :: rest)))) = some (content, '\n' :: rest) := by
  have reads := readsLines_content content 0 plain fewInRow
    (head?_cons_ne (by decide : '\n' ≠ '\x27') rest)
  refine stringBody_of_readsLines ?_ reads
  rcases opening_cases content with opens | ⟨opens, absent⟩
  · exact Or.inl opens
  · refine Or.inr ⟨opens, ?_⟩
    cases content with
    | nil => exact lineBreak?_of_ne _ (by decide) (by decide)
    | cons character content =>
        have notNewline : character ≠ '\n' := by rintro rfl; exact absent List.mem_cons_self
        have first := (plain character List.mem_cons_self).resolve_right notNewline
        have notReturn : character ≠ '\r' := ne_of_holds first rfl
        exact lineBreak?_of_ne _ notNewline notReturn

/-- Whatever the form, what is written starts with a quote, and the text behind this
quote is read as the content. -/
theorem stringBody_writtenString (content rest : List Char) :
    exists quote text, writtenString content ++ '\n' :: rest = Quote.character quote :: text ∧
      stringBody quote text = some (content, '\n' :: rest) := by
  unfold writtenString
  rcases Form.ofContent_cases content with quoted | ⟨form, plain⟩ | ⟨form, plain, fewInRow⟩
  · rcases form : Form.ofContent content with ⟨quote, multiline⟩
    rw [form] at quoted
    subst quoted
    cases multiline with
    | false =>
        refine ⟨.double, _, ?_, stringBody_doubleLine content rest⟩
        simp only [Form.delimiter, Bool.false_and, Bool.false_eq_true, if_false, List.append_assoc,
          List.nil_append]
        rfl
    | true =>
        refine ⟨.double, _, ?_, stringBody_doubleLines content rest⟩
        simp only [Form.delimiter, Bool.true_and, if_true, List.append_assoc]
        rfl
  · refine ⟨.single, _, ?_, stringBody_singleLine content rest plain⟩
    simp only [form, Form.delimiter, Bool.false_and, Bool.false_eq_true, if_false,
      List.append_assoc, List.nil_append]
    rfl
  · refine ⟨.single, _, ?_, stringBody_singleLines content rest plain fewInRow⟩
    simp only [form, Form.delimiter, Bool.true_and, if_true, List.append_assoc]
    rfl

/-- A written string is read back as a value, up to the end of its line. -/
theorem scalarContent_writtenString (content rest : List Char) :
    scalarContent (writtenString content ++ '\n' :: rest) =
      some (.string (String.ofList content), '\n' :: rest) := by
  rcases stringBody_writtenString content rest with ⟨quote, text, written, read⟩
  rw [written]
  cases quote with
  | double => simp only [scalarContent, quote?, if_true, read]
  | single =>
      have differ : Quote.single.character ≠ Quote.double.character := by decide
      simp only [scalarContent, quote?, differ, if_false, if_true, read]

end Toml
end WhitespaceBench
