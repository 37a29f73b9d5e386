import WhitespaceBench.Proofs.ReportRoundTrip

namespace WhitespaceBench
namespace Json

/-!
# Well-formed values are read to their end

A value of JSON may be spelled in many ways: with blanks between its tokens, with escapes in
its strings, with a fraction or an exponent.  The grammar is given here on its own, without
the reader, and the reader is shown to take off exactly the text of a value, whatever stands
behind it, as long as this cannot be taken for a part of a number.  Each step of the reader
takes a character or leads to one that does, so twice the length of a text bounds the steps.
-/

/-! ## String literals -/

/-- What stands between the quotes of a string literal, and its pieces. -/
inductive Quoted : List Char -> List Piece -> Prop where
  | nil : Quoted [] []
  | ordinary {character : Char} {body : List Char} {written : List Piece}
      (plain : isOrdinary character = true) (later : Quoted body written) :
      Quoted (character :: body) (.character character :: written)
  | short {letter character : Char} {body : List Char} {written : List Piece}
      (known : shortEscape? letter = some character) (later : Quoted body written) :
      Quoted ('\\' :: letter :: body) (.character character :: written)
  | unit {first second third fourth : Char} {code : Nat} {body : List Char} {written : List Piece}
      (number : Text.Hex.number? [first, second, third, fourth] = some code)
      (later : Quoted body written) :
      Quoted ('\\' :: 'u' :: first :: second :: third :: fourth :: body) (.unit code :: written)

/-- The text that pieces stand for.  Units that are halves of a character come in pairs. -/
inductive Denotes : List Piece -> List Char -> Prop where
  | nil : Denotes [] []
  | character {character : Char} {written : List Piece} {content : List Char}
      (later : Denotes written content) :
      Denotes (.character character :: written) (character :: content)
  | scalar {code : Nat} {written : List Piece} {content : List Char}
      (whole : code < 0xD800 ∨ 0xE000 ≤ code) (later : Denotes written content) :
      Denotes (.unit code :: written) (Char.ofNat code :: content)
  | pair {high low : Nat} {written : List Piece} {content : List Char}
      (highHalf : 0xD800 ≤ high ∧ high < 0xDC00) (lowHalf : 0xDC00 ≤ low ∧ low < 0xE000)
      (later : Denotes written content) :
      Denotes (.unit high :: .unit low :: written)
        (Char.ofNat (0x10000 + (high - 0xD800) * 0x400 + (low - 0xDC00)) :: content)

/-- What stands between the quotes of a string literal stands for a text. -/
def IsLiteral (body : List Char) (content : String) : Prop :=
  exists written, Quoted body written ∧ Denotes written content.toList

theorem quoted_ordinary {text : List Char} (plain : text.all isOrdinary = true) :
    Quoted text (text.map .character) := by
  induction text with
  | nil => exact .nil
  | cons character text ih =>
      rw [List.all_cons, Bool.and_eq_true] at plain
      exact .ordinary plain.1 (ih plain.2)

theorem denotes_characters (text : List Char) : Denotes (text.map .character) text := by
  induction text with
  | nil => exact .nil
  | cons character text ih => exact .character ih

/-- Ordinary characters stand for themselves. -/
theorem isLiteral_ordinary {content : String} (plain : content.toList.all isOrdinary = true) :
    IsLiteral content.toList content :=
  ⟨_, quoted_ordinary plain, denotes_characters _⟩

theorem pieces_of_quoted {body : List Char} {written : List Piece} (quoted : Quoted body written)
    (rest : List Char) : pieces (body ++ '\x22' :: rest) = some (written, rest) := by
  induction quoted with
  | nil => rfl
  | ordinary plain later ih => exact pieces_cons plain ih
  | short known later ih =>
      rename_i letter character body written
      rw [List.cons_append, List.cons_append, pieces.eq_4]
      · rw [known, ih]
      · rintro first second third fourth others rfl
        cases known
  | unit number later ih =>
      simp only [List.cons_append, pieces, number, ih]

theorem characters?_scalar {code : Nat} (whole : code < 0xD800 ∨ 0xE000 ≤ code)
    (written : List Piece) :
    characters? (.unit code :: written) = (characters? written).map (Char.ofNat code :: ·) := by
  have notHigh : Not (0xD800 ≤ code ∧ code < 0xDC00) := by omega
  have notLow : Not (0xDC00 ≤ code ∧ code < 0xE000) := by omega
  have notHalf : Not (0xD800 ≤ code ∧ code < 0xE000) := by omega
  cases written with
  | nil => simp only [characters?, if_neg notHalf]
  | cons piece others =>
      cases piece with
      | character character => simp only [characters?, if_neg notHalf]
      | unit next => rw [characters?, if_neg notHigh, if_neg notLow]

theorem characters?_of_denotes {written : List Piece} {content : List Char}
    (denotes : Denotes written content) : characters? written = some content := by
  induction denotes with
  | nil => rfl
  | character later ih => rw [characters?, ih]; rfl
  | scalar whole later ih => rw [characters?_scalar whole, ih]; rfl
  | pair highHalf lowHalf later ih => rw [characters?, if_pos highHalf, if_pos lowHalf, ih]; rfl

/-! ## Numbers -/

/-- Digits, at least one. -/
structure AreDigits (text : List Char) : Prop where
  nonempty : text ≠ []
  digits : forall character, character ∈ text -> isDigit character = true

/-- What may stand behind the whole part of a number. -/
inductive IsFraction : List Char -> Prop where
  | none : IsFraction []
  | point {written : List Char} (digits : AreDigits written) : IsFraction ('.' :: written)

inductive IsExponent : List Char -> Prop where
  | none : IsExponent []
  | mark {mark : Char} {sign written : List Char} (known : mark = 'e' ∨ mark = 'E')
      (signed : sign = [] ∨ sign = ['+'] ∨ sign = ['-']) (digits : AreDigits written) :
      IsExponent (mark :: (sign ++ written))

/-- A number, without zeros in front. -/
inductive IsNumber : List Char -> Prop where
  | intro {sign fraction exponent : List Char} (whole : Nat) (signed : sign = [] ∨ sign = ['-'])
      (fractional : IsFraction fraction) (scaled : IsExponent exponent) :
      IsNumber (sign ++ Nat.toDigits 10 whole ++ fraction ++ exponent)

@[simp] theorem sound_signed (negative : Bool) (number : Option Float) :
    (signed negative number).sound = true := by
  cases number <;> rfl

@[simp] theorem sound_integer (negative : Bool) (whole : List Char) :
    (integer negative whole).sound = true := by
  unfold integer
  dsimp only
  split
  · split
    · rfl
    · exact sound_signed _ _
  · split
    · rfl
    · exact sound_signed _ _

theorem exponentPart?_of_digits {sign written rest : List Char}
    (known : sign = [] ∨ sign = ['+'] ∨ sign = ['-']) (digits : AreDigits written)
    (stops : NoDigit rest) :
    exists negative, exponentPart? (sign ++ written ++ rest) = some (negative, written, rest) := by
  have read := digits_append digits.digits stops
  cases written with
  | nil => exact absurd rfl digits.nonempty
  | cons first others =>
      have digit := digits.digits first List.mem_cons_self
      have notPlus : first ≠ '+' := by
        rintro rfl
        exact absurd digit (by decide)
      have notMinus : first ≠ '-' := by
        rintro rfl
        exact absurd digit (by decide)
      rw [List.cons_append] at read
      rcases known with rfl | rfl | rfl
      · exact ⟨false, by simp [exponentPart?, notPlus, notMinus, read]⟩
      · exact ⟨false, by simp [exponentPart?, read]⟩
      · exact ⟨true, by simp [exponentPart?, read]⟩

theorem noDigit_of_isExponent {exponent rest : List Char} (scaled : IsExponent exponent)
    (follows : Follows rest) : NoDigit (exponent ++ rest) := by
  cases scaled with
  | none => exact noDigit_of_follows follows
  | mark known =>
      rintro character first
      rcases known with rfl | rfl <;> cases first <;> rfl

theorem noDigit_of_isFraction {fraction exponent rest : List Char}
    (fractional : IsFraction fraction) (scaled : IsExponent exponent) (follows : Follows rest) :
    NoDigit (fraction ++ exponent ++ rest) := by
  cases fractional with
  | none => exact noDigit_of_isExponent scaled follows
  | point =>
      rintro character first
      cases first
      rfl

/-- A sound value was read, and this is left. -/
def Leaves (result : Tree × List Char) (rest : List Char) : Prop :=
  result.1.sound = true ∧ result.2 = rest

/-- Whatever a number has behind its whole part is taken. -/
theorem afterWhole_leaves {fraction exponent rest : List Char}
    (fractional : IsFraction fraction) (scaled : IsExponent exponent) (follows : Follows rest)
    (negative : Bool) (whole : List Char) :
    Leaves (afterWhole negative whole (fraction ++ exponent ++ rest)) rest := by
  have stops := noDigit_of_follows follows
  cases fractional with
  | none =>
      cases scaled with
      | none =>
          rw [List.nil_append, List.nil_append, afterWhole_of_follows follows]
          exact ⟨sound_integer negative whole, rfl⟩
      | mark known signed digits =>
          rcases exponentPart?_of_digits signed digits stops with ⟨down, read⟩
          rcases known with rfl | rfl
          all_goals
            simp only [List.nil_append, List.cons_append, afterWhole, read]
            exact ⟨sound_signed negative _, rfl⟩
  | point digits =>
      rename_i written
      have taken := digits_append digits.digits (noDigit_of_isExponent scaled follows)
      rw [← List.append_assoc] at taken
      cases written with
      | nil => exact absurd rfl digits.nonempty
      | cons first others =>
          cases scaled with
          | none =>
              rw [List.append_nil] at taken ⊢
              simp only [List.cons_append, afterWhole] at taken ⊢
              rw [taken]
              dsimp only
              split <;> rename_i same
              · exact absurd same (ne_cons_of_follows follows (by decide) _)
              · exact absurd same (ne_cons_of_follows follows (by decide) _)
              · exact ⟨sound_signed negative _, rfl⟩
          | mark known signed digits =>
              rcases exponentPart?_of_digits signed digits stops with ⟨down, read⟩
              rcases known with rfl | rfl
              all_goals
                simp only [List.cons_append, afterWhole] at taken ⊢
                rw [taken]
                simp only [read]
                exact ⟨sound_signed negative _, rfl⟩

/-! ## Blanks -/

def AreBlanks (text : List Char) : Prop :=
  forall character, character ∈ text -> isBlank character = true

theorem skipBlanks_append {gap : List Char} (blanks : AreBlanks gap) (rest : List Char) :
    skipBlanks (gap ++ rest) = skipBlanks rest :=
  List.dropWhile_append_of_pos blanks

theorem skipBlanks_cons {first : Char} (visible : isBlank first = false) (others : List Char) :
    skipBlanks (first :: others) = first :: others :=
  List.dropWhile_cons_of_neg (by simp [visible])

@[simp] theorem skipBlanks_skipBlanks (text : List Char) :
    skipBlanks (skipBlanks text) = skipBlanks text :=
  List.dropWhile_idempotent isBlank text

theorem follows_append {gap rest : List Char} (blanks : AreBlanks gap) (follows : Follows rest) :
    Follows (gap ++ rest) := by
  cases gap with
  | nil => exact follows
  | cons first others =>
      have blank := blanks first List.mem_cons_self
      exact follows_cons (by simp [isEnd, blank]) (others ++ rest)

/-- A value may have blanks in front. -/
@[simp] theorem value_skipBlanks (bound : Nat) (text : List Char) :
    value bound (skipBlanks text) = value bound text := by
  cases bound with
  | zero => rw [value, value]
  | succ bound => rw [value, value, skipBlanks_skipBlanks]

@[simp] theorem items_skipBlanks (bound : Nat) (text : List Char) :
    items bound (skipBlanks text) = items bound text := by
  cases bound with
  | zero => rw [items, items]
  | succ bound => rw [items, items, value_skipBlanks]

/-! ## The grammar -/

/-- An item of an array, with the blanks around it. -/
structure Item where
  lead : List Char
  text : List Char
  tail : List Char

namespace Item

structure IsSpaced (item : Item) : Prop where
  lead : AreBlanks item.lead
  tail : AreBlanks item.tail

def written (item : Item) : List Char :=
  item.lead ++ item.text ++ item.tail

end Item

/-- A member of an object, with the blanks around its name and its value. -/
structure Entry where
  lead : List Char
  body : List Char
  gap : List Char
  space : List Char
  text : List Char
  tail : List Char

namespace Entry

/-- The blanks around the name and the value are blanks. -/
structure IsSpaced (entry : Entry) : Prop where
  lead : AreBlanks entry.lead
  gap : AreBlanks entry.gap
  space : AreBlanks entry.space
  tail : AreBlanks entry.tail

/-- A member from its name on. -/
def bare (entry : Entry) : List Char :=
  '\x22' :: (entry.body ++ '\x22' :: (entry.gap ++ ':' ::
    (entry.space ++ entry.text ++ entry.tail)))

def written (entry : Entry) : List Char :=
  entry.lead ++ entry.bare

end Entry

def separated : List (List Char) -> List Char
  | [] => []
  | [only] => only
  | first :: second :: others => first ++ ',' :: separated (second :: others)

/-- An array or an object.  One without parts may have blanks inside. -/
def enclosed (opening closing : Char) (gap : List Char) : List (List Char) -> List Char
  | [] => opening :: (gap ++ [closing])
  | first :: others => opening :: (separated (first :: others) ++ [closing])

/-- The texts of values. -/
inductive WellFormed : List Char -> Prop where
  | null : WellFormed ['n', 'u', 'l', 'l']
  | flag (flag : Bool) : WellFormed (if flag then "true" else "false").toList
  | number {text : List Char} (number : IsNumber text) : WellFormed text
  | string {body : List Char} {written : List Piece} (quoted : Quoted body written) :
      WellFormed ('\x22' :: (body ++ ['\x22']))
  | array {gap : List Char} {items : List Item} (blanks : AreBlanks gap)
      (spaced : forall item, item ∈ items -> item.IsSpaced)
      (each : forall item, item ∈ items -> WellFormed item.text) :
      WellFormed (enclosed '[' ']' gap (items.map Item.written))
  | object {gap : List Char} {entries : List Entry} (blanks : AreBlanks gap)
      (spaced : forall entry, entry ∈ entries -> entry.IsSpaced)
      (quoted : forall entry, entry ∈ entries -> exists written, Quoted entry.body written)
      (each : forall entry, entry ∈ entries -> WellFormed entry.text) :
      WellFormed (enclosed '\x7b' '\x7d' gap (entries.map Entry.written))

/-! ## Reading -/

/-- A text is read to its end as a value of which something is known. -/
structure Reads (text : List Char) (shown : Tree -> Prop) : Prop where
  visible : exists first others, text = first :: others ∧ isBlank first = false ∧ first ≠ ']'
  read : forall bound rest, 2 * text.length ≤ bound -> Follows rest ->
    exists tree, value bound (text ++ rest) = (tree, rest) ∧ tree.sound = true ∧ shown tree

theorem Reads.imp {text : List Char} {shown others : Tree -> Prop} (reads : Reads text shown)
    (weaker : forall tree, shown tree -> others tree) : Reads text others where
  visible := reads.visible
  read := by
    intro bound rest enough follows
    rcases reads.read bound rest enough follows with ⟨tree, read, sound, known⟩
    exact ⟨tree, read, sound, weaker tree known⟩

/-- A value with blanks around it. -/
theorem value_spaced {text lead : List Char} {shown : Tree -> Prop} (reads : Reads text shown)
    (blanks : AreBlanks lead) {bound : Nat} (enough : 2 * text.length ≤ bound) {rest : List Char}
    (follows : Follows rest) :
    exists tree, value bound (lead ++ text ++ rest) = (tree, rest) ∧ tree.sound = true ∧
      shown tree := by
  rcases reads.read bound rest enough follows with ⟨tree, read, known⟩
  refine ⟨tree, ?_, known⟩
  rw [← value_skipBlanks, List.append_assoc, skipBlanks_append blanks, value_skipBlanks, read]

/-- One item is taken off.  What becomes of the others depends on what stands behind it. -/
theorem items_written {item : Item} {shown : Tree -> Prop} (spaced : item.IsSpaced)
    (reads : Reads item.text shown) {bound : Nat} (enough : 2 * item.text.length ≤ bound)
    {rest : List Char} (follows : Follows rest) :
    exists tree, shown tree ∧ items (bound + 1) (item.written ++ rest) =
      match skipBlanks rest with
      | ']' :: left => ([tree], .closed, left)
      | ',' :: left =>
          match skipBlanks left with
          | ']' :: _ => ([tree], .broken, [])
          | others =>
              match items bound others with
              | (more, ending, behind) => (tree :: more, ending, behind)
      | _ => ([tree], .broken, []) := by
  rcases value_spaced reads spaced.lead enough (follows_append spaced.tail follows) with
    ⟨tree, read, sound, known⟩
  refine ⟨tree, known, ?_⟩
  rw [Item.written, List.append_assoc, items, read]
  dsimp only
  rewrite [if_pos sound, skipBlanks_append spaced.tail]
  rfl

theorem separated_cons (first : List Char) (others : List (List Char)) :
    exists rest, separated (first :: others) = first ++ rest := by
  cases others with
  | nil => exact ⟨[], (List.append_nil first).symm⟩
  | cons second others => exact ⟨_, rfl⟩

/-- Where items start is no closing bracket. -/
theorem skipBlanks_separated {first : Item} {shown : Tree -> Prop} (spaced : first.IsSpaced)
    (reads : Reads first.text shown) (others : List (List Char)) (rest : List Char) :
    exists character behind,
      skipBlanks (separated (first.written :: others) ++ rest) = character :: behind ∧
        character ≠ ']' := by
  rcases reads.visible with ⟨character, inner, text, visible, other⟩
  rcases separated_cons first.written others with ⟨more, split⟩
  refine ⟨character, inner ++ first.tail ++ more ++ rest, ?_, other⟩
  rw [split, Item.written, text, List.append_assoc, List.append_assoc, List.append_assoc,
    skipBlanks_append spaced.lead]
  simp [skipBlanks_cons visible]

/-- Items are read to the closing bracket. -/
theorem items_separated {first : Item} {others : List Item}
    (spaced : forall item, item ∈ first :: others -> item.IsSpaced)
    (reads : forall item, item ∈ first :: others -> Reads item.text fun _ => True) {bound : Nat}
    (enough : 2 * (separated ((first :: others).map Item.written)).length < bound)
    (rest : List Char) :
    exists trees, items bound (separated ((first :: others).map Item.written) ++ ']' :: rest) =
      (trees, .closed, rest) := by
  induction others generalizing first bound with
  | nil =>
      rcases bound with _ | bound
      · cases enough
      · have length : 2 * first.text.length ≤ bound := by
          simp [separated, Item.written] at enough
          omega
        have follows : Follows (']' :: rest) := follows_cons rfl rest
        rcases items_written (spaced first List.mem_cons_self) (reads first List.mem_cons_self)
          length follows with ⟨tree, _, read⟩
        exact ⟨[tree], read⟩
  | cons second others ih =>
      rcases bound with _ | bound
      · cases enough
      · have spaced := List.forall_mem_cons.mp spaced
        have reads := List.forall_mem_cons.mp reads
        have length : 2 * first.text.length ≤ bound ∧
            2 * (separated ((second :: others).map Item.written)).length < bound := by
          simp [separated, Item.written] at enough ⊢
          omega
        rcases ih spaced.2 reads.2 length.2 with ⟨trees, later⟩
        rcases skipBlanks_separated (spaced.2 second List.mem_cons_self)
          (reads.2 second List.mem_cons_self) (others.map Item.written) (']' :: rest) with
          ⟨character, behind, starts, other⟩
        rw [← List.map_cons] at starts
        rw [← items_skipBlanks, starts] at later
        have follows : Follows
            (',' :: (separated ((second :: others).map Item.written) ++ ']' :: rest)) :=
          follows_cons rfl _
        rcases items_written spaced.1 reads.1 length.1 follows with ⟨tree, _, read⟩
        refine ⟨tree :: trees, ?_⟩
        have text : separated ((first :: second :: others).map Item.written) ++ ']' :: rest =
            first.written ++ ',' :: (separated ((second :: others).map Item.written) ++
              ']' :: rest) := by
          simp [separated]
        rw [text, read]
        change (match skipBlanks (separated ((second :: others).map Item.written) ++
            ']' :: rest) with
          | ']' :: _ => ([tree], Ending.broken, [])
          | others =>
              match items bound others with
              | (more, ending, behind) => (tree :: more, ending, behind)) = _
        rw [starts]
        split <;> rename_i same
        · exact absurd (List.cons.inj same).1 other
        · rw [later]

/-- A member is read to its end as a name and a value of which something is known. -/
structure Entry.IsRead (entry : Entry) (shown : Option String × Tree -> Prop) : Prop where
  spaced : entry.IsSpaced
  reads : exists written, Quoted entry.body written ∧
    Reads entry.text fun tree => shown ((characters? written).map String.ofList, tree)

theorem skipBlanks_entry {entry : Entry} (spaced : entry.IsSpaced) (rest : List Char) :
    skipBlanks (entry.written ++ rest) = entry.bare ++ rest := by
  rw [Entry.written, List.append_assoc, skipBlanks_append spaced.lead]
  exact skipBlanks_cons rfl _

/-- One member is taken off.  What becomes of the others depends on what stands behind it. -/
theorem members_bare {entry : Entry} {shown : Option String × Tree -> Prop}
    (isRead : entry.IsRead shown) {bound : Nat} (enough : 2 * entry.text.length ≤ bound)
    {rest : List Char} (follows : Follows rest) :
    exists member, shown member ∧ members (bound + 1) (entry.bare ++ rest) =
      match skipBlanks rest with
      | '\x7d' :: left => ([member], .closed, left)
      | ',' :: left =>
          match members bound (skipBlanks left) with
          | (more, ending, last) => (member :: more, ending, last)
      | _ => ([member], .broken, []) := by
  rcases isRead with ⟨spaced, written, quoted, reads⟩
  rcases value_spaced reads spaced.space enough (follows_append spaced.tail follows) with
    ⟨tree, read, sound, known⟩
  refine ⟨_, known, ?_⟩
  let behind := entry.gap ++ ':' :: (entry.space ++ entry.text ++ (entry.tail ++ rest))
  have name : pieces (entry.body ++ '\x22' :: behind) = some (written, behind) :=
    pieces_of_quoted quoted behind
  have colon : skipBlanks behind = ':' :: (entry.space ++ entry.text ++ (entry.tail ++ rest)) := by
    rw [skipBlanks_append spaced.gap]
    exact skipBlanks_cons rfl _
  have text : entry.bare ++ rest = '\x22' :: (entry.body ++ '\x22' :: behind) := by
    simp [Entry.bare, behind]
  rw [text, members]
  simp only [name, colon, read, if_pos sound]
  rewrite [skipBlanks_append spaced.tail]
  rfl

/-- Members are read to the closing brace. -/
theorem members_separated {first : Entry} {others : List Entry}
    {shown : Option String × Tree -> Prop} {shows : List (Option String × Tree -> Prop)}
    (isRead : List.Forall₂ Entry.IsRead (first :: others) (shown :: shows)) {bound : Nat}
    (enough : 2 * (separated ((first :: others).map Entry.written)).length < bound)
    (rest : List Char) :
    exists read,
      members bound (skipBlanks (separated ((first :: others).map Entry.written) ++
        '\x7d' :: rest)) = (read, .closed, rest) ∧
      List.Forall₂ (fun member shown => shown member) read (shown :: shows) := by
  induction others generalizing first bound shown shows with
  | nil =>
      rcases List.forall₂_cons.mp isRead with ⟨firstRead, none⟩
      cases none
      rcases bound with _ | bound
      · cases enough
      · have length : 2 * first.text.length ≤ bound := by
          simp [separated, Entry.written, Entry.bare] at enough
          omega
        have follows : Follows ('\x7d' :: rest) := follows_cons rfl rest
        rcases members_bare firstRead length follows with ⟨member, known, read⟩
        refine ⟨[member], ?_, .cons known .nil⟩
        exact (congrArg _ (skipBlanks_entry firstRead.spaced _)).trans read
  | cons second others ih =>
      rcases List.forall₂_cons.mp isRead with ⟨firstRead, othersRead⟩
      rcases othersRead with _ | ⟨secondRead, othersRead⟩
      rcases bound with _ | bound
      · cases enough
      · have length : 2 * first.text.length ≤ bound ∧
            2 * (separated ((second :: others).map Entry.written)).length < bound := by
          simp [separated, Entry.written, Entry.bare] at enough ⊢
          omega
        rcases ih (.cons secondRead othersRead) length.2 with ⟨more, later, shows⟩
        have follows : Follows
            (',' :: (separated ((second :: others).map Entry.written) ++ '\x7d' :: rest)) :=
          follows_cons rfl _
        rcases members_bare firstRead length.1 follows with ⟨member, known, read⟩
        refine ⟨member :: more, ?_, .cons known shows⟩
        have text : separated ((first :: second :: others).map Entry.written) ++ '\x7d' :: rest =
            first.written ++ ',' :: (separated ((second :: others).map Entry.written) ++
              '\x7d' :: rest) := by
          simp [separated]
        rw [text, skipBlanks_entry firstRead.spaced, read]
        change (match members bound (skipBlanks (separated ((second :: others).map Entry.written) ++
            '\x7d' :: rest)) with
          | (more, ending, last) => (member :: more, ending, last)) = _
        rw [later]

/-! ## Whole values -/

theorem reads_of_spells {text : List Char} {tree : Tree} (spelled : Spells 0 text tree)
    (sound : tree.sound = true)
    (visible : exists first others, text = first :: others ∧ isBlank first = false ∧ first ≠ ']') :
    Reads text fun read => read = tree where
  visible := visible
  read := by
    intro bound rest enough follows
    rcases visible with ⟨first, others, rfl, _⟩
    have positive : 0 < bound := Nat.lt_of_lt_of_le (by simp) enough
    exact ⟨tree, spelled.read bound rest positive follows, sound, rfl⟩

theorem reads_flag (flag : Bool) :
    Reads (if flag then "true" else "false").toList fun tree => tree = .boolean flag :=
  reads_of_spells (spells_flag flag) rfl (by cases flag <;> exact ⟨_, _, rfl, rfl, by decide⟩)

theorem reads_null : Reads ['n', 'u', 'l', 'l'] fun tree => tree = .null where
  visible := ⟨_, _, rfl, rfl, by decide⟩
  read := by
    intro bound rest enough _
    rcases bound with _ | bound
    · cases enough
    · exact ⟨.null, rfl, rfl, rfl⟩

/-- A string literal is read as its text, or as none if its escapes are no characters. -/
theorem reads_quoted {body : List Char} {written : List Piece} (quoted : Quoted body written) :
    Reads ('\x22' :: (body ++ ['\x22'])) fun tree =>
      forall content, characters? written = some content ->
        tree = .text (String.ofList content) where
  visible := ⟨_, _, rfl, rfl, by decide⟩
  read := by
    intro bound rest enough _
    rcases bound with _ | bound
    · cases enough
    · rw [List.cons_append, List.append_assoc, List.singleton_append, value_quote,
        pieces_of_quoted quoted]
      dsimp only
      cases characters? written with
      | none => exact ⟨.valueless, rfl, rfl, nofun⟩
      | some content => exact ⟨_, rfl, rfl, fun _ same => by cases same; rfl⟩

theorem exists_first_digit (whole : Nat) :
    exists first others, Nat.toDigits 10 whole = first :: others ∧ isDigit first = true := by
  have all := Toml.isDigit_of_mem_toDigits whole
  cases written : Nat.toDigits 10 whole with
  | nil => exact absurd written Nat.toDigits_ne_nil
  | cons first others => exact ⟨first, others, rfl, all first (by rw [written]; simp)⟩

theorem visible_of_isDigit {first : Char} (digit : isDigit first = true) :
    isBlank first = false ∧ first ≠ ']' := by
  refine ⟨?_, ?_⟩
  · rw [Bool.eq_false_iff]
    intro blank
    simp only [isBlank, Bool.or_eq_true, beq_iff_eq] at blank
    rcases blank with ((rfl | rfl) | rfl) | rfl <;> exact absurd digit (by decide)
  · rintro rfl
    exact absurd digit (by decide)

/-- A number of any kind is read to its end. -/
theorem reads_number {text : List Char} (number : IsNumber text) : Reads text fun _ => True := by
  rcases number with ⟨whole, signed, fractional, scaled⟩
  rename_i sign fraction exponent
  rcases exists_first_digit whole with ⟨first, others, written, digit⟩
  have leaves (negative : Bool) {rest : List Char} (follows : Follows rest) :
      Leaves (unsignedNumber negative (Nat.toDigits 10 whole ++ (fraction ++ exponent ++ rest)))
        rest := by
    rw [unsignedNumber_append negative whole (noDigit_of_isFraction fractional scaled follows)]
    exact afterWhole_leaves fractional scaled follows negative _
  have found {result : Tree × List Char} {rest : List Char} (leaves : Leaves result rest) :
      exists tree, result = (tree, rest) ∧ tree.sound = true ∧ True :=
    ⟨result.1, Prod.ext rfl leaves.2, leaves.1, trivial⟩
  rcases signed with rfl | rfl
  · refine ⟨⟨first, others ++ fraction ++ exponent, by simp [written],
      visible_of_isDigit digit⟩, ?_⟩
    intro bound rest enough follows
    rcases bound with _ | bound
    · simp [written] at enough
    · have read := value_of_isDigit bound digit (others ++ (fraction ++ exponent ++ rest))
      rw [← List.cons_append, ← written] at read
      rw [List.nil_append, List.append_assoc, List.append_assoc, ← List.append_assoc fraction, read]
      exact found (leaves false follows)
  · refine ⟨⟨'-', _, rfl, rfl, by decide⟩, ?_⟩
    intro bound rest enough follows
    rcases bound with _ | bound
    · simp at enough
    · have read : value (bound + 1)
          ('-' :: (Nat.toDigits 10 whole ++ (fraction ++ exponent ++ rest))) =
          unsignedNumber true (Nat.toDigits 10 whole ++ (fraction ++ exponent ++ rest)) := by
        rw [value]
        rfl
      rw [List.append_assoc, List.append_assoc, List.append_assoc, List.singleton_append,
        ← List.append_assoc fraction, read]
      exact found (leaves true follows)

theorem value_bracket (bound : Nat) (rest : List Char) :
    value (bound + 1) ('[' :: rest) =
      match skipBlanks rest with
      | ']' :: left => (.array [] .closed, left)
      | others =>
          match items bound others with
          | (read, ending, left) => (.array read ending, left) := by
  rw [value]
  rfl

theorem value_brace (bound : Nat) (rest : List Char) :
    value (bound + 1) ('\x7b' :: rest) =
      match skipBlanks rest with
      | '\x7d' :: left => (.object [] .closed, left)
      | '\x22' :: others =>
          match members bound ('\x22' :: others) with
          | (read, ending, left) => (.object read ending, left)
      | _ => (.object [] .broken, []) := by
  rw [value]
  rfl

/-- An array of such values is read to its end. -/
theorem reads_array {gap : List Char} (blanks : AreBlanks gap) {items : List Item}
    (spaced : forall item, item ∈ items -> item.IsSpaced)
    (reads : forall item, item ∈ items -> Reads item.text fun _ => True) :
    Reads (enclosed '[' ']' gap (items.map Item.written)) fun _ => True where
  visible := by cases items <;> exact ⟨_, _, rfl, rfl, by decide⟩
  read := by
    intro bound rest enough _
    rcases bound with _ | bound
    · cases items <;> simp [enclosed] at enough
    · cases items with
      | nil =>
          refine ⟨.array [] .closed, ?_, rfl, trivial⟩
          have closed : skipBlanks (gap ++ ']' :: rest) = ']' :: rest := by
            rw [skipBlanks_append blanks]
            exact skipBlanks_cons rfl rest
          have text : enclosed '[' ']' gap ([].map Item.written) ++ rest =
              '[' :: (gap ++ ']' :: rest) := by
            simp [enclosed]
          rw [text, value_bracket, closed]
          rfl
      | cons first others =>
          have text : enclosed '[' ']' gap ((first :: others).map Item.written) ++ rest =
              '[' :: (separated ((first :: others).map Item.written) ++ ']' :: rest) := by
            simp [enclosed]
          have length : 2 * (separated ((first :: others).map Item.written)).length < bound := by
            simp only [List.map_cons, enclosed, List.length_cons, List.length_append] at enough ⊢
            omega
          rcases items_separated spaced reads length rest with ⟨trees, read⟩
          refine ⟨.array trees .closed, ?_, rfl, trivial⟩
          rcases skipBlanks_separated (spaced first List.mem_cons_self)
            (reads first List.mem_cons_self) (others.map Item.written) (']' :: rest) with
            ⟨character, behind, starts, other⟩
          rw [← items_skipBlanks, List.map_cons, starts] at read
          rw [text, value_bracket, List.map_cons, starts]
          split <;> rename_i same
          · exact absurd (List.cons.inj same).1 other
          · rw [read]

/-- An object whose members are read is read to its end, and has these members. -/
theorem reads_object {gap : List Char} (blanks : AreBlanks gap) {entries : List Entry}
    {shows : List (Option String × Tree -> Prop)}
    (isRead : List.Forall₂ Entry.IsRead entries shows) :
    Reads (enclosed '\x7b' '\x7d' gap (entries.map Entry.written)) fun tree =>
      exists read, tree = .object read .closed ∧
        List.Forall₂ (fun member shown => shown member) read shows where
  visible := by cases entries <;> exact ⟨_, _, rfl, rfl, by decide⟩
  read := by
    intro bound rest enough _
    rcases bound with _ | bound
    · cases entries <;> simp [enclosed] at enough
    · cases isRead with
      | nil =>
          refine ⟨.object [] .closed, ?_, rfl, [], rfl, .nil⟩
          have closed : skipBlanks (gap ++ '\x7d' :: rest) = '\x7d' :: rest := by
            rw [skipBlanks_append blanks]
            exact skipBlanks_cons rfl rest
          have text : enclosed '\x7b' '\x7d' gap ([].map Entry.written) ++ rest =
              '\x7b' :: (gap ++ '\x7d' :: rest) := by
            simp [enclosed]
          rw [text, value_brace, closed]
          rfl
      | cons firstRead othersRead =>
          rename_i first shown others shows
          have text : enclosed '\x7b' '\x7d' gap ((first :: others).map Entry.written) ++ rest =
              '\x7b' :: (separated ((first :: others).map Entry.written) ++ '\x7d' :: rest) := by
            simp [enclosed]
          have length : 2 * (separated ((first :: others).map Entry.written)).length < bound := by
            simp only [List.map_cons, enclosed, List.length_cons, List.length_append] at enough ⊢
            omega
          rcases members_separated (.cons firstRead othersRead) length rest with
            ⟨found, read, known⟩
          refine ⟨.object found .closed, ?_, rfl, found, rfl, known⟩
          rcases separated_cons first.written (others.map Entry.written) with ⟨more, split⟩
          have starts : skipBlanks (separated ((first :: others).map Entry.written) ++
              '\x7d' :: rest) = first.bare ++ (more ++ '\x7d' :: rest) := by
            rw [List.map_cons, split, List.append_assoc, skipBlanks_entry firstRead.spaced]
          rw [starts] at read
          rw [text, value_brace, starts]
          change (match members bound (first.bare ++ (more ++ '\x7d' :: rest)) with
            | (read, ending, left) => (Tree.object read ending, left)) = _
          rw [read]

/-- Every well-formed value is read to its end. -/
theorem reads_of_wellFormed {text : List Char} (wellFormed : WellFormed text) :
    Reads text fun _ => True := by
  induction wellFormed with
  | null => exact reads_null.imp fun _ _ => trivial
  | flag flag => exact (reads_flag flag).imp fun _ _ => trivial
  | number number => exact reads_number number
  | string quoted => exact (reads_quoted quoted).imp fun _ _ => trivial
  | array blanks spaced each ih => exact reads_array blanks spaced ih
  | object blanks spaced quoted each ih =>
      rename_i gap entries
      have isRead : List.Forall₂ Entry.IsRead entries (entries.map fun _ _ => True) := by
        rw [List.forall₂_map_right_iff, List.forall₂_same]
        intro entry member
        rcases quoted entry member with ⟨written, literal⟩
        exact ⟨spaced entry member, written, literal, ih entry member⟩
      exact (reads_object blanks isRead).imp fun _ _ => trivial

theorem reads_natural {size : Nat} (small : size ≤ wordLimit) :
    Reads (toString size).toList fun tree => tree = .number (.natural size) := by
  refine reads_of_spells (spells_number small) rfl ?_
  rw [Nat.toString_eq_repr, Nat.toList_repr]
  rcases exists_first_digit size with ⟨first, others, written, digit⟩
  exact ⟨first, others, written, visible_of_isDigit digit⟩

theorem reads_literal {body : List Char} {content : String} (literal : IsLiteral body content) :
    Reads ('\x22' :: (body ++ ['\x22'])) fun tree => tree = .text content := by
  rcases literal with ⟨written, quoted, denotes⟩
  refine (reads_quoted quoted).imp fun tree known => ?_
  rw [known _ (characters?_of_denotes denotes), String.ofList_toList]

/-- A member is spelled: its name by a literal, and its value by one of the texts for it. -/
structure Entry.IsSpelled (entry : Entry) (name : String) (texts : List Char -> Prop) : Prop where
  spaced : entry.IsSpaced
  named : IsLiteral entry.body name
  valued : texts entry.text

theorem Entry.IsSpelled.isRead {entry : Entry} {name : String} {texts : List Char -> Prop}
    {shown : Tree -> Prop} (spelled : entry.IsSpelled name texts)
    (reads : forall text, texts text -> Reads text shown) :
    entry.IsRead fun member => member.1 = some name ∧ member.2.sound = true ∧ shown member.2 := by
  rcases spelled.named with ⟨written, quoted, denotes⟩
  have found := reads _ spelled.valued
  refine ⟨spelled.spaced, written, quoted, found.visible, ?_⟩
  intro bound rest enough follows
  rcases found.read bound rest enough follows with ⟨tree, read, sound, known⟩
  refine ⟨tree, read, sound, ?_, sound, known⟩
  rw [characters?_of_denotes denotes, Option.map_some, String.ofList_toList]

/-- A text that holds a value and nothing else but blanks. -/
theorem parse_of_reads {text lead tail : List Char} {shown : Tree -> Prop}
    (reads : Reads text shown) (leadBlanks : AreBlanks lead) (tailBlanks : AreBlanks tail) :
    exists tree, parse (lead ++ text ++ tail) = ⟨tree, true⟩ ∧ shown tree := by
  have follows : Follows tail := by
    have behind : Follows ([] : List Char) := nofun
    exact List.append_nil tail ▸ follows_append tailBlanks behind
  have enough : 2 * text.length ≤ 2 * (lead ++ text ++ tail).length + 2 := by
    simp only [List.length_append]
    omega
  rcases value_spaced reads leadBlanks enough follows with ⟨tree, read, sound, known⟩
  have nothing : skipBlanks tail = [] := List.dropWhile_eq_nil_iff.mpr tailBlanks
  refine ⟨tree, ?_, known⟩
  rw [parse, read]
  simp [sound, nothing]

end Json
end WhitespaceBench
