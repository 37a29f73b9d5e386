import WhitespaceBench.Toml.Statement

namespace WhitespaceBench
namespace Toml

/-!
# Written integers are read back

The digits of a number could also start a date, a time, or a number in another base.
What tells these apart is the first character behind the leading digits: a hyphen, a
colon or a letter.  Behind a written number the line ends, so none of them is meant, and
the digits are read as the number that they were written for.
-/

theorem isDigit_iff (character : Char) :
    isDigit character = true <-> 0x30 ≤ character.toNat ∧ character.toNat ≤ 0x39 := by
  rw [isDigit, Bool.and_eq_true, decide_eq_true_iff, decide_eq_true_iff]

theorem digit?_of_isDigit {character : Char} (digit : isDigit character = true) :
    digit? 10 character = some (character.toNat - '0'.toNat) := by
  have bounds := (isDigit_iff character).mp digit
  have small : character.toNat - 0x30 < 10 := by omega
  simp only [digit?, Text.Hex.value?, bounds, and_self, if_true, small]
  rfl

theorem isDigit_of_digit? {character : Char} {value : Nat}
    (read : digit? 10 character = some value) : isDigit character = true := by
  rw [isDigit_iff]
  unfold digit? Text.Hex.value? at read
  dsimp only at read
  by_cases bounds : 0x30 ≤ character.toNat ∧ character.toNat ≤ 0x39
  · exact bounds
  · rw [if_neg bounds] at read
    split at read
    · cases read
    · rename_i letter found
      split at found <;> split at read <;> simp at found read <;> omega

theorem isDigit_of_mapM_digit? {characters : List Char} {values : List Nat}
    (read : characters.mapM (digit? 10) = some values) :
    forall character, character ∈ characters -> isDigit character = true := by
  induction characters generalizing values with
  | nil => exact fun _ member => absurd member List.not_mem_nil
  | cons character characters ih =>
      rw [List.mapM_cons] at read
      rcases Option.bind_eq_some_iff.mp read with ⟨value, first, others⟩
      rcases Option.bind_eq_some_iff.mp others with ⟨more, later, _⟩
      intro other member
      rcases List.mem_cons.mp member with same | member
      · rw [same]
        exact isDigit_of_digit? first
      · exact ih later other member

/-! ## What follows the leading digits -/

/-- The text behind the leading digits, if the line ends there. -/
theorem dropWhile_digits {digits : List Char} (all : forall character, character ∈ digits ->
    isDigit character = true) (rest : List Char) :
    (digits ++ '\n' :: rest).dropWhile isDigit = '\n' :: rest := by
  rw [List.dropWhile_append_of_pos all]
  rfl

/-- A date shows a hyphen behind its first digits. -/
theorem dropWhile_of_year? {text rest : List Char} {year : Nat}
    (read : year? text = some (year, rest)) : text.dropWhile isDigit = '-' :: rest := by
  unfold year? at read
  split at read
  · rename_i first second third fourth others
    split at read
    · cases read
    · rename_i digits values
      rcases Option.some.inj read with ⟨rfl, rfl⟩
      have all := isDigit_of_mapM_digit? values
      change ([first, second, third, fourth] ++ '-' :: rest).dropWhile isDigit = _
      rw [List.dropWhile_append_of_pos all]
      rfl
  · cases read

/-- A time shows a colon behind its first digits. -/
theorem dropWhile_of_startsTime {text : List Char} (starts : startsTime text = true) :
    exists rest, text.dropWhile isDigit = ':' :: rest := by
  unfold startsTime at starts
  split at starts
  · rename_i first second rest
    rw [Bool.and_eq_true] at starts
    refine ⟨rest, ?_⟩
    rw [List.dropWhile_cons_of_pos starts.1, List.dropWhile_cons_of_pos starts.2]
    rfl
  · cases starts

/-! ## The digits of a number -/

theorem isDigit_of_mem_toDigits (number : Nat) (character : Char)
    (member : character ∈ Nat.toDigits 10 number) : isDigit character = true := by
  have digit := Nat.isDigit_of_mem_toDigits (by decide) (by decide) member
  rw [Char.isDigit_iff_toNat] at digit
  exact (isDigit_iff character).mpr digit

/-- Only zero starts with the digit zero, and then no other digit follows. -/
theorem head?_toDigits {number : Nat} (positive : 0 < number) :
    (Nat.toDigits 10 number).head? ≠ some '0' := by
  induction number using Nat.strongRecOn with
  | ind number ih =>
      rw [Nat.toDigits_eq_if (by decide)]
      split
      · exact fun zero => absurd (Nat.digitChar_eq_zero.mp (Option.some.inj zero)) (by omega)
      · have shorter := ih (number / 10) (by omega) (by omega)
        cases front : Nat.toDigits 10 (number / 10) with
        | nil => exact absurd front Nat.toDigits_ne_nil
        | cons first digits =>
            rw [front] at shorter
            exact shorter

/-- Digits up to the end of the line are taken together. -/
theorem moreDigits_digits {digits : List Char} (all : forall character, character ∈ digits ->
    isDigit character = true) (rest : List Char) :
    moreDigits 10 (digits ++ '\n' :: rest) =
      some (digits.map fun character => character.toNat - '0'.toNat, '\n' :: rest) := by
  induction digits with
  | nil => rfl
  | cons character digits ih =>
      have digit := all character List.mem_cons_self
      have later := ih fun other member => all other (List.mem_cons_of_mem _ member)
      have notMark : character ≠ '_' := by rintro rfl; exact absurd digit (by decide)
      rw [List.cons_append, moreDigits]
      · simp only [digit?_of_isDigit digit, later]
        rfl
      · exact fun mark => absurd mark notMark
      · exact fun _ _ mark => absurd mark notMark

theorem digitRun_digits {digits : List Char} (all : forall character, character ∈ digits ->
    isDigit character = true) (nonempty : digits ≠ []) (rest : List Char) :
    digitRun 10 (digits ++ '\n' :: rest) =
      some (digits.map fun character => character.toNat - '0'.toNat, '\n' :: rest) := by
  cases digits with
  | nil => exact absurd rfl nonempty
  | cons character digits =>
      have later := moreDigits_digits (fun other member =>
        all other (List.mem_cons_of_mem _ member)) rest
      simp only [List.cons_append, digitRun, digit?_of_isDigit (all character List.mem_cons_self),
        later]
      rfl

theorem number_toDigits (size : Nat) :
    number 10 ((Nat.toDigits 10 size).map fun character => character.toNat - '0'.toNat) = size := by
  have read := Nat.ofDigitChars_toDigits (b := 10) (n := size) (by decide) (by decide)
  rw [Nat.ofDigitChars_eq_foldl] at read
  unfold number
  rw [List.foldl_map]
  simpa only [Nat.mul_comm] using read

/-! ## Reading a number -/

/-- A zero in front stands alone, so it is not told apart from other digits here. -/
theorem wholePart?_toDigits (size : Nat) (rest : List Char) :
    wholePart? (Nat.toDigits 10 size ++ '\n' :: rest) =
      some ((Nat.toDigits 10 size).map fun character => character.toNat - '0'.toNat,
        '\n' :: rest) := by
  have run := digitRun_digits (isDigit_of_mem_toDigits size) Nat.toDigits_ne_nil rest
  rcases Nat.eq_zero_or_pos size with zero | positive
  · subst zero
    rfl
  · have notZero := head?_toDigits positive
    rw [← run]
    cases digits : Nat.toDigits 10 size with
    | nil => exact absurd digits Nat.toDigits_ne_nil
    | cons first more =>
        rw [digits] at notZero
        exact wholePart?.eq_2 _ fun _ same => notZero (congrArg List.head? same)

/-- A number without a fraction or an exponent is an integer. -/
theorem afterWhole_newline (whole : List Nat) (rest : List Char) :
    afterWhole false whole ('\n' :: rest) =
      (integer? (number 10 whole)).map fun read => (read, '\n' :: rest) := rfl

theorem numeric_toDigits (size : Nat) (small : size < 0x8000000000000000) (rest : List Char) :
    numeric (Nat.toDigits 10 size ++ '\n' :: rest) =
      some (.integer (Int64.ofInt size), '\n' :: rest) := by
  have behind := dropWhile_digits (isDigit_of_mem_toDigits size) rest
  have whole := wholePart?_toDigits size rest
  generalize Nat.toDigits 10 size ++ '\n' :: rest = text at behind whole ⊢
  have undated : year? text = none := by
    cases read : year? text with
    | none => rfl
    | some date => cases behind.symm.trans (dropWhile_of_year? read)
  have untimed : Not (startsTime text = true) := by
    intro starts
    rcases dropWhile_of_startsTime starts with ⟨others, shown⟩
    cases behind.symm.trans shown
  unfold numeric
  rw [undated, if_neg untimed]
  dsimp only
  -- A mark of another base, or a sign, would stand where the line ends.
  split
  · cases behind
  · cases behind
  · cases behind
  · cases behind
  · cases behind
  · have fits : -0x8000000000000000 ≤ (size : Int) ∧ (size : Int) < 0x8000000000000000 := by omega
    have read : integer? size = some (.integer (Int64.ofInt size)) := if_pos fits
    rw [decimal, whole]
    dsimp only
    rw [afterWhole_newline, number_toDigits, read, Option.map_some]

/-- A written number is read back as a value, up to the end of its line. -/
theorem scalarContent_toString (size : Nat) (small : size < 0x8000000000000000)
    (rest : List Char) :
    scalarContent ((toString size).toList ++ '\n' :: rest) =
      some (.integer (Int64.ofInt size), '\n' :: rest) := by
  rw [Nat.toString_eq_repr, Nat.toList_repr]
  rw [← numeric_toDigits size small rest]
  have all := isDigit_of_mem_toDigits size
  cases digits : Nat.toDigits 10 size with
  | nil => exact absurd digits Nat.toDigits_ne_nil
  | cons first more =>
      rw [digits] at all
      have digit := all first List.mem_cons_self
      have notDouble : first ≠ Quote.double.character := by rintro rfl; exact absurd digit (by decide)
      have notSingle : first ≠ Quote.single.character := by rintro rfl; exact absurd digit (by decide)
      simp only [List.cons_append, scalarContent, quote?, notDouble, notSingle, if_false, digit,
        Bool.true_or, if_true]

end Toml
end WhitespaceBench
