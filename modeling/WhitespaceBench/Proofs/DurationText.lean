import WhitespaceBench.Proofs.ReportMembers

namespace WhitespaceBench

/-!
# The text of a duration tells the duration

The text form depends on nothing but the whole number of nanoseconds: its size chooses the unit,
and what it is in that unit is written as a whole part and an exact fraction.  The number can be
read off again.  The whole part ends where the digits end, the fraction is what stands between
the point and the unit, and a digit that was dropped from its end was a zero.  That the unit was
chosen by size is not even needed for this; its name stands at the end.
-/

namespace Text

variable {kind : Char -> Bool} {front otherFront rest otherRest : List Char}

/-- Characters of one kind are taken off as far as they go. -/
theorem takeWhile_append_of_kind
    (within : forall character, character ∈ front -> kind character = true)
    (stops : forall character, rest.head? = some character -> kind character = false) :
    (front ++ rest).takeWhile kind = front := by
  rw [List.takeWhile_append_of_pos within]
  cases rest with
  | nil => exact List.append_nil _
  | cons character others =>
      have other : Not (kind character = true) := by simp [stops character rfl]
      rw [List.takeWhile_cons_of_neg other, List.append_nil]

/-- Two texts that start with characters of one kind, as far as these go, are the same only if
they are the same so far and from there on. -/
theorem append_inj_of_kind
    (within : forall character, character ∈ front -> kind character = true)
    (otherWithin : forall character, character ∈ otherFront -> kind character = true)
    (stops : forall character, rest.head? = some character -> kind character = false)
    (otherStops : forall character, otherRest.head? = some character -> kind character = false)
    (same : front ++ rest = otherFront ++ otherRest) :
    front = otherFront ∧ rest = otherRest := by
  have equal : front = otherFront := by
    rw [← takeWhile_append_of_kind within stops, same,
      takeWhile_append_of_kind otherWithin otherStops]
  subst equal
  exact ⟨rfl, List.append_cancel_left same⟩

end Text

namespace Duration

/-! ## Fractions -/

/-- What digits behind a point stand for, in units of the last of so many places. -/
def fractionValue (places : Nat) : List Char -> Nat
  | [] => 0
  | digit :: digits =>
      (digit.toNat - 0x30) * 10 ^ (places - 1) + fractionValue (places - 1) digits

/-- Digits behind a point that stand for so many units of the last of so many places, exactly and
without a zero at the end. -/
structure IsFraction (places part : Nat) (digits : List Char) : Prop where
  within : forall digit, digit ∈ digits -> digit.isDigit = true
  fits : digits.length ≤ places
  exact : fractionValue places digits = part
  trimmed : digits.getLast? ≠ some '0'

theorem IsFraction.zero (places : Nat) : IsFraction places 0 [] where
  within := fun _ absent => absurd absent List.not_mem_nil
  fits := Nat.zero_le places
  exact := rfl
  trimmed := nofun

theorem toNat_digit {digit : Nat} (small : digit < 10) :
    (Char.ofNat (0x30 + digit)).toNat = 0x30 + digit := by
  have valid : (0x30 + digit).isValidChar := Or.inl (by omega)
  rw [Char.toNat_ofNat, if_pos valid]

theorem isDigit_digit {digit : Nat} (small : digit < 10) :
    (Char.ofNat (0x30 + digit)).isDigit = true := by
  rw [Char.isDigit_iff_toNat, toNat_digit small]
  exact ⟨Nat.le_add_right 0x30 digit, Nat.add_le_add_left (Nat.le_of_lt_succ small) 0x30⟩

/-- One more digit in front.  It may be the last one only if it is not a zero. -/
theorem IsFraction.cons {places digit part : Nat} {digits : List Char} (small : digit < 10)
    (later : IsFraction places part digits) (nonzero : digit * 10 ^ places + part ≠ 0) :
    IsFraction (places + 1) (digit * 10 ^ places + part) (Char.ofNat (0x30 + digit) :: digits) where
  within := List.forall_mem_cons.mpr ⟨isDigit_digit small, later.within⟩
  fits := Nat.succ_le_succ later.fits
  exact := by
    rw [fractionValue, toNat_digit small, Nat.add_sub_cancel, later.exact,
      Nat.add_sub_cancel_left]
  trimmed := by
    cases digits with
    | nil =>
        intro last
        have zero : (Char.ofNat (0x30 + digit)).toNat = 0x30 + 0 :=
          congrArg Char.toNat (Option.some.inj last)
        rw [toNat_digit small] at zero
        have none : digit = 0 := Nat.add_left_cancel zero
        have empty : part = 0 := later.exact.symm
        rw [none, empty, Nat.zero_mul] at nonzero
        exact nonzero rfl
    | cons first others =>
        rw [List.getLast?_cons_cons]
        exact later.trimmed

/-- The digits that are written are a fraction: zeros are left out only where all digits that
follow are zeros, too. -/
theorem isFraction_fraction {places part : Nat} (small : part < 10 ^ places) :
    IsFraction places part (fraction places part) := by
  induction places generalizing part with
  | zero =>
      rw [Nat.lt_one_iff.mp small]
      exact IsFraction.zero 0
  | succ places ih =>
      rw [fraction]
      split
      · rename_i zero
        rw [zero]
        exact IsFraction.zero (places + 1)
      · rename_i nonzero
        have digit : part / 10 ^ places < 10 := Nat.div_lt_of_lt_mul (by rwa [← Nat.pow_succ])
        have later := ih (Nat.mod_lt part (Nat.pow_pos (by decide : 0 < 10)))
        have parts := Nat.div_add_mod' part (10 ^ places)
        have longer := later.cons digit (by rwa [parts])
        rw [parts] at longer
        exact longer

/-! ## Whole part, fraction and unit -/

/-- A fraction as it stands behind the whole part: nothing at all, or the point and the digits. -/
def pointed : List Char -> List Char
  | [] => []
  | digits => '.' :: digits

@[simp] theorem toList_written (whole places part : Nat) (unit : String) :
    (written whole places part unit).toList =
      Nat.toDigits 10 whole ++ (pointed (fraction places part) ++ unit.toList) := by
  unfold written
  cases fraction places part with
  | nil =>
      rw [String.toList_append, Nat.toString_eq_repr, Nat.toList_repr]
      rfl
  | cons digit digits =>
      simp only [String.toList_append, String.toList_ofList, Nat.toString_eq_repr,
        Nat.toList_repr, List.append_assoc, pointed, List.cons_append]
      rfl

inductive TimeUnit where
  | seconds
  | milliseconds
  | microseconds
  | nanoseconds
deriving Repr, DecidableEq

namespace TimeUnit

/-- The places behind the point that a unit needs to tell nanoseconds. -/
def places : TimeUnit -> Nat
  | seconds => 9
  | milliseconds => 6
  | microseconds => 3
  | nanoseconds => 0

def name : TimeUnit -> String
  | seconds => "s"
  | milliseconds => "ms"
  | microseconds => "µs"
  | nanoseconds => "ns"

/-- The largest unit of which so many nanoseconds have a whole one, or else the smallest. -/
def ofNanos (nanos : Nat) : TimeUnit :=
  if 1000000000 ≤ nanos then seconds
  else if 1000000 ≤ nanos then milliseconds
  else if 1000 ≤ nanos then microseconds
  else nanoseconds

theorem name_injective : Function.Injective name := by
  intro first second
  cases first <;> cases second <;> decide

/-- The name of a unit starts with neither a digit nor a point. -/
theorem head?_name (unit : TimeUnit) : forall character, unit.name.toList.head? = some character ->
    character.isDigit = false ∧ character ≠ '.' := by
  cases unit <;> rintro _ ⟨⟩ <;> decide

/-- A text is the exact decimal number of so many nanoseconds in a unit, followed by the name of
the unit. -/
def Tells (unit : TimeUnit) (nanos : Nat) (text : String) : Prop :=
  exists whole part digits, whole * 10 ^ unit.places + part = nanos ∧
    IsFraction unit.places part digits ∧
    text.toList = Nat.toDigits 10 whole ++ (pointed digits ++ unit.name.toList)

variable {unit other : TimeUnit} {nanos otherNanos : Nat}

def written (unit : TimeUnit) (nanos : Nat) : String :=
  Duration.written (nanos / 10 ^ unit.places) unit.places (nanos % 10 ^ unit.places) unit.name

theorem tells_written (unit : TimeUnit) (nanos : Nat) : unit.Tells nanos (unit.written nanos) :=
  ⟨nanos / 10 ^ unit.places, nanos % 10 ^ unit.places, _, Nat.div_add_mod' _ _,
    isFraction_fraction (Nat.mod_lt _ (Nat.pow_pos (by decide))), toList_written ..⟩

/-- What stands behind the whole part starts with no digit. -/
theorem isDigit_head?_pointed (digits : List Char) (unit : TimeUnit) :
    forall character, (pointed digits ++ unit.name.toList).head? = some character ->
      character.isDigit = false := by
  cases digits with
  | nil => exact fun character first => (unit.head?_name character first).1
  | cons digit digits =>
      rintro _ ⟨⟩
      rfl

/-- A fraction can be told from the unit behind it.  Without a fraction there is no point, since
the name of a unit does not start with one. -/
theorem pointed_append_inj {digits otherDigits : List Char}
    (within : forall digit, digit ∈ digits -> digit.isDigit = true)
    (otherWithin : forall digit, digit ∈ otherDigits -> digit.isDigit = true)
    (same : pointed digits ++ unit.name.toList = pointed otherDigits ++ other.name.toList) :
    digits = otherDigits ∧ unit = other := by
  cases digits with
  | nil =>
      cases otherDigits with
      | nil => exact ⟨rfl, name_injective (String.toList_inj.mp same)⟩
      | cons digit others => exact absurd rfl (unit.head?_name '.' (congrArg List.head? same)).2
  | cons digit digits =>
      cases otherDigits with
      | nil => exact absurd rfl (other.head?_name '.' (congrArg List.head? same).symm).2
      | cons otherDigit others =>
          rcases Text.append_inj_of_kind within otherWithin
            (fun character first => (unit.head?_name character first).1)
            (fun character first => (other.head?_name character first).1)
            (List.cons.inj same).2 with ⟨equal, names⟩
          exact ⟨equal, name_injective (String.toList_inj.mp names)⟩

/-- One text does not tell two numbers of nanoseconds, not even in different units. -/
theorem Tells.unique {text : String} (tells : unit.Tells nanos text)
    (again : other.Tells otherNanos text) : unit = other ∧ nanos = otherNanos := by
  rcases tells with ⟨whole, part, digits, rfl, fraction, spelled⟩
  rcases again with ⟨otherWhole, otherPart, otherDigits, rfl, otherFraction, otherSpelled⟩
  rw [spelled] at otherSpelled
  rcases Text.append_inj_of_kind
    (fun _ => Nat.isDigit_of_mem_toDigits (by decide) (by decide))
    (fun _ => Nat.isDigit_of_mem_toDigits (by decide) (by decide))
    (isDigit_head?_pointed digits unit) (isDigit_head?_pointed otherDigits other) otherSpelled
    with ⟨wholes, rest⟩
  rcases pointed_append_inj fraction.within otherFraction.within rest with ⟨rfl, rfl⟩
  have sameWhole : whole = otherWhole := by
    apply Nat.repr_injective
    rw [← String.toList_inj, Nat.toList_repr, Nat.toList_repr, wholes]
  have samePart : part = otherPart := fraction.exact.symm.trans otherFraction.exact
  exact ⟨rfl, by rw [sameWhole, samePart]⟩

end TimeUnit

/-! ## The text form -/

/-- The text form is made from the nanoseconds. -/
theorem text_eq_written (duration : Duration) :
    duration.text = (TimeUnit.ofNanos duration.toNanos).written duration.toNanos := by
  rcases duration with ⟨secs, nanos, small⟩
  unfold text TimeUnit.ofNanos toNanos nanosPerSecond
  dsimp only
  by_cases seconds : 0 < secs.toNat
  · have large : 1000000000 ≤ secs.toNat * 1000000000 + nanos.toNat := by omega
    have whole : (secs.toNat * 1000000000 + nanos.toNat) / 10 ^ 9 = secs.toNat := by omega
    have part : (secs.toNat * 1000000000 + nanos.toNat) % 10 ^ 9 = nanos.toNat := by omega
    rw [if_pos seconds, if_pos large, TimeUnit.written, TimeUnit.places, whole, part]
    rfl
  · -- Without a whole second, the nanoseconds are all there is.
    have none : secs.toNat = 0 := Nat.eq_zero_of_not_pos seconds
    rw [if_neg seconds, none, Nat.zero_mul, Nat.zero_add, if_neg (Nat.not_le.mpr small)]
    by_cases millis : 1000000 ≤ nanos.toNat
    · rw [if_pos millis, if_pos millis]
      rfl
    · rw [if_neg millis, if_neg millis]
      by_cases micros : 1000 ≤ nanos.toNat
      · rw [if_pos micros, if_pos micros]
        rfl
      · rw [if_neg micros, if_neg micros, TimeUnit.written, TimeUnit.places, Nat.pow_zero,
          Nat.div_one, Nat.mod_one]
        rfl

/-- The text form of a duration tells its nanoseconds, in the unit that their number chooses. -/
theorem text_tells (duration : Duration) :
    (TimeUnit.ofNanos duration.toNanos).Tells duration.toNanos duration.text := by
  rw [text_eq_written]
  exact TimeUnit.tells_written _ _

/-- Different durations have different texts. -/
theorem text_injective : Function.Injective text := by
  intro first second same
  have tells := first.text_tells
  rw [same] at tells
  exact toNanos_injective (tells.unique second.text_tells).2

/-- A zero between other digits stays, and the unit changes with the last nanosecond. -/
example : (ofNanos 1050000000).text = "1.05s" ∧ (ofNanos 1000000).text = "1ms" ∧
    (ofNanos 999999).text = "999.999µs" ∧ (ofNanos 10).text = "10ns" := by
  decide

end Duration
end WhitespaceBench
