import WhitespaceBench.Harness
import WhitespaceBench.Logging.Line
import WhitespaceBench.Proofs.DefaultsText
import WhitespaceBench.Proofs.DurationText

namespace WhitespaceBench

/-!
# The lines of a report tell the report

The textual report is meant for a reader, but nothing is lost in it: each field of a report is
told by one of its lines, in full.  The rates, which are rounded, stand on lines of their own and
are not needed.  Neither is the time at which a line is logged.  It holds no blank, so that what
is logged can be told from when it was logged.
-/

/-! ## Fields and lines -/

theorem toString_flag_injective : Function.Injective (toString : Bool -> String) := by
  intro first second
  cases first <;> cases second <;> decide

/-- The labels around the fields are fixed, so that lines with the same texts show the same
fields. -/
theorem Report.eq_of_lines {first second : Report}
    (same : first.lines.map ReportLine.text = second.lines.map ReportLine.text) :
    first = second := by
  simp only [Report.lines, List.map_cons, List.map_nil, List.cons.injEq] at same
  rcases same with ⟨title, buffer, parallel, iterations, total, _, _, whitespace, _⟩
  unfold ReportLine.text at title buffer parallel iterations total whitespace
  rw [String.append_left_inj, String.append_right_inj] at title buffer
  rw [String.append_right_inj] at parallel iterations total whitespace
  have modes := ScanMode.name_injective title
  have flags := toString_flag_injective parallel
  have lengths := UInt64.toNat_inj.mp (Nat.repr_injective buffer)
  have counts := UInt32.toNat_inj.mp (Nat.repr_injective iterations)
  have totals := Duration.text_injective total
  have hits := UInt64.toNat_inj.mp (Nat.repr_injective whitespace)
  cases first
  cases second
  rw [Report.mk.injEq]
  exact ⟨modes, flags, lengths, counts, totals, hits⟩

/-! ## Logged lines -/

@[simp] theorem Event.text_reported (line : ReportLine) :
    (Event.reported line).text = Level.info.name ++ " " ++ line.text := by
  have plain : (Event.reported line).fieldText = "" := rfl
  rw [Event.text, plain, String.append_empty]
  rfl

namespace Logging

theorem blank_not_mem_padded (width number : Nat) : ' ' ∉ (padded width number).toList := by
  rw [padded, String.toList_append, String.toList_ofList, Nat.toString_eq_repr, Nat.toList_repr,
    List.mem_append]
  rintro (filler | digit)
  · exact absurd (List.eq_of_mem_replicate filler) (by decide)
  · exact absurd (Nat.isDigit_of_mem_toDigits (by decide) (by decide) digit) (by decide)

theorem blank_not_mem_timeText (micros : Nat) : ' ' ∉ (timeText micros).toList := by
  unfold timeText
  dsimp only
  generalize civilDate (epochDays + micros / 1000000 / 86400) = date
  rcases date with ⟨year, month, day⟩
  simp only [String.toList_append, List.mem_append, blank_not_mem_padded, false_or, or_false]
  decide

/-- What is logged behind the time of a line of the report and the blank that ends it. -/
def untimed (line : ReportLine) : String :=
  String.ofList (List.replicate (5 - Level.info.name.length) ' ') ++ Level.info.name ++ " " ++
    line.text

@[simp] theorem toList_line_reported (micros : Nat) (line : ReportLine) :
    (Logging.line micros (.reported line)).toList =
      (timeText micros).toList ++ ' ' :: (untimed line).toList := by
  have level : (Event.reported line).level = Level.info := rfl
  have message : (Event.reported line).message = line.text := rfl
  have plain : (Event.reported line).fieldText = "" := rfl
  unfold Logging.line untimed
  rw [level, message, plain, String.append_empty]
  simp only [String.toList_append, List.append_assoc]
  rfl

/-- Two events that may be logged as the same line, each at some time. -/
def LookAlike (event other : Event) : Prop :=
  exists micros otherMicros, line micros event = line otherMicros other

theorem text_eq_of_lookAlike {line other : ReportLine}
    (alike : LookAlike (.reported line) (.reported other)) : line.text = other.text := by
  rcases alike with ⟨micros, otherMicros, same⟩
  have spelled := congrArg String.toList same
  rw [toList_line_reported, toList_line_reported] at spelled
  have timed : forall micros character, character ∈ (timeText micros).toList ->
      (character != ' ') = true := by
    intro micros character member
    rw [bne_iff_ne]
    rintro rfl
    exact blank_not_mem_timeText micros member
  rcases Text.append_inj_of_kind (timed micros) (timed otherMicros) (by rintro _ ⟨⟩; rfl)
    (by rintro _ ⟨⟩; rfl) spelled with ⟨_, behind⟩
  exact (String.append_right_inj _).mp (String.toList_inj.mp (List.cons.inj behind).2)

end Logging

namespace Report

/-- Any likeness of events that keeps the texts of lines apart keeps reports apart. -/
theorem eq_of_alike {alike : Event -> Event -> Prop}
    (keeps : forall line other, alike (.reported line) (.reported other) -> line.text = other.text)
    {first second : Report} (events : List.Forall₂ alike first.events second.events) :
    first = second := by
  rw [Report.events, Report.events, List.forall₂_map_left_iff, List.forall₂_map_right_iff] at events
  apply eq_of_lines
  rw [← List.forall₂_eq_eq_eq, List.forall₂_map_left_iff, List.forall₂_map_right_iff]
  exact events.imp keeps

theorem eq_of_map_text {first second : Report}
    (same : first.events.map Event.text = second.events.map Event.text) : first = second := by
  rw [← List.forall₂_eq_eq_eq, List.forall₂_map_left_iff, List.forall₂_map_right_iff] at same
  refine eq_of_alike (fun line other texts => ?_) same
  rw [Event.text_reported, Event.text_reported] at texts
  exact (String.append_right_inj _).mp texts

/-- The object that a report is written to tells it, since it can be read back. -/
theorem json_injective : Function.Injective json := by
  intro first second same
  have read := ofJson_json first
  rw [same, ofJson_json] at read
  exact (Except.ok.inj read).symm

/-- The lines of the textual report tell as much as the object that is written in its place:
reports for which all lines are the same are the same report, and so are reports whose lines may
be logged alike, at whatever times.  As to the total, the text of a duration is its exact number
of nanoseconds in the unit that fits their size, and different durations have different texts. -/
theorem lines_tell_report :
    (forall first second : Report,
      (first.events.map Event.text = second.events.map Event.text <-> first = second) ∧
      (List.Forall₂ Logging.LookAlike first.events second.events <-> first = second) ∧
      (first.json = second.json <-> first = second)) ∧
    (forall duration : Duration,
      (Duration.TimeUnit.ofNanos duration.toNanos).Tells duration.toNanos duration.text) ∧
    Function.Injective Duration.text := by
  refine ⟨fun first second => ⟨⟨eq_of_map_text, fun same => ?_⟩, ⟨?_, fun same => ?_⟩,
    json_injective.eq_iff⟩, Duration.text_tells, Duration.text_injective⟩
  · rw [same]
  · exact eq_of_alike fun _ _ => Logging.text_eq_of_lookAlike
  · rw [same, List.forall₂_same]
    exact fun _ _ => ⟨0, 0, rfl⟩

end Report
end WhitespaceBench
