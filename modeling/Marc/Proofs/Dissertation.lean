import Marc.Bibliographic
import Marc.Proofs.Extraction.Alone
import Marc.Proofs.Flattening.Entries
import Marc.Proofs.Text.Search

/-!
# The notes on a thesis

`is_dissertation` looks for the marker in index strings: the notes as they were selected, trimmed
and listed once each, in lower case. A marker without white space at its ends is found there exactly
when it is found in a note as it stands in the record. This is not clear of itself: a trimmed note
ends elsewhere, and the lower-case form of a sigma depends on whether the word ends.

Results:
* `strings_thesisNotes`: the strings that extraction yields for the notes, and their order.
* `exists_note_iff`: **trimming and listing once hide no marker**, and make none.
* `isDissertation_iff_raw`: **which records describe a thesis** of the library's institution, by the
  strings as they stand.
-/

namespace Marc

open Text

variable {record : Record} {settings : Settings} {marker : List Char}

/-! ## The notes -/

/-- The spec of the notes on a thesis: what they say, and the institution. -/
def thesisNote : Spec := ⟨"502", ['a', 'c']⟩

/-- The notes on a thesis: the subfields 502$a and 502$c in the order of the record, and then those
of the fields that are linked with them. An empty subfield is no note. -/
def thesisNotes (record : Record) : List String :=
  (record.withTag "502" ++ Extraction.linkedFields record thesisNote).flatMap fun field =>
    (field.subfields.filter fun part =>
      (part.code = 'a' ∨ part.code = 'c') ∧ part.value ≠ "").map Subfield.value

theorem strings_thesisNotes (record : Record) :
    (extractText record "502ac").flatMap Value.strings = thesisNotes record := by
  have hcompile : Spec.compile "502ac" = [thesisNote] := by decide
  have hwants : ∀ code, thesisNote.wants code = decide (code = 'a' ∨ code = 'c') := by
    intro code
    rw [Bool.eq_iff_iff]
    simp [thesisNote, Spec.wants]
  have hselection : ∀ field : Field, Value.selection field thesisNote =
      field.subfields.filter fun part => (part.code = 'a' ∨ part.code = 'c') ∧ part.value ≠ "" := by
    intro field
    refine List.filter_congr fun part _ => ?_
    rw [hwants, Bool.eq_iff_iff]
    simp
  unfold extractText thesisNotes
  rw [hcompile, Extraction.extract_singleton_eq_selectAll rfl, Extraction.strings_selectAll]
  exact List.flatMap_congr fun field _ => congrArg (List.map Subfield.value) (hselection field)

/-- A note in field 502 is one of the notes, unless it is empty. -/
theorem mem_thesisNotes {field : Field} {s : String} (hfield : field ∈ record.withTag "502")
    (hs : s ∈ field.valuesFor 'a' ++ field.valuesFor 'c') (hne : s ≠ "") :
    s ∈ thesisNotes record := by
  have hpart : ∃ part ∈ field.subfields, (part.code = 'a' ∨ part.code = 'c') ∧ part.value = s := by
    simp only [Field.valuesFor, Content.valuesFor, List.mem_append, List.mem_map, List.mem_filter,
      beq_iff_eq] at hs
    rcases hs with ⟨part, ⟨hm, hcode⟩, hvalue⟩ | ⟨part, ⟨hm, hcode⟩, hvalue⟩
    · exact ⟨part, hm, .inl hcode, hvalue⟩
    · exact ⟨part, hm, .inr hcode, hvalue⟩
  obtain ⟨part, hm, hcode, rfl⟩ := hpart
  refine List.mem_flatMap.mpr ⟨field, List.mem_append_left _ hfield, ?_⟩
  exact List.mem_map_of_mem (List.mem_filter.mpr ⟨hm, by simp [hcode, hne]⟩)

/-! ## The marker -/

/-- What is looked for in the notes: the marker in lower case. -/
def Settings.markerText (settings : Settings) : List Char :=
  toLower settings.dissertationMarker.toList

/-- The note holds the text, in any case. -/
def Mentions (marker : List Char) (note : String) : Prop := marker <:+: toLower note.toList

instance (marker : List Char) (note : String) : Decidable (Mentions marker note) :=
  decidable_of_iff _ holds_iff

theorem mentions_trimmed_iff (h : Solid marker) (note : String) :
    Mentions marker (trimmed note) ↔ Mentions marker note := by
  unfold Mentions
  rw [toList_trimmed, infix_toLower_trim_iff h]

/-- Nothing is found in the empty string. -/
theorem Mentions.ne_empty {note : String} (hm : Mentions marker note) (h : Solid marker) :
    note ≠ "" := by
  rintro rfl
  exact h.ne_nil (List.infix_nil.mp hm)

/-- **Trimming and listing once hide no marker** in the strings of values, and make none. -/
theorem exists_note_iff (h : Solid marker) (values : List Value) :
    (∃ note ∈ Flattening.raw.apply values, Mentions marker note) ↔
      ∃ value ∈ values, ∃ s ∈ value.strings, Mentions marker s := by
  simp only [Flattening.mem_apply_raw]
  constructor
  · rintro ⟨_, ⟨value, hv, s, hs, -, rfl⟩, hm⟩
    exact ⟨value, hv, s, hs, (mentions_trimmed_iff h s).mp hm⟩
  · rintro ⟨value, hv, s, hs, hm⟩
    exact ⟨trimmed s, ⟨value, hv, s, hs, hm.ne_empty h, rfl⟩, (mentions_trimmed_iff h s).mpr hm⟩

theorem isDissertation_iff :
    isDissertation record settings = true ↔ settings.markerText ≠ [] ∧
      ∃ note ∈ Flattening.raw.apply (extractText record "502ac"),
        Mentions settings.markerText note := by
  unfold isDissertation
  simp only [Bool.and_eq_true, Bool.not_eq_true', List.isEmpty_eq_false_iff, List.any_eq_true,
    holds_iff]
  rfl

/-- **Which records describe a thesis** of the library's institution: those with a note that holds
the marker, in any case, as it stands in the record. For this the marker may not begin or end with
white space. The notes are those of field 502, and then those of the linked fields. Without a marker
there is no such record. -/
theorem isDissertation_iff_raw (record : Record) (settings : Settings) :
    (Solid settings.markerText →
      (isDissertation record settings = true ↔
        ∃ value ∈ extractText record "502ac", ∃ s ∈ value.strings,
          Mentions settings.markerText s) ∧
      ∀ field ∈ record.withTag "502", ∀ s ∈ field.valuesFor 'a' ++ field.valuesFor 'c',
        Mentions settings.markerText s → isDissertation record settings = true) ∧
    (extractText record "502ac").flatMap Value.strings = thesisNotes record ∧
    (settings.dissertationMarker = "" → isDissertation record settings = false) := by
  refine ⟨fun h => ?_, strings_thesisNotes record, isDissertation_of_empty_marker⟩
  have hraw : isDissertation record settings = true ↔
      ∃ value ∈ extractText record "502ac", ∃ s ∈ value.strings,
        Mentions settings.markerText s := by
    rw [isDissertation_iff, and_iff_right h.ne_nil, exists_note_iff h]
  refine ⟨hraw, fun field hfield s hs hm => hraw.mpr ?_⟩
  have hnote := mem_thesisNotes hfield hs (hm.ne_empty h)
  rw [← strings_thesisNotes, List.mem_flatMap] at hnote
  obtain ⟨value, hv, hs⟩ := hnote
  exact ⟨value, hv, s, hs, hm⟩

/-- The name of the institution ends the Greek note on the thesis, with white space behind it; the
note in field 502 does not hold it. -/
def greekThesis : Record :=
  [(Field.empty "502" ' ' ' ').withSubfields [⟨'6', "880-01"⟩, ⟨'a', "Thesis (Ph. D.)"⟩, ⟨'c', ""⟩],
   (Field.empty "880" ' ' ' ').withSubfields
     [⟨'6', "502-01/$1"⟩, ⟨'c', "ΠΑΝΕΠΙΣΤΗΜΙΟ ΑΘΗΝΑΣ\u3000"⟩]]

theorem isDissertation_iff_raw_athens :
    thesisNotes greekThesis = ["Thesis (Ph. D.)", "ΠΑΝΕΠΙΣΤΗΜΙΟ ΑΘΗΝΑΣ\u3000"] ∧
      (Settings.standard.withMarker "ΑΘΗΝΑΣ").markerText = "αθηνας".toList ∧
      isDissertation greekThesis (Settings.standard.withMarker "ΑΘΗΝΑΣ") = true ∧
      isDissertation greekThesis (Settings.standard.withMarker "") = false := by
  have hnotes : thesisNotes greekThesis = ["Thesis (Ph. D.)", "ΠΑΝΕΠΙΣΤΗΜΙΟ ΑΘΗΝΑΣ\u3000"] := by
    decide
  have hmarker : (Settings.standard.withMarker "ΑΘΗΝΑΣ").markerText = "αθηνας".toList := by
    decide +kernel
  have hsolid : Solid (Settings.standard.withMarker "ΑΘΗΝΑΣ").markerText := by
    rw [hmarker]
    decide
  have hmentions : Mentions "αθηνας".toList "ΠΑΝΕΠΙΣΤΗΜΙΟ ΑΘΗΝΑΣ\u3000" := by decide +kernel
  obtain ⟨hfound, hstrings, -⟩ := isDissertation_iff_raw greekThesis
    (Settings.standard.withMarker "ΑΘΗΝΑΣ")
  obtain ⟨-, -, hempty⟩ := isDissertation_iff_raw greekThesis (Settings.standard.withMarker "")
  refine ⟨hnotes, hmarker, (hfound hsolid).1.mpr ?_, hempty rfl⟩
  have hs : "ΠΑΝΕΠΙΣΤΗΜΙΟ ΑΘΗΝΑΣ\u3000" ∈
      (extractText greekThesis "502ac").flatMap Value.strings := by
    rw [hstrings, hnotes]
    exact List.mem_cons_of_mem _ List.mem_cons_self
  obtain ⟨value, hv, hs⟩ := List.mem_flatMap.mp hs
  refine ⟨value, hv, _, hs, ?_⟩
  rw [hmarker]
  exact hmentions

end Marc
