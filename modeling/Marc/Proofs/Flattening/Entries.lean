import Marc.Proofs.Distinct
import Marc.Proofs.Extraction.Passes
import Marc.Proofs.Text.Surroundings

/-!
# Index strings

A flattening (`to_array`, `to_array_trim`, `to_array_join` or `to_array_raw`) offers strings to a
list without repetitions: one for every value or one for every part of it, with its punctuation or
without. So the index strings are the first of equal trimmed strings. The empty string is passed
over before a string is trimmed, and not after; so a string of white space makes an empty index
string.

Results:
* `keepsFirst_apply`: what every flattening makes of what it offers (`KeepsFirst`).
* `flattenings_keep_first`: **the four flattenings keep the first of equal strings**, and so does
  any run of additions to any list.
* `Value.filled_of_mem_extract`: extraction yields no empty string.
* `empty_mem_apply_iff`: which values make an empty index string. `extract_empty_mem_iff`: **when an
  extracted value does**, in each of the four flattenings. `whiteTitle_listed`: a title of white
  space does in all of them.
-/

namespace Marc

open Text (trimmed IsWhite FramesBlank framesBlank_iff)
open Distinct (entries addAll)

namespace Flattening

/-! ## The first of equal strings -/

/-- A way to turn values into index strings that keeps the first of equal ones among the entries of
the strings that it is offered. -/
structure KeepsFirst (apply offered : List Value → List String) : Prop where
  eq : ∀ values, apply values = (entries (offered values)).eraseDups
  nodup : ∀ values, (apply values).Nodup
  trimmed : ∀ values, ∀ s ∈ apply values, trimmed s = s
  /-- More values at the end add index strings at the end. -/
  grows : ∀ values more, apply values <+: apply (values ++ more)
  /-- Values in another order yield the same index strings in another order. -/
  reorders : ∀ values others, values.Perm others → (apply values).Perm (apply others)

theorem candidates_perm (way : Flattening) {values others : List Value} (h : values.Perm others) :
    (way.candidates values).Perm (way.candidates others) := by
  unfold candidates
  exact (h.flatMap_right way.stringsOf).map way.clean

/-- What every flattening makes of its candidates. -/
theorem keepsFirst_apply (way : Flattening) : KeepsFirst way.apply way.candidates where
  eq values := Distinct.addAll_nil_left _
  nodup values := Distinct.nodup_addAll List.nodup_nil _
  trimmed values s hs := by
    unfold apply at hs
    rw [Distinct.mem_addAll, or_iff_right List.not_mem_nil] at hs
    exact Distinct.trimmed_of_mem_entries hs
  grows values more := by
    unfold apply
    rw [candidates_append, Distinct.addAll_append]
    exact Distinct.prefix_addAll _ _
  reorders values others h := by
    have hmem : ∀ s, s ∈ way.apply values ↔ s ∈ way.apply others := by
      intro s
      unfold apply
      rw [Distinct.mem_addAll, Distinct.mem_addAll, Distinct.mem_entries, Distinct.mem_entries]
      simp only [(candidates_perm way h).mem_iff]
    exact (List.perm_ext_iff_of_nodup (Distinct.nodup_addAll List.nodup_nil _)
      (Distinct.nodup_addAll List.nodup_nil _)).mpr hmem

theorem candidates_display :
    display.candidates = fun values => values.map fun value => Text.unpunctuated value.text := by
  funext values
  unfold candidates
  rw [List.map_flatMap]
  exact List.flatMap_pure_eq_map _ _

theorem candidates_parts :
    parts.candidates = fun values => (values.flatMap Value.strings).map Text.unpunctuated := rfl

theorem candidates_verbatim : verbatim.candidates = fun values => values.map Value.text := by
  funext values
  unfold candidates
  rw [List.map_flatMap]
  exact List.flatMap_pure_eq_map _ _

theorem candidates_raw : raw.candidates = fun values => values.flatMap Value.strings := by
  funext values
  exact List.map_id _

theorem apply_raw (values : List Value) :
    raw.apply values = (entries (values.flatMap Value.strings)).eraseDups := by
  rw [(keepsFirst_apply raw).eq, candidates_raw]

theorem mem_apply_raw {values : List Value} {s : String} :
    s ∈ raw.apply values ↔
      ∃ value ∈ values, ∃ t ∈ value.strings, t ≠ "" ∧ trimmed t = s := by
  rw [apply_raw, List.mem_eraseDups, Distinct.mem_entries]
  simp only [List.mem_flatMap]
  constructor
  · rintro ⟨t, ⟨value, hv, ht⟩, h⟩
    exact ⟨value, hv, t, ht, h⟩
  · rintro ⟨value, hv, t, ht, h⟩
    exact ⟨t, ⟨value, hv, ht⟩, h⟩

/-- **The four flattenings keep the first of equal strings**: of whole values or of their parts,
with punctuation taken off or not, those that are not empty, each trimmed. Strings added to any list
leave it as it is and put behind it what is new, once each; adding them again changes nothing. -/
theorem flattenings_keep_first :
    KeepsFirst display.apply (fun values => values.map fun value => Text.unpunctuated value.text) ∧
    KeepsFirst parts.apply (fun values => (values.flatMap Value.strings).map Text.unpunctuated) ∧
    KeepsFirst verbatim.apply (fun values => values.map Value.text) ∧
    KeepsFirst raw.apply (fun values => values.flatMap Value.strings) ∧
    ∀ list strings : List String, ∃ new, addAll list strings = list ++ new ∧ new.Nodup ∧
      (∀ s ∈ new, s ∉ list) ∧ addAll (addAll list strings) strings = addAll list strings := by
  refine ⟨?_, ?_, ?_, ?_, fun list strings => ?_⟩
  · exact candidates_display ▸ keepsFirst_apply display
  · exact candidates_parts ▸ keepsFirst_apply parts
  · exact candidates_verbatim ▸ keepsFirst_apply verbatim
  · exact candidates_raw ▸ keepsFirst_apply raw
  · exact ⟨_, Distinct.addAll_eq list strings, Distinct.nodup_eraseDups _,
      fun s hs => (Distinct.mem_removeAll.mp (List.mem_eraseDups.mp hs)).2,
      Distinct.addAll_of_subset fun s hs => Distinct.mem_addAll.mpr (.inr hs)⟩

/-- The title comes again without its punctuation and with spaces around, and is passed over. -/
example : display.apply [.direct "245" "Kokoro /", .direct "246" " Kokoro "] = ["Kokoro"] := by cbv

end Flattening

/-! ## Extracted strings are not empty -/

namespace Value

variable {value : Value}

/-- The value holds strings, and none that is empty. -/
def Filled (value : Value) : Prop := value.strings ≠ [] ∧ "" ∉ value.strings

theorem filled_direct {tag text : String} (h : text ≠ "") : (direct tag text).Filled :=
  ⟨List.cons_ne_nil _ _, fun hm => h (List.mem_singleton.mp hm).symm⟩

theorem filled_of_select? {field : Field} {spec : Spec} (h : select? field spec = some value) :
    value.Filled := by
  obtain ⟨hne, rfl⟩ := select?_eq_some.mp h
  refine ⟨fun hnil => hne (List.map_eq_nil_iff.mp hnil), fun hm => ?_⟩
  obtain ⟨part, hpart, hempty⟩ := List.mem_map.mp hm
  have hwanted := List.of_mem_filter hpart
  simp [hempty] at hwanted

/-- Extraction yields no empty string, and no value without any. -/
theorem filled_of_mem_extract {record : Record} {specs : List Spec}
    (h : value ∈ extract record specs) : value.Filled := by
  obtain ⟨spec, -, hdirect | ⟨field, -, hselect⟩⟩ := Extraction.mem_extract_cases h
  · obtain ⟨text, ht, rfl⟩ := List.mem_map.mp hdirect
    exact filled_direct (by simpa using List.of_mem_filter ht)
  · exact filled_of_select? hselect

theorem isWhite_append (a b : String) : IsWhite (a ++ b) ↔ IsWhite a ∧ IsWhite b := by
  unfold IsWhite
  rw [String.toList_append]
  exact List.forall_mem_append

/-- The whole text is white space exactly if all strings are: so are the spaces between them. -/
theorem isWhite_intercalate : ∀ strings : List String,
    IsWhite (" ".intercalate strings) ↔ ∀ s ∈ strings, IsWhite s
  | [] => by simp [IsWhite]
  | [s] => by simp
  | s :: next :: strings => by
    have hspace : IsWhite " " := List.forall_mem_singleton.mpr (by decide)
    rw [String.intercalate_cons_cons, isWhite_append, isWhite_append,
      isWhite_intercalate (next :: strings), and_iff_left hspace]
    exact List.forall_mem_cons.symm

theorem isWhite_text (value : Value) : IsWhite value.text ↔ ∀ s ∈ value.strings, IsWhite s :=
  isWhite_intercalate value.strings

theorem Filled.text_ne (h : value.Filled) : value.text ≠ "" := by
  have htext : value.text = " ".intercalate value.strings := rfl
  obtain ⟨hne, hempty⟩ := h
  rw [htext]
  generalize value.strings = strings at hne hempty
  rcases strings with _ | ⟨s, _ | ⟨next, strings⟩⟩
  · exact absurd rfl hne
  · rw [String.intercalate_singleton]
    exact fun hs => hempty (hs ▸ List.mem_cons_self)
  · rw [String.intercalate_cons_cons]
    intro hs
    simp at hs

end Value

/-! ## Empty index strings -/

namespace Flattening

/-- Which values make an empty index string. -/
theorem empty_mem_apply_iff (way : Flattening) (values : List Value) :
    "" ∈ way.apply values ↔ ∃ value ∈ values, ∃ s ∈ way.stringsOf value,
      way.clean s ≠ "" ∧ IsWhite (way.clean s) := by
  unfold apply
  rw [Distinct.mem_addAll, or_iff_right List.not_mem_nil, Distinct.mem_entries]
  simp only [Text.trimmed_eq_empty_iff, candidates, List.mem_map, List.mem_flatMap]
  constructor
  · rintro ⟨_, ⟨s, ⟨value, hv, hs⟩, rfl⟩, h⟩
    exact ⟨value, hv, s, hs, h⟩
  · rintro ⟨value, hv, s, hs, h⟩
    exact ⟨_, ⟨s, ⟨value, hv, hs⟩, rfl⟩, h⟩

/-- Stripping leaves white space of a string, and not the empty string, exactly if the string frames
white space. -/
theorem isWhite_unpunctuated_iff (s : String) :
    Text.unpunctuated s ≠ "" ∧ IsWhite (Text.unpunctuated s) ↔ FramesBlank s.toList := by
  rw [framesBlank_iff, ← Text.toList_unpunctuated, ne_eq, ne_eq, String.toList_eq_nil_iff]
  rfl

/-- **When an extracted value makes an empty index string.** Its strings are not empty, so that is
up to white space: where punctuation stays, a part of nothing but white space, or a value of nothing
else; where it is taken off, a part or value of white space in brackets or in front of a trailer. In
the same way the empty string comes into any list that starts empty, in however many calls values
are added. -/
theorem extract_empty_mem_iff (record : Record) (specs : List Spec) (calls : List (List String)) :
    ("" ∈ display.apply (extract record specs) ↔
      ∃ value ∈ extract record specs, FramesBlank value.text.toList) ∧
    ("" ∈ parts.apply (extract record specs) ↔
      ∃ value ∈ extract record specs, ∃ s ∈ value.strings, FramesBlank s.toList) ∧
    ("" ∈ verbatim.apply (extract record specs) ↔
      ∃ value ∈ extract record specs, ∀ s ∈ value.strings, IsWhite s) ∧
    ("" ∈ raw.apply (extract record specs) ↔
      ∃ value ∈ extract record specs, ∃ s ∈ value.strings, IsWhite s) ∧
    ("" ∈ calls.foldl addAll [] ↔
      ∃ values ∈ calls, ∃ value ∈ values, value ≠ "" ∧ IsWhite value) := by
  refine ⟨?_, ?_, ?_, ?_, Distinct.empty_mem_foldl_addAll calls⟩
  · rw [empty_mem_apply_iff]
    refine exists_congr fun value => and_congr_right fun _ => ?_
    rw [← isWhite_unpunctuated_iff]
    simp [stringsOf, clean, display]
  · rw [empty_mem_apply_iff]
    refine exists_congr fun value => and_congr_right fun _ => exists_congr fun s => ?_
    rw [← isWhite_unpunctuated_iff]
    simp [stringsOf, clean, parts]
  · rw [empty_mem_apply_iff]
    refine exists_congr fun value => and_congr_right fun hm => ?_
    have hne := (Value.filled_of_mem_extract hm).text_ne
    rw [← Value.isWhite_text]
    simp [stringsOf, clean, verbatim, hne]
  · rw [empty_mem_apply_iff]
    refine exists_congr fun value => and_congr_right fun hm => exists_congr fun s => ?_
    refine and_congr_right fun hs => and_iff_right ?_
    rintro rfl
    exact (Value.filled_of_mem_extract hm).2 hs

/-- A title of an ideographic space. -/
def whiteTitle : Record := [(Field.empty "245" ' ' ' ').withSubfields [⟨'a', "\u3000"⟩]]

/-- A title of white space makes an empty index string in every flattening: whether a string is
empty is looked at before it is trimmed. -/
theorem whiteTitle_listed :
    (¬ ∀ (record : Record) (specs : List Spec) (way : Flattening),
      "" ∉ way.apply (extract record specs)) ∧
    ¬ ∀ calls : List (List String), "" ∉ calls.foldl addAll [] := by
  refine ⟨fun h => ?_, fun h => ?_⟩
  · exact h whiteTitle [⟨"245", ['a']⟩] display (by decide)
  · exact h [["\u3000"]] (by decide)

end Flattening

end Marc
