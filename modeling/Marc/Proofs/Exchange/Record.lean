import Marc.Proofs.Exchange.FieldObject
import Marc.Proofs.Json.RoundTrip

/-!
# Reading a record from its text

A field whose tag is neither empty nor three characters long can be written, but `from_json` does
not read it. Every other field is read as it was written, with the kind of its content.

* `Field.decode_toJson`: one field, by way of the draft that it leaves behind (`Field.draftOf`).
* `Record.complete_toJson`: a text can hold the whole record.
* `Record.wellTagged_of_ofText`: **only well tagged fields are ever read.**
* `Record.ofText_toText`: **a record is read as it was written, or fails with its first field with
  a bad tag.**
-/

namespace Marc

open Json (Complete)

namespace Subfield

theorem writtenAs_toJson (part : Subfield) : part.WrittenAs (toJson part) :=
  .object { once := by simp, code := rfl, value := rfl }

theorem complete_toJson (part : Subfield) : Complete (toJson part) := by
  refine .record fun member hmember => ?_
  simp only [List.mem_cons, List.not_mem_nil, or_false] at hmember
  rcases hmember with rfl | rfl <;> exact .text _

end Subfield

namespace Field

/-- A tag that a field can be read with. -/
def WellTagged (field : Field) : Prop := field.tag.length = 0 ∨ field.tag.length = 3

instance : DecidablePred WellTagged := fun field =>
  inferInstanceAs (Decidable (field.tag.length = 0 ∨ field.tag.length = 3))

/-- What is read of a field that was written. -/
def draftOf (field : Field) : Draft :=
  { systemTag := some field.systemTag
    tag := some field.tag
    indicator1 := some (String.singleton field.indicator1)
    indicator2 := some (String.singleton field.indicator2)
    subfields :=
      match field.content with
      | .direct _ => none
      | .subfields parts => some (some parts)
    content := field.content.direct?.map some }

theorem writtenAs_toJson (field : Field) : (draftOf field).WrittenAs (toJson field) := by
  obtain ⟨systemTag, tag, indicator1, indicator2, content⟩ := field
  cases content with
  | direct value => exact .object ⟨by simp, rfl, rfl, rfl, rfl, .missing, rfl⟩
  | subfields parts =>
    have hparts : List.Forall₂ Subfield.WrittenAs parts (parts.map Subfield.toJson) :=
      List.forall₂_map_right_iff.mpr (List.forall₂_same.mpr fun part _ => part.writtenAs_toJson)
    exact .object ⟨by simp, rfl, rfl, rfl, rfl, .list hparts, rfl⟩

theorem mistagged_draftOf (field : Field) : (draftOf field).Mistagged ↔ ¬ field.WellTagged := by
  simp [draftOf, Draft.Mistagged, WellTagged]

/-- A field holds a direct value or subfields, so its draft is never mixed. -/
theorem not_mixed_draftOf (field : Field) : ¬ (draftOf field).Mixed := by
  obtain ⟨systemTag, tag, indicator1, indicator2, content⟩ := field
  cases content <;> simp [draftOf, Draft.Mixed, Content.direct?]

theorem field_draftOf (field : Field) : (draftOf field).field = field := by
  obtain ⟨systemTag, tag, indicator1, indicator2, content⟩ := field
  cases content with
  | subfields parts => simp [draftOf, Draft.field, Draft.made, Content.direct?]
  | direct value =>
    by_cases hvalue : value = "" <;>
      simp [draftOf, Draft.field, Draft.made, Content.direct?, hvalue]

/-- **A written field is read again, unless its tag is bad.** -/
theorem decode_toJson (field : Field) :
    decode (toJson field) =
      if ¬ field.WellTagged then .error (.refused (.tagWidth field.tag)) else .ok field := by
  rw [Draft.decode_of_writtenAs field.writtenAs_toJson, Draft.ofDraft_eq, field_draftOf]
  by_cases h : field.WellTagged
  · rw [if_neg (by simp [mistagged_draftOf, not_mixed_draftOf, h]), if_neg (not_not.mpr h)]
  · have hbad : (draftOf field).Mistagged := field.mistagged_draftOf.mpr h
    rw [if_pos (.inl hbad), if_pos h, Draft.fault, if_pos hbad]
    rfl

theorem complete_toJson (field : Field) : Complete (toJson field) := by
  obtain ⟨systemTag, tag, indicator1, indicator2, content⟩ := field
  refine .record fun member hmember => ?_
  cases content with
  | direct value =>
    simp only [List.mem_cons, List.not_mem_nil, or_false] at hmember
    rcases hmember with rfl | rfl | rfl | rfl | rfl <;> exact .text _
  | subfields parts =>
    simp only [List.mem_cons, List.not_mem_nil, or_false] at hmember
    rcases hmember with rfl | rfl | rfl | rfl | rfl
    iterate 4 exact .text _
    refine .list fun item hitem => ?_
    obtain ⟨part, -, rfl⟩ := List.mem_map.mp hitem
    exact part.complete_toJson

theorem wellTagged_of_ofDraft {draft : Draft} {field : Field} (h : ofDraft draft = .ok field) :
    field.WellTagged := by
  unfold ofDraft at h
  split at h
  · exact nomatch h
  · rename_i made hmade
    obtain ⟨htag, hfield⟩ := ofParts_eq_ok.mp hmade
    have hmadeTag : made.WellTagged := by
      rcases hfield with ⟨-, rfl⟩ | ⟨_, -, -, rfl⟩ <;> exact htag
    split at h <;> obtain rfl := Except.ok.inj h <;> exact hmadeTag

end Field

namespace Record

theorem complete_toJson (record : Record) : Complete (toJson record) := by
  refine .list fun item hitem => ?_
  obtain ⟨field, -, rfl⟩ := List.mem_map.mp hitem
  exact field.complete_toJson

/-- **Only well tagged fields are ever read.** -/
theorem wellTagged_of_ofText {text : String} {record : Record} (h : ofText text = .ok record) :
    ∀ field ∈ record, field.WellTagged := by
  intro field hf
  obtain ⟨hdecode, -⟩ := Json.decodeText_eq_ok.mp h
  obtain ⟨item, hitem⟩ := Json.decodeList_eq_ok hdecode field hf
  obtain ⟨draft, hdraft⟩ := Json.decodeRecord_eq_ok hitem
  exact Field.wellTagged_of_ofDraft hdraft

/-- What is read of a written record: the first field with a bad tag is what it fails with. -/
theorem ofText_toText_eq (record : Record) :
    ofText record.toText =
      match record.find? (¬ Field.WellTagged ·) with
      | none => .ok record
      | some field => .error (.refused (.tagWidth field.tag)) := by
  have hitems : List.Forall₂ (fun (field : Field) item => Field.decode item =
      if ¬ field.WellTagged then .error (.refused (.tagWidth field.tag)) else .ok field)
      record (record.map Field.toJson) :=
    List.forall₂_map_right_iff.mpr (List.forall₂_same.mpr fun field _ => field.decode_toJson)
  unfold ofText toText
  rw [Json.decodeText_print decode (complete_toJson record)]
  refine (Json.decodeList_list _ _).trans ((Json.decodeItems_forall₂ hitems).trans ?_)
  cases record.find? (¬ Field.WellTagged ·) <;> simp

/-- **A record is read as it was written, or fails with its first field with a bad tag.** So a
record that was read is not changed by writing and reading it again. -/
theorem ofText_toText :
    (∀ record : Record, ofText record.toText =
      match record.find? (¬ Field.WellTagged ·) with
      | none => .ok record
      | some field => .error (.refused (.tagWidth field.tag))) ∧
    ∀ (text : String) (record : Record),
      ofText text = .ok record → ofText record.toText = .ok record := by
  refine ⟨ofText_toText_eq, fun text record h => ?_⟩
  have hnone : record.find? (¬ Field.WellTagged ·) = none :=
    List.find?_eq_none.mpr fun field hf => by simp [wellTagged_of_ofText h field hf]
  rw [ofText_toText_eq, hnone]

/-- A field with nothing but its tag is read as a control field with an empty value, and is
written as one. -/
theorem ofText_toText_tagOnly :
    ofText "[\x7b\"marcTag\": \"LDR\"\x7d]" = .ok [Field.control "LDR" ""] ∧
      ofText (toText [Field.control "LDR" ""]) = .ok [Field.control "LDR" ""] :=
  have h : ofText "[\x7b\"marcTag\": \"LDR\"\x7d]" = .ok [Field.control "LDR" ""] :=
    Json.eq_ok_of_toOption (by decide +kernel)
  ⟨h, ofText_toText.2 _ _ h⟩

end Record

end Marc
