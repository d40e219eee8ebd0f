import Marc.Proofs.PublicationYear

/-!
# Field 008 when it is repeated

`infer_year` makes the year of the bytes up to the fifteenth. A record should have one field 008;
where it has more, their values are read as one text, one behind the other. The dates are those of
the first field then, as long as it reaches to the end of the second date. That holds of any text:
where a cut would split a character, what follows does not mend it.

Results:
* `read?_append`: **the dates do not depend on what follows** the fifteenth byte.
* `head?_directValues`: the first direct value under a tag is that of the first control field.
* `year_of_first_field`: the year of a text with more behind it, and of a record with more fields.
-/

namespace Marc

open Text

namespace Dates

theorem read?_append {text : List Char} (h : 15 ≤ byteLength text) (more : List Char) :
    read? (text ++ more) = read? text := by
  unfold read?
  rw [byteSlice_append_of_le (by decide) (by omega), byteSlice_append_of_le (by decide) (by omega),
    byteSlice_append_of_le (by decide) h]

theorem yearOf008?_append {s : String} (h : 15 ≤ s.utf8ByteSize) (t : String) (tolerance : Int) :
    yearOf008? (s ++ t) tolerance = yearOf008? s tolerance := by
  rw [← byteLength_toList] at h
  unfold yearOf008?
  rw [String.toList_append, read?_append h]

end Dates

/-! ## Several fields with one tag -/

namespace Record

theorem findSome?_direct? : ∀ fields : List Field,
    fields.findSome? Field.direct? = (fields.find? Field.isControl).bind Field.direct?
  | [] => rfl
  | field :: fields => by
    have hcontrol : field.isControl = field.direct?.isSome := rfl
    rw [List.findSome?_cons, List.find?_cons, findSome?_direct? fields, hcontrol]
    cases hvalue : field.direct? with
    | none => rfl
    | some value => exact hvalue.symm

/-- The first direct value under a tag is that of the first control field with the tag. -/
theorem head?_directValues (record : Record) (tag : String) :
    (record.directValues tag).head? =
      ((record.withTag tag).find? Field.isControl).bind Field.direct? := by
  unfold directValues
  rw [List.head?_filterMap, findSome?_direct?]

end Record

/-- A text of several values begins with the first of them. -/
theorem exists_intercalate_cons (value : String) (values : List String) :
    ∃ more, " ".intercalate (value :: values) = value ++ more := by
  cases values with
  | nil => exact ⟨"", by simp⟩
  | cons next values => exact ⟨_, by rw [String.intercalate_cons_cons, String.append_assoc]⟩

/-- **Nothing behind the fifteenth byte matters for the year**, whatever characters the bytes belong
to. So of several fields 008 the first control field decides alone, if it is that long. -/
theorem year_of_first_field :
    (∀ (s t : String) (tolerance : Int), 15 ≤ s.utf8ByteSize →
      yearOf008? (s ++ t) tolerance = yearOf008? s tolerance) ∧
    ∀ (record : Record) (field : Field) (value : String) (tolerance : Int),
      (record.withTag "008").find? Field.isControl = some field → field.direct? = some value →
      15 ≤ value.utf8ByteSize →
      yearOf008? (record.directText "008") tolerance = yearOf008? value tolerance := by
  refine ⟨fun s t tolerance h => Dates.yearOf008?_append h t tolerance, ?_⟩
  intro record field value tolerance hfield hvalue hlen
  have hhead : (record.directValues "008").head? = some value := by
    rw [Record.head?_directValues, hfield, Option.bind_some, hvalue]
  obtain ⟨values, hvalues⟩ := List.head?_eq_some_iff.mp hhead
  obtain ⟨more, hmore⟩ := exists_intercalate_cons value values
  unfold Record.directText
  rw [hvalues, hmore]
  exact Dates.yearOf008?_append hlen more tolerance

/-- Two fields 008, of which the first has a character of two bytes over the end of its second
date. -/
def repeated008 : Record := [.control "008" "061108p1999198é", .control "008" "061108s2001"]

theorem year_of_first_field_split :
    15 ≤ "061108p1999198é".utf8ByteSize ∧
      yearOf008? ("061108p1999198é" ++ "0") 15 = yearOf008? "061108p1999198é" 15 ∧
      yearOf008? (repeated008.directText "008") 15 = yearOf008? "061108p1999198é" 15 ∧
      yearOf008? "061108p1999198é" 15 = some 1999 := by
  have hlen : 15 ≤ "061108p1999198é".utf8ByteSize := by decide
  obtain ⟨happend, hrecord⟩ := year_of_first_field
  exact ⟨hlen, happend _ "0" 15 hlen, hrecord repeated008 _ _ 15 rfl rfl hlen, by decide⟩

/-- Of a text that is shorter, what follows can complete the second date. -/
example : yearOf008? "061108p1999198" 15 = some 1999 ∧
    yearOf008? ("061108p1999198" ++ "0") 15 = some 1980 := by decide

end Marc
