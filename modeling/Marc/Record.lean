import Marc.Text.Quoted

/-!
# Fields and records

A catalogue record is the list of its fields in the order of the data, and every reading of a record
keeps that order. The content of a field is either one direct value, whose characters count by
position (control fields and the leader), or a list of subfields in the order of the data. The two
never occur together: `Content` has no case for it, and `Field.ofParts` refuses parts that hold
both.

Model of `Subfield`, `FieldContent`, `Field` and `Record`.

* The system tag of a field is its `field_tag`. `Field.ofParts` is `from_parts`, `addSubfield` is
  `add_subfield`, `withSubfields` is `subfield` of a `FieldBuilder`, `withSystemTag` is
  `with_field_tag`; `Field.Fault` holds their errors `Validation` and `InvalidField`.
* `direct?` is `direct_value`, `valuesFor` is `subfields_by_code`, `first?` is `get_subfield`,
  `text` is `value` and `linkage?` is `linkage`.
* `Record.withTag` is `fields_by_tag`; `directValues` and `directText` are `control_values` and
  `control_value`; `systemValue` is `content_for_field_tag`, and `hasMarc` is `has_marc`.

Results:
* `Field.ofParts_eq_ok`: which parts make a field, and which field they make.
* `Record.mem_withTag`: the fields that `withTag` finds.
-/

namespace Marc

/-! ## Fields -/

/-- One part of a field, under a code of one character. -/
structure Subfield where
  code : Char
  value : String
  deriving DecidableEq

/-- What a field holds. -/
inductive Content where
  | direct (value : String)
  | subfields (parts : List Subfield)
  deriving DecidableEq

namespace Content

/-- The direct value, if there is one. -/
def direct? : Content → Option String
  | .direct value => some value
  | .subfields _ => none

/-- The subfields in the order of the data; a direct value has none. -/
def parts : Content → List Subfield
  | .direct _ => []
  | .subfields parts => parts

/-- The values of the subfields with the given code, in the order of the data. -/
def valuesFor (content : Content) (code : Char) : List String :=
  (content.parts.filter fun part => part.code == code).map Subfield.value

/-- The single values, in the order of the data. -/
def values : Content → List String
  | .direct value => [value]
  | .subfields parts => parts.map Subfield.value

/-- All values as one text, with a space between two. -/
def text (content : Content) : String := " ".intercalate content.values

end Content

/-- One occurrence of a field. `systemTag` is the tag of the library system, which is empty when
the system gives none; `tag` is the MARC tag, which is empty for an entry outside of MARC. -/
structure Field where
  systemTag : String
  tag : String
  indicator1 : Char
  indicator2 : Char
  content : Content
  deriving DecidableEq

namespace Field

/-- Why parts make no field, or a field cannot grow. -/
inductive Fault where
  /-- The tag is neither empty nor three characters long. -/
  | tagWidth (tag : String)
  /-- A direct value and subfields are given together. -/
  | mixedContent (tag value : String) (subfields : Nat)
  /-- A field with a direct value takes no subfield. -/
  | notSubfielded (code : Char) (tag : String)
  deriving DecidableEq

/-- The fault in words. -/
def Fault.message : Fault → String
  | .tagWidth tag =>
    "Validation error: MARC tag '" ++ tag ++ "' must be 3 characters, found " ++
      toString tag.length
  | .mixedContent tag value subfields =>
    "Validation error: field " ++ tag ++ " carries both a direct value (" ++ Text.quoted value ++
      ") and " ++ toString subfields ++ " subfields"
  | .notSubfielded code tag =>
    "Invalid field: cannot add subfield $" ++ String.singleton code ++ " to control field " ++ tag

/-- The system tag of the entry that holds the leader. -/
def leaderTag : String := "_"

/-- The code of the subfield that links a field with its counterpart in another script. -/
def linkageCode : Char := '6'

/-- A field without subfields yet. -/
def empty (tag : String) (indicator1 indicator2 : Char) : Field :=
  { systemTag := "", tag, indicator1, indicator2, content := .subfields [] }

/-- A control field. -/
def control (tag value : String) : Field :=
  { systemTag := "", tag, indicator1 := ' ', indicator2 := ' ', content := .direct value }

/-- The entry that holds the leader. -/
def leader (value : String) : Field :=
  { systemTag := leaderTag, tag := "", indicator1 := ' ', indicator2 := ' ',
    content := .direct value }

/-- The content that an optional direct value and subfields make; an empty direct value counts as
none. -/
def contentOf (tag : String) (value : Option String) (parts : List Subfield) :
    Except Fault Content :=
  match value.filter (· ≠ "") with
  | none => .ok (.subfields parts)
  | some v => if parts.isEmpty then .ok (.direct v) else .error (.mixedContent tag v parts.length)

/-- A field from its parts. The width of the tag is checked before the content. -/
def ofParts (systemTag tag : String) (indicator1 indicator2 : Char) (value : Option String)
    (parts : List Subfield) : Except Fault Field :=
  if tag.length = 0 ∨ tag.length = 3 then
    (contentOf tag value parts).map fun content =>
      { systemTag, tag, indicator1, indicator2, content }
  else .error (.tagWidth tag)

/-- The field with one more subfield at its end. -/
def addSubfield (field : Field) (code : Char) (value : String) : Except Fault Field :=
  match field.content with
  | .subfields parts => .ok { field with content := .subfields (parts ++ [⟨code, value⟩]) }
  | .direct _ => .error (.notSubfielded code field.tag)

/-- The field with more subfields at its end; a direct value stays as it is. -/
def withSubfields (field : Field) (more : List Subfield) : Field :=
  match field.content with
  | .subfields parts => { field with content := .subfields (parts ++ more) }
  | .direct _ => field

/-- The field under another system tag. -/
def withSystemTag (field : Field) (systemTag : String) : Field := { field with systemTag }

/-- Whether the field holds a direct value. -/
def isControl (field : Field) : Bool := field.content.direct?.isSome

/-- The direct value, if the field has one. -/
def direct? (field : Field) : Option String := field.content.direct?

/-- The subfields in the order of the data. -/
def subfields (field : Field) : List Subfield := field.content.parts

/-- The values of the subfields with the given code, in the order of the data. -/
def valuesFor (field : Field) (code : Char) : List String := field.content.valuesFor code

/-- The first value under the code. -/
def first? (field : Field) (code : Char) : Option String := (field.valuesFor code).head?

/-- The whole content as one text. -/
def text (field : Field) : String := field.content.text

/-- The first linkage of the field. -/
def linkage? (field : Field) : Option String := field.first? linkageCode

/-- **Which parts make a field.** The tag has no or three characters, and subfields come with no
direct value other than the empty one. -/
theorem ofParts_eq_ok {systemTag tag : String} {i1 i2 : Char} {value : Option String}
    {parts : List Subfield} {field : Field} :
    ofParts systemTag tag i1 i2 value parts = .ok field ↔
      (tag.length = 0 ∨ tag.length = 3) ∧
      ((value.filter (· ≠ "") = none ∧ field = ⟨systemTag, tag, i1, i2, .subfields parts⟩) ∨
        ∃ v, value.filter (· ≠ "") = some v ∧ parts = [] ∧
          field = ⟨systemTag, tag, i1, i2, .direct v⟩) := by
  rw [ofParts]
  split
  · rename_i ht
    rw [and_iff_right ht, contentOf]
    cases value.filter (· ≠ "") with
    | none => simp [Except.map, eq_comm]
    | some v => cases parts <;> simp [Except.map, eq_comm]
  · rename_i ht
    exact iff_of_false (by simp) fun h => ht h.1

end Field

/-! ## Records -/

/-- A catalogue record: its fields in the order of the data. -/
abbrev Record := List Field

namespace Record

/-- The fields with the given MARC tag, in the order of the record. -/
def withTag (record : Record) (tag : String) : List Field :=
  record.filter fun field => field.tag == tag

/-- The direct values under a MARC tag, as they are. -/
def directValues (record : Record) (tag : String) : List String :=
  (record.withTag tag).filterMap Field.direct?

/-- The direct values under a MARC tag as one text, with a space between two. -/
def directText (record : Record) (tag : String) : String :=
  " ".intercalate (record.directValues tag)

/-- The direct value of the first field with the given system tag; empty when there is no such
field or it holds subfields. -/
def systemValue (record : Record) (systemTag : String) : String :=
  ((record.find? fun field => field.systemTag == systemTag).bind Field.direct?).getD ""

/-- The leader. -/
def leader (record : Record) : String := record.systemValue Field.leaderTag

/-- Whether any field has a MARC tag. -/
def hasMarc (record : Record) : Bool := record.any fun field => field.tag != ""

theorem mem_withTag {record : Record} {tag : String} {field : Field} :
    field ∈ record.withTag tag ↔ field ∈ record ∧ field.tag = tag := by
  simp [withTag]

end Record

end Marc
