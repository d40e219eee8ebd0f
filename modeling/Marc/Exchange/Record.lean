import Marc.Json.Decoder
import Marc.Record

/-!
# Records as JSON

A record is exchanged as a list of fields, each with the members `fieldTag`, `marcTag`, `ind1` and
`ind2`, and either `content`, a direct value, or `subfields`, a list of parts with the members
`tag` and `content`. Every member of a field may be missing. An indicator is the first character
of its string, and a space if there is none.

Model of the JSON forms of `Subfield`, `Field` and `Record`: a `Draft` holds the members that were
read, with its `slots` for their names, and `ofDraft` makes the value of them. `Record.ofText` is
`from_json`, and the fault of a field that is refused is that of `from_parts`.
-/

namespace Marc

open Json (Problem Slot decodeString decodeChar decodeList decodeOption decodeRecord required)

namespace Subfield

/-- A part of a field while it is read. -/
structure Draft where
  code : Option Char
  value : Option String

/-- The members of a part. -/
def slots {ε : Type} : List (Slot ε Draft) :=
  [⟨"tag", fun draft => draft.code.isSome, fun json draft => do
      return { draft with code := some (← decodeChar json) }⟩,
   ⟨"content", fun draft => draft.value.isSome, fun json draft => do
      return { draft with value := some (← decodeString json) }⟩]

/-- The part that a draft makes: both members have to be there. -/
def ofDraft {ε : Type} (draft : Draft) : Except (Problem ε) Subfield := do
  return ⟨← required draft.code, ← required draft.value⟩

/-- A part of a field from JSON. -/
def decode {ε : Type} : Json → Except (Problem ε) Subfield :=
  decodeRecord slots ⟨none, none⟩ ofDraft

/-- A part of a field as JSON. -/
def toJson (part : Subfield) : Json :=
  Json.record [("tag", Json.char part.code), ("content", Json.text part.value)]

end Subfield

namespace Field

/-- A field while it is read. A list of subfields or a direct value may be there and be null. -/
structure Draft where
  systemTag : Option String
  tag : Option String
  indicator1 : Option String
  indicator2 : Option String
  subfields : Option (Option (List Subfield))
  content : Option (Option String)

/-- A field of which nothing was read. -/
def Draft.empty : Draft := ⟨none, none, none, none, none, none⟩

/-- The members of a field. -/
def slots : List (Slot Fault Draft) :=
  [⟨"fieldTag", fun draft => draft.systemTag.isSome, fun json draft => do
      return { draft with systemTag := some (← decodeString json) }⟩,
   ⟨"marcTag", fun draft => draft.tag.isSome, fun json draft => do
      return { draft with tag := some (← decodeString json) }⟩,
   ⟨"ind1", fun draft => draft.indicator1.isSome, fun json draft => do
      return { draft with indicator1 := some (← decodeString json) }⟩,
   ⟨"ind2", fun draft => draft.indicator2.isSome, fun json draft => do
      return { draft with indicator2 := some (← decodeString json) }⟩,
   ⟨"subfields", fun draft => draft.subfields.isSome, fun json draft => do
      return { draft with subfields := some (← decodeOption (decodeList Subfield.decode) json) }⟩,
   ⟨"content", fun draft => draft.content.isSome, fun json draft => do
      return { draft with content := some (← decodeOption decodeString json) }⟩]

/-- The indicator that a string stands for. -/
def indicatorOf (s : String) : Char := s.toList.headD ' '

/-- The field that a draft makes. With neither a list of subfields nor a direct value, it is a
control field with an empty value. -/
def ofDraft (draft : Draft) : Except (Problem Fault) Field :=
  match ofParts (draft.systemTag.getD "") (draft.tag.getD "")
      (indicatorOf (draft.indicator1.getD "")) (indicatorOf (draft.indicator2.getD ""))
      draft.content.join (draft.subfields.join.getD []) with
  | .error fault => .error (.refused fault)
  | .ok field =>
    if draft.subfields.join.isNone && !field.isControl then
      .ok { field with content := .direct "" }
    else .ok field

/-- A field from JSON. -/
def decode : Json → Except (Problem Fault) Field := decodeRecord slots .empty ofDraft

/-- A field as JSON. -/
def toJson (field : Field) : Json :=
  Json.record
    [("fieldTag", Json.text field.systemTag),
     ("marcTag", Json.text field.tag),
     ("ind1", Json.char field.indicator1),
     ("ind2", Json.char field.indicator2),
     match field.content with
     | .direct value => ("content", Json.text value)
     | .subfields parts => ("subfields", Json.list (parts.map Subfield.toJson))]

end Field

namespace Record

/-- A record from JSON. -/
def decode : Json → Except (Problem Field.Fault) Record := decodeList Field.decode

/-- A record from a JSON text. -/
def ofText (text : String) : Except (Problem Field.Fault) Record := Json.decodeText decode text

/-- A record as JSON. -/
def toJson (record : Record) : Json := Json.list (record.map Field.toJson)

/-- A record as a JSON text. -/
def toText (record : Record) : String := (toJson record).print

end Record

end Marc
