import Marc.Json.Decoder
import Marc.Extraction

/-!
# Specs and settings as JSON

A spec is exchanged with the members `tag` and `codes`, a list of strings of one character. Both
have to be there.

Settings are exchanged with the members `year_tolerance`, `min_year`, `max_year`, `trim_values` and
`dissertation_marker`. A member that is missing has its standard value; `max_year` may be null.
The marker is kept as it is written.

Model of the JSON forms of `FieldSpec` and `ExtractionConfig`: a `Draft` holds the members that were
read, with its `slots` for their names, and `ofDraft` makes the value of them.

Results:
* `Spec.ofDraft_eq_ok`: what the draft of a spec has to hold.
-/

namespace Marc

/-! ## Specs -/

namespace Spec

open Json (Problem Slot decodeString decodeChar decodeList decodeRecord required)

/-- A spec while it is read. -/
structure Draft where
  tag : Option String
  codes : Option (List Char)

/-- The members of a spec. -/
def slots : List (Slot Empty Draft) :=
  [⟨"tag", fun draft => draft.tag.isSome, fun json draft => do
      return { draft with tag := some (← decodeString json) }⟩,
   ⟨"codes", fun draft => draft.codes.isSome, fun json draft => do
      return { draft with codes := some (← decodeList decodeChar json) }⟩]

/-- The spec that a draft makes. -/
def ofDraft (draft : Draft) : Except (Problem Empty) Spec := do
  return ⟨← required draft.tag, ← required draft.codes⟩

/-- A spec from JSON. -/
def decode : Json → Except (Problem Empty) Spec := decodeRecord slots ⟨none, none⟩ ofDraft

/-- A spec from a JSON text. -/
def ofText (text : String) : Except (Problem Empty) Spec := Json.decodeText decode text

/-- A spec as JSON. -/
def toJson (spec : Spec) : Json :=
  Json.record [("tag", Json.text spec.tag), ("codes", Json.list (spec.codes.map Json.char))]

/-- A spec as a JSON text. -/
def toText (spec : Spec) : String := (toJson spec).print

theorem ofDraft_eq_ok {draft : Draft} {spec : Spec} :
    ofDraft draft = .ok spec ↔ draft.tag = some spec.tag ∧ draft.codes = some spec.codes := by
  obtain ⟨tag, codes⟩ := draft
  obtain ⟨t, c⟩ := spec
  cases tag <;> cases codes <;>
    simp [ofDraft, required, bind, Except.bind, pure, Except.pure]

end Spec

/-! ## Settings -/

namespace Settings

open Json (Problem Slot decodeString decodeBool decodeInt32 decodeOption decodeRecord)

/-- Settings while they are read. -/
structure Draft where
  yearTolerance : Option Int32
  minYear : Option Int32
  maxYear : Option (Option Int32)
  trimValues : Option Bool
  dissertationMarker : Option String

/-- Settings of which nothing was read. -/
def Draft.empty : Draft := ⟨none, none, none, none, none⟩

/-- The members of the settings. -/
def slots : List (Slot Empty Draft) :=
  [⟨"year_tolerance", fun draft => draft.yearTolerance.isSome, fun json draft => do
      return { draft with yearTolerance := some (← decodeInt32 json) }⟩,
   ⟨"min_year", fun draft => draft.minYear.isSome, fun json draft => do
      return { draft with minYear := some (← decodeInt32 json) }⟩,
   ⟨"max_year", fun draft => draft.maxYear.isSome, fun json draft => do
      return { draft with maxYear := some (← decodeOption decodeInt32 json) }⟩,
   ⟨"trim_values", fun draft => draft.trimValues.isSome, fun json draft => do
      return { draft with trimValues := some (← decodeBool json) }⟩,
   ⟨"dissertation_marker", fun draft => draft.dissertationMarker.isSome, fun json draft => do
      return { draft with dissertationMarker := some (← decodeString json) }⟩]

/-- The settings that a draft makes. -/
def ofDraft (draft : Draft) : Settings where
  yearTolerance := draft.yearTolerance.getD standard.yearTolerance
  minYear := draft.minYear.getD standard.minYear
  maxYear := draft.maxYear.getD standard.maxYear
  trimValues := draft.trimValues.getD standard.trimValues
  dissertationMarker := draft.dissertationMarker.getD standard.dissertationMarker

/-- Settings from JSON. -/
def decode : Json → Except (Problem Empty) Settings :=
  decodeRecord slots .empty fun draft => .ok (ofDraft draft)

/-- Settings from a JSON text. -/
def ofText (text : String) : Except (Problem Empty) Settings := Json.decodeText decode text

/-- Settings as JSON. -/
def toJson (settings : Settings) : Json :=
  Json.record
    [("year_tolerance", Json.int settings.yearTolerance.toInt),
     ("min_year", Json.int settings.minYear.toInt),
     ("max_year",
       match settings.maxYear with
       | some year => Json.int year.toInt
       | none => .null),
     ("trim_values", .bool settings.trimValues),
     ("dissertation_marker", Json.text settings.dissertationMarker)]

/-- Settings as a JSON text. -/
def toText (settings : Settings) : String := (toJson settings).print

end Settings

end Marc
