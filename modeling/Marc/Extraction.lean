import Marc.Text.LowerCase
import Marc.Value

/-!
# Extraction

`extract` collects the values that a list of specs selects from a record. The specs are taken in
order. A direct spec yields the direct values of the fields with its tag. Any other spec yields
what it selects from each field with its tag, and then the counterparts in another script of the
first such field that leads to any; this settles the tag, because a counterpart found from one
field stands for all fields with the tag. When all specs have been taken, each spec whose tag is
not settled yields the fields in another script that point at its tag.

Model of `extract` and of the `Extractor` with its `ExtractionConfig`.

* `Progress.settled` is the set `resolved`; `Progress.take` and `Progress.visit` are the bodies of
  the loops over the specs and over the fields of one spec. `linkedValues` is `resolve` and
  `pointingValues` is `freestanding`.
* `extractText` is `extract_str`, `vernacularValues` is `vernacular_values`, and `extractEach` is
  `extract_batch`.
* `Settings` is `ExtractionConfig`, and `Settings.standard` holds `DEFAULT_YEAR_TOLERANCE`,
  `DEFAULT_MIN_YEAR` and `DEFAULT_DISSERTATION_MARKER`; `withMarker` is `with_dissertation_marker`,
  `accepts` is `accepts_year`. `indexStrings` is the `values` of an `Extractor`, with `flattening`
  for its choice between two ways.

Results:
* `Settings.accepts_iff`: which years are plausible.
-/

namespace Marc

/-! ## Selecting from a record -/

/-- What the spec selects from the fields, in their order. -/
def Spec.selectAll (spec : Spec) (fields : List Field) : List Value :=
  fields.filterMap fun field => Value.select? field spec

namespace Extraction

/-- The direct values that are not empty, in the order of the record. -/
def directValues (record : Record) (spec : Spec) : List Value :=
  ((record.directValues spec.tag).filter (· ≠ "")).map (Value.direct spec.tag)

/-- What the spec selects from the fields with its tag, in the order of the record. -/
def ownValues (record : Record) (spec : Spec) : List Value :=
  spec.selectAll (record.withTag spec.tag)

/-- What the spec selects from the counterparts that the field names. -/
def linkedValues (record : Record) (spec : Spec) (field : Field) : List Value :=
  spec.selectAll (record.counterparts field)

/-- What the spec selects from the fields in another script that point at its tag, whether or not
the record has a field with that tag. -/
def pointingValues (record : Record) (spec : Spec) : List Value :=
  spec.selectAll (record.vernacularFor spec.tag)

/-- The first pass: the values so far, and the tags that are settled. -/
structure Progress where
  values : List Value
  settled : List String

/-- No spec has been taken yet. -/
def Progress.start : Progress := ⟨[], []⟩

/-- The first pass after one more field with the tag of the spec. Nothing is looked up any more
once the tag is settled. -/
def Progress.visit (record : Record) (spec : Spec) (progress : Progress) (field : Field) :
    Progress :=
  if spec.tag ∈ progress.settled then progress
  else
    match linkedValues record spec field with
    | [] => progress
    | linked =>
      { values := progress.values ++ linked, settled := spec.tag :: progress.settled }

/-- The first pass after one more spec. -/
def Progress.take (record : Record) (progress : Progress) (spec : Spec) : Progress :=
  if spec.isDirect then
    { progress with values := progress.values ++ directValues record spec }
  else
    (record.withTag spec.tag).foldl (Progress.visit record spec)
      { progress with values := progress.values ++ ownValues record spec }

/-- The first pass over all specs. -/
def firstPass (record : Record) (specs : List Spec) : Progress :=
  specs.foldl (Progress.take record) .start

/-- Whether the second pass takes the spec. -/
def Progress.leavesOpen (progress : Progress) (spec : Spec) : Bool :=
  !spec.isDirect && !decide (spec.tag ∈ progress.settled)

/-- The second pass: the fields in another script for the tags that are not settled. -/
def Progress.remaining (progress : Progress) (record : Record) (specs : List Spec) : List Value :=
  (specs.filter progress.leavesOpen).flatMap (pointingValues record)

end Extraction

open Extraction

/-- The values that the specs select from the record. -/
def extract (record : Record) (specs : List Spec) : List Value :=
  (firstPass record specs).values ++ (firstPass record specs).remaining record specs

/-- The values that a spec string selects from the record. -/
def extractText (record : Record) (spec : String) : List Value :=
  extract record (Spec.compile spec)

/-- The fields in another script alone: for each spec in order, all that point at its tag. -/
def vernacularValues (record : Record) (spec : String) : List Value :=
  (Spec.compile spec).flatMap (pointingValues record)

/-- The values of each record, in the order of the records. -/
def extractEach (records : List Record) (specs : List Spec) : List (List Value) :=
  records.map fun record => extract record specs

/-! ## Settings

What a library decides for its index: how doubtful a year may be, which years are plausible,
whether index strings lose their punctuation, and which words mark a thesis as its own. -/

/-- The settings of an index. -/
structure Settings where
  /-- The widest range of years that a doubtful date may leave open. -/
  yearTolerance : Int32
  /-- The earliest plausible year. -/
  minYear : Int32
  /-- The latest plausible year, if there is a limit. -/
  maxYear : Option Int32
  /-- Whether index strings lose their punctuation. -/
  trimValues : Bool
  /-- The words that mark a thesis as written at the library's institution. -/
  dissertationMarker : String
  deriving DecidableEq

namespace Settings

/-- The settings of a library that decides nothing. -/
def standard : Settings :=
  { yearTolerance := 15, minYear := 500, maxYear := none, trimValues := true,
    dissertationMarker := "brown univ" }

/-- The settings with another marker, in lower case. -/
def withMarker (settings : Settings) (marker : String) : Settings :=
  { settings with dissertationMarker := Text.lowered marker }

/-- Whether the year is plausible. -/
def accepts (settings : Settings) (year : Int) : Bool :=
  decide (settings.minYear.toInt ≤ year) &&
    match settings.maxYear with
    | some latest => decide (year ≤ latest.toInt)
    | none => true

/-- How values become index strings. -/
def flattening (settings : Settings) : Flattening :=
  if settings.trimValues then .display else .verbatim

theorem accepts_iff {settings : Settings} {year : Int} :
    settings.accepts year = true ↔
      settings.minYear.toInt ≤ year ∧ ∀ latest ∈ settings.maxYear, year ≤ latest.toInt := by
  rw [accepts]
  cases settings.maxYear <;> simp

end Settings

/-- The index strings that a spec string selects from a record. -/
def indexStrings (record : Record) (spec : String) (settings : Settings) : List String :=
  settings.flattening.apply (extractText record spec)

end Marc
