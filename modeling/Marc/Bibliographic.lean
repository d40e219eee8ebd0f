import Marc.Extraction

/-!
# Control numbers, theses and headings

Three things that an index takes from a record beside its plain strings.

* The **OCLC control numbers**. A number is written with or without one of the marks `ocm`, `ocn`,
  `on` and `(OCoLC)`. `ControlNumber.clean` drops each mark that stands before a digit, together
  with the white space before the mark, and trims what is left. Numbers of a vendor, which begin
  with `ssj`, are no control numbers.
* Whether the record describes a **thesis of the library's institution**: it does when a note on the
  thesis, in field 502, holds the marker of the settings, in upper or lower case.
* The **headings**, which are often recorded both with a period at their end and without.
  `Heading.mergePeriods` keeps one of the two: the one with the period, in the place of whichever
  came first.

Model of `clean_oclc_number` (`ControlNumber.clean`, where `unmark` drops what `OCLC_PREFIX` matches
and `vendorMark` is `VENDOR_PREFIX`), of `oclc_numbers` (`ControlNumber.ofRecord`), of
`is_dissertation` (`isDissertation`) and of `dedup_trailing_period` (`Heading.mergePeriods`, with
`mergePeriod` for the body of its loop).

Results:
* `isDissertation_of_empty_marker`: without a marker no record describes such a thesis.
-/

namespace Marc

/-! ## Control numbers -/

namespace ControlNumber

open Text

/-- The marks of a control number. -/
def marks : List (List Char) :=
  [['o', 'c', 'm'], ['o', 'c', 'n'], ['o', 'n'], ['(', 'O', 'C', 'o', 'L', 'C', ')']]

/-- The start of a vendor's number. -/
def vendorMark : List Char := ['s', 's', 'j']

/-- Whether the text begins with the mark and a digit after it. -/
def beginsWith (text mark : List Char) : Bool :=
  mark.isPrefixOf text && ((text.drop mark.length).head?.any isDecimalDigit)

/-- The length of the white space and the mark at the start of the text, if a digit follows. -/
def markLength? (text : List Char) : Option Nat :=
  (marks.find? (beginsWith (text.dropWhile isBlank))).map fun mark =>
    (text.takeWhile isBlank).length + mark.length

/-- The text without its first `skip` characters and without the marks that begin after them. -/
def unmarkAfter : Nat → List Char → List Char
  | _, [] => []
  | skip + 1, _ :: rest => unmarkAfter skip rest
  | 0, c :: rest =>
    match markLength? (c :: rest) with
    | some length => unmarkAfter (length - 1) rest
    | none => c :: unmarkAfter 0 rest

/-- The text without the marks that stand before a digit. -/
def unmark (text : List Char) : List Char := unmarkAfter 0 text

/-- The number without marks and white space around it; empty for a vendor's number. -/
def clean (s : String) : String :=
  if vendorMark.isPrefixOf s.toList then "" else String.ofList (trim (unmark s.toList))

/-- The control numbers of a record: that of field 001, then those of subfields 035$a and 035$z,
without the empty one and without repetitions. -/
def ofRecord (record : Record) : List String :=
  Distinct.addAll []
    (clean (record.directText "001") ::
      (Flattening.raw.apply (extractText record "035a:035z")).map clean)

end ControlNumber

/-! ## Theses -/

section

open Text

/-- Whether a note on the thesis holds the marker. -/
def isDissertation (record : Record) (settings : Settings) : Bool :=
  let marker := toLower settings.dissertationMarker.toList
  !marker.isEmpty &&
    (Flattening.raw.apply (extractText record "502ac")).any fun note =>
      holds marker (toLower note.toList)

theorem isDissertation_of_empty_marker {record : Record} {settings : Settings}
    (h : settings.dissertationMarker = "") : isDissertation record settings = false := by
  simp [isDissertation, h, toLower, lowerAfter]

end

/-! ## Headings -/

namespace Heading

open Text (trimmed withoutPeriod)

/-- The list with one more heading, or with the heading in the place of the one it replaces. -/
def mergePeriod (list : List String) (heading : String) : List String :=
  let value := trimmed heading
  let bare := withoutPeriod value
  if bare = value then
    if value ++ "." ∈ list then list else Distinct.add list value
  else if bare ∈ list then list.replace bare value
  else Distinct.add list value

/-- The trimmed headings without repetitions; of two that differ by a period at the end, the one
with the period. -/
def mergePeriods (headings : List String) : List String := headings.foldl mergePeriod []

end Heading

end Marc
