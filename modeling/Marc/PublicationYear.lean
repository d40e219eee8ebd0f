import Marc.Extraction
import Marc.Text.Utf8

/-!
# The year of publication

Field 008 holds the type of the date in byte 6 and two dates of four bytes from bytes 7 and 11.
A digit that is not known is written `u`. `Dates.year?` makes one year of them:

| type | year |
|------|------|
| `n`  | none: the dates are not known |
| `q`  | the middle of the two dates, if they are close enough |
| `p`  | the earlier date, unless the second is zero |
| `r`  | the second date, unless it is zero |
| else | the first date |

A date with unknown digits stands for the middle of the years that it may mean, if they are few
enough. When field 008 gives no year, the first four digits in subfield 260$c do.

Model of `infer_year` (`yearOf008?`), of `year_from_260` (`yearOf260?`, where `fourDigits?` finds
`FOUR_DIGITS`) and of `publication_year` (`publicationYear?`). `Dates.number` is `to_int`.

Results:
* `Dates.choices_eq_one_iff`: a date means one year exactly when all of its digits are known.
-/

namespace Marc

open Text

/-- The type of the date and the two dates of field 008. -/
structure Dates where
  kind : Char
  first : List Char
  second : List Char
  deriving DecidableEq

namespace Dates

/-- The sign of an unknown digit. -/
def unknown : Char := 'u'

/-- The dates of field 008. A second date that is missing counts as equal to the first. -/
def read? (field008 : List Char) : Option Dates :=
  match byteSlice 6 7 field008, byteSlice 7 11 field008 with
  | some (kind :: _), some first =>
    some { kind, first, second := (byteSlice 11 15 field008).getD first }
  | _, _ => none

/-- The number that a date is; zero when the date is no integer. -/
def number (date : List Char) : Int := (readInt date).getD 0

/-- The date with every unknown digit taken for `digit`. -/
def fill (digit : Char) (date : List Char) : List Char :=
  date.map fun c => if c = unknown then digit else c

/-- The earliest year that a date may mean. -/
def earliest (date : List Char) : Int := number (fill '0' date)

/-- The latest year that a date may mean. -/
def latest (date : List Char) : Int := number (fill '9' date)

/-- How many years a date may mean: ten for each unknown digit. -/
def choices : List Char → Int
  | [] => 1
  | c :: rest => if c = unknown then 10 * choices rest else choices rest

/-- Whether a date sorts before another or like it, character by character. -/
def sortsFirst : List Char → List Char → Bool
  | [], _ => true
  | _ :: _, [] => false
  | a :: first, b :: second =>
    decide (a.toNat < b.toNat) || (a == b && sortsFirst first second)

/-- The year of one date: none when it is zero or may mean more years than the tolerance. -/
def yearOf? (tolerance : Int) (date : List Char) : Option Int :=
  if earliest date = 0 then none
  else if unknown ∉ date then some (earliest date)
  else if choices date ≤ tolerance then some (earliest date + choices date / 2)
  else none

/-- The middle of two dates, if the second may be later and not by more than the tolerance. -/
def middle? (tolerance : Int) (first second : List Char) : Option Int :=
  if earliest first < latest second ∧ latest second - earliest first ≤ tolerance then
    some ((earliest first + latest second).tdiv 2)
  else none

/-- The date that counts when the type of the date is neither `n` nor `q`. The earlier of two
dates is the one that sorts first as text. -/
def chosen (dates : Dates) : List Char :=
  if dates.kind = 'p' then
    if sortsFirst dates.first dates.second ∨ number dates.second = 0 then dates.first
    else dates.second
  else if dates.kind = 'r' then
    if number dates.second ≠ 0 then dates.second else dates.first
  else dates.first

/-- The year of the dates, with at most `tolerance` years left open. -/
def year? (dates : Dates) (tolerance : Int) : Option Int :=
  if dates.kind = 'n' then none
  else if dates.kind = 'q' then middle? tolerance dates.first dates.second
  else yearOf? tolerance dates.chosen

theorem choices_pos : ∀ date : List Char, 0 < choices date
  | [] => by decide
  | c :: rest => by
    have := choices_pos rest
    rw [choices]
    split <;> omega

theorem choices_eq_one_iff {date : List Char} : choices date = 1 ↔ unknown ∉ date := by
  induction date with
  | nil => simp [choices]
  | cons c rest ih =>
    have := choices_pos rest
    rw [choices, List.mem_cons, not_or]
    by_cases h : c = unknown
    · rw [if_pos h]
      exact ⟨fun e => by omega, fun e => absurd h.symm e.1⟩
    · rw [if_neg h, ih]
      exact ⟨fun e => ⟨Ne.symm h, e⟩, fun e => e.2⟩

end Dates

/-- The year of field 008, with at most `tolerance` years left open. -/
def yearOf008? (field008 : String) (tolerance : Int) : Option Int :=
  (Dates.read? field008.toList).bind fun dates => dates.year? tolerance

/-- The first four decimal digits in a row. -/
def fourDigits? : List Char → Option (List Char)
  | [] => none
  | a :: rest =>
    match rest with
    | b :: c :: d :: _ =>
      if [a, b, c, d].all isDecimalDigit then some [a, b, c, d] else fourDigits? rest
    | _ => none

/-- The year of the first value in subfield 260$c, if its first four digits in a row are digits
of ASCII. -/
def yearOf260? (record : Record) : Option Int :=
  ((Flattening.parts.apply (extractText record "260c")).head?.bind fun s =>
    (fourDigits? s.toList).bind readNat).map Int.ofNat

/-- The year of publication before it is tested for being plausible. -/
def candidateYear? (record : Record) (tolerance : Int) : Option Int :=
  (yearOf008? (record.directText "008") tolerance).or (yearOf260? record)

/-- The year of publication, if it is plausible. -/
def publicationYear? (record : Record) (settings : Settings) : Option Int :=
  (candidateYear? record settings.yearTolerance.toInt).filter settings.accepts

end Marc
