import Marc.Spec
import Marc.Linkage
import Marc.Text.Punctuation

/-!
# Extracted values

A value is what a spec selects from one field: its direct value, or those of its subfields that
are wanted and not empty, in the order of the data. A list of values is flattened into index
strings in four ways: with or without the trailing punctuation, one string for every value or
one for every part of it. Index strings are kept without repetitions: a string is trimmed before it
is compared and stored, and the empty string is never added.

Model of `FieldValue`, of the flattenings of `FieldValues` and of the lists that they fill.

* `Distinct.add` is `safe_append` and `Distinct.addAll` is `append_all`.
* `Value.select?` is `select`; `strings`, `text`, `stringsFor` and `textFor` are `strings`, `value`,
  `values_for` and `value_for`; `groups` is `by_code`, and `addToGroup` puts one more string into
  the map that it makes; `isVernacular` is `is_vernacular`.
* `Flattening.apply` is `flatten`. The flattenings `display`, `parts`, `verbatim` and `raw` are
  `to_array`, `to_array_trim`, `to_array_join` and `to_array_raw`.

Results:
* `Distinct.nodup_add`, `Distinct.nodup_addAll`: no string is held twice.
* `Value.select?_eq_some`: when a field yields a value, and which one.
-/

namespace Marc

/-! ## Lists without repetition -/

namespace Distinct

open Text (trimmed)

/-- The list with the trimmed value at its end, unless the value is the empty string or the list
holds its trimmed form already. -/
def add (list : List String) (value : String) : List String :=
  if value = "" then list
  else if trimmed value ∈ list then list
  else list ++ [trimmed value]

/-- The list after all values were added in order. -/
def addAll (list values : List String) : List String := values.foldl add list

@[simp] theorem addAll_nil (list : List String) : addAll list [] = list := rfl

theorem addAll_cons (list : List String) (value : String) (values : List String) :
    addAll list (value :: values) = addAll (add list value) values := rfl

theorem addAll_append (list a b : List String) :
    addAll list (a ++ b) = addAll (addAll list a) b := List.foldl_append

theorem nodup_add {list : List String} (h : list.Nodup) (value : String) :
    (add list value).Nodup := by
  rw [add]
  split
  · exact h
  · split
    · exact h
    · rename_i hm
      rw [List.nodup_append]
      refine ⟨h, by simp, fun a ha b hb => ?_⟩
      rw [List.mem_singleton.mp hb]
      exact fun e => hm (e ▸ ha)

theorem nodup_addAll {list : List String} (h : list.Nodup) (values : List String) :
    (addAll list values).Nodup := by
  induction values generalizing list with
  | nil => exact h
  | cons value values ih => exact ih (nodup_add h value)

end Distinct

/-! ## Values -/

/-- What was selected from one field. `tag` is the tag of that field. -/
structure Value where
  tag : String
  content : Content
  deriving DecidableEq

namespace Value

/-- A direct value. -/
def direct (tag value : String) : Value := ⟨tag, .direct value⟩

/-- The subfields that the spec wants and that are not empty, in the order of the data. -/
def selection (field : Field) (spec : Spec) : List Subfield :=
  field.subfields.filter fun part => spec.wants part.code && part.value != ""

/-- The value that the spec selects from the field, if it selects any subfield. -/
def select? (field : Field) (spec : Spec) : Option Value :=
  if (selection field spec).isEmpty then none
  else some ⟨field.tag, .subfields (selection field spec)⟩

/-- The single strings of the value, in the order of the data. -/
def strings (value : Value) : List String := value.content.values

/-- The whole value as one text. -/
def text (value : Value) : String := value.content.text

/-- The strings under one code, in the order of the data. -/
def stringsFor (value : Value) (code : Char) : List String := value.content.valuesFor code

/-- The strings under one code as one text. -/
def textFor (value : Value) (code : Char) : String := " ".intercalate (value.stringsFor code)

/-- Whether the value comes from a field that holds a counterpart in another script. -/
def isVernacular (value : Value) : Bool := value.tag == Linkage.vernacularTag

/-- The groups with one more string under the code: at the end of its group, or in a new group at
the end. -/
def addToGroup (code : Char) (string : String) :
    List (Char × List String) → List (Char × List String)
  | [] => [(code, [string])]
  | (c, strings) :: rest =>
    if c = code then (c, strings ++ [string]) :: rest
    else (c, strings) :: addToGroup code string rest

/-- The strings grouped by code, the codes in the order in which they first appear. -/
def groups (value : Value) : List (Char × List String) :=
  value.content.parts.foldl (fun groups part => addToGroup part.code part.value groups) []

theorem select?_eq_some {field : Field} {spec : Spec} {value : Value} :
    select? field spec = some value ↔
      selection field spec ≠ [] ∧ value = ⟨field.tag, .subfields (selection field spec)⟩ := by
  rw [select?]
  split
  · rename_i h
    simp [List.isEmpty_iff.mp h]
  · rename_i h
    simp only [List.isEmpty_iff] at h
    simp [h, eq_comm]

end Value

/-! ## Index strings -/

/-- A way of turning values into index strings. -/
structure Flattening where
  /-- Whether punctuation is taken off each string. -/
  unpunctuated : Bool
  /-- Whether each value becomes one string, and not one for each of its parts. -/
  joined : Bool

namespace Flattening

/-- One string for every value, without punctuation. -/
def display : Flattening := ⟨true, true⟩

/-- One string for every part, without punctuation. -/
def parts : Flattening := ⟨true, false⟩

/-- One string for every value, as it stands in the record. -/
def verbatim : Flattening := ⟨false, true⟩

/-- One string for every part, as it stands in the record. -/
def raw : Flattening := ⟨false, false⟩

/-- The strings of one value before punctuation is looked at. -/
def stringsOf (way : Flattening) (value : Value) : List String :=
  if way.joined then [value.text] else value.strings

/-- A string as the flattening writes it, before it is trimmed. -/
def clean (way : Flattening) (s : String) : String :=
  if way.unpunctuated then Text.unpunctuated s else s

/-- All strings of the values, in order and with repetitions. -/
def candidates (way : Flattening) (values : List Value) : List String :=
  (values.flatMap way.stringsOf).map way.clean

/-- The index strings of the values: trimmed, without the empty string, the first of equal ones. -/
def apply (way : Flattening) (values : List Value) : List String :=
  Distinct.addAll [] (way.candidates values)

theorem candidates_append (way : Flattening) (a b : List Value) :
    way.candidates (a ++ b) = way.candidates a ++ way.candidates b := by
  simp [candidates]

end Flattening

end Marc
