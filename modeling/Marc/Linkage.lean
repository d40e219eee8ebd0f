import Marc.Record

/-!
# Linkage between scripts

A field and its counterpart in another script name each other in subfield 6. The origin names
the tag of the counterpart and a number (`880-04`); the counterpart, a field with tag 880, names
the tag of the origin, the number, the script and possibly the direction of writing
(`700-04/$1`, `245-01/(2/r`).

The numbers are not reliable in the data, so a field counts as pointing at a tag when one of its
linkages begins with the tag, whatever follows.

Model of `LinkageInfo` and of the search for counterparts: `Linkage.parse?` is `parse`, and
`withSegment` is the body of its loop over the segments; `vernacularTag` is `VERNACULAR_TAG`;
`Field.pointsAt` is `is_vernacular_for`. `Record.counterparts` holds the fields from which `resolve`
selects, and `Record.vernacularFor` those from which `freestanding` does.

Results:
* `Linkage.parse?_eq_none_iff`: only a text without a hyphen is no linkage.
* `Linkage.parse?_eq_some`: the tag of a linkage is what stands before the first hyphen.
-/

namespace Marc

/-- What a linkage says. -/
structure Linkage where
  /-- The tag of the field at the other end. -/
  tag : String
  /-- The number of the pair, as written. -/
  occurrence : String
  /-- The script of the counterpart; empty when none is given. -/
  script : String
  /-- Whether the script runs from right to left. -/
  isReverse : Bool
  deriving DecidableEq

namespace Linkage

/-- The tag of fields that hold a counterpart in another script. -/
def vernacularTag : String := "880"

/-- The segment that marks a script written from right to left. -/
def reverseMark : List Char := ['r']

/-- The linkage after one more segment: the mark of direction, or the script, unless one was given
before. -/
def withSegment (link : Linkage) (segment : List Char) : Linkage :=
  if segment = reverseMark then { link with isReverse := true }
  else if link.script = "" then { link with script := String.ofList segment }
  else link

/-- The linkage of a text: a tag, a hyphen, and segments between slashes. The first of them is the
number, and the others are taken one after the other. -/
def ofChars? (text : List Char) : Option Linkage :=
  match text.dropWhile (· != '-') with
  | [] => none
  | _ :: rest =>
    let segments := rest.splitOn '/'
    some (segments.tail.foldl withSegment {
      tag := String.ofList (text.takeWhile (· != '-'))
      occurrence := String.ofList (segments.headD [])
      script := ""
      isReverse := false })

/-- The linkage of a string. -/
def parse? (s : String) : Option Linkage := ofChars? s.toList

@[simp] theorem tag_withSegment (link : Linkage) (segment : List Char) :
    (link.withSegment segment).tag = link.tag := by
  unfold withSegment
  split
  · rfl
  · split <;> rfl

theorem tag_foldl_withSegment (segments : List (List Char)) (link : Linkage) :
    (segments.foldl withSegment link).tag = link.tag := by
  induction segments generalizing link with
  | nil => rfl
  | cons segment segments ih => rw [List.foldl_cons, ih, tag_withSegment]

theorem parse?_eq_none_iff {s : String} : parse? s = none ↔ '-' ∉ s.toList := by
  rw [parse?, ofChars?]
  split
  · rename_i h
    have hall : s.toList.takeWhile (· != '-') = s.toList := by
      simpa [h] using List.takeWhile_append_dropWhile (p := (· != '-')) (l := s.toList)
    have hne := List.all_takeWhile (p := (· != '-')) (l := s.toList)
    rw [hall, List.all_eq_true] at hne
    exact iff_of_true rfl fun hm => absurd (hne '-' hm) (by decide)
  · rename_i c rest h
    simp only [reduceCtorEq, false_iff, Decidable.not_not]
    have hc : (c != '-') = false := by
      have := List.head?_dropWhile_not (· != '-') s.toList
      rw [h] at this
      simpa using this
    have hm : c ∈ s.toList := (List.dropWhile_sublist _).subset (h ▸ List.mem_cons_self)
    rwa [show c = '-' by simpa using hc] at hm

theorem parse?_eq_some {s : String} {link : Linkage} (h : parse? s = some link) :
    '-' ∈ s.toList ∧ link.tag = String.ofList (s.toList.takeWhile (· != '-')) := by
  refine ⟨Decidable.not_not.mp fun hn => ?_, ?_⟩
  · rw [parse?_eq_none_iff.mpr hn] at h
    exact absurd h (by simp)
  · rw [parse?, ofChars?] at h
    split at h
    · exact absurd h (by simp)
    · rw [← Option.some.inj h, tag_foldl_withSegment]

end Linkage

/-- Whether one of the field's linkages begins with the tag. -/
def Field.pointsAt (field : Field) (tag : String) : Bool :=
  (field.valuesFor linkageCode).any fun linkage => tag.toList.isPrefixOf linkage.toList

/-- The linkage that the field names first, if it can be read. -/
def Field.link? (field : Field) : Option Linkage := field.linkage?.bind Linkage.parse?

/-- The fields in another script that point at the tag, in the order of the record. -/
def Record.vernacularFor (record : Record) (tag : String) : List Field :=
  (record.withTag Linkage.vernacularTag).filter fun field => field.pointsAt tag

/-- The fields that a field names as its counterparts: those with the tag of its first linkage
that point back at its own tag. -/
def Record.counterparts (record : Record) (field : Field) : List Field :=
  match field.link? with
  | some link => (record.withTag link.tag).filter fun other => other.pointsAt field.tag
  | none => []

end Marc
