import Marc.Proofs.Extraction.Origins

/-!
# What a spec alone reads

With a single spec the two passes of `extract` come down to one selection: from the fields with the
tag, and then from one list of linked fields (`linkedFields`). The second pass is left for it only
if no field leads the spec to anything, so the linked fields come from one pass or from the other.
Where there are no links, several specs come down to selections as well.

Results:
* `extract_singleton_eq_selectAll`: **a spec alone selects** from the fields with its tag, and then
  from the linked ones.
* `mem_linkedFields`: which fields can be linked.
* `extract_of_unlinked`: without links, specs select from the fields with their tags, one spec after
  the other.
* `strings_selectAll`, `map_value_selection`: the strings of what is selected, field by field.
-/

namespace Marc.Extraction

variable {record : Record} {spec : Spec} {field : Field}

/-! ## Linked fields -/

/-- The fields that a spec alone reads behind those with its tag: the counterparts of the first of
these that leads it to linked values or, when none does, the fields in another script that point at
its tag. -/
def linkedFields (record : Record) (spec : Spec) : List Field :=
  match record.find? fun field => decide (Leads record spec field) with
  | some field => record.counterparts field
  | none => record.vernacularFor spec.tag

theorem settledBy_singleton : SettledBy record [spec] spec.tag ↔ Settles record spec := by
  simp [SettledBy]

theorem firstLinkedValues_append_loneValues (hc : spec.isDirect = false) :
    firstLinkedValues record spec ++ loneValues record [spec] spec =
      spec.selectAll (linkedFields record spec) := by
  have hnil : firstLinkedValues record spec = [] ↔ ¬ Settles record spec :=
    firstLinkedValues_eq_nil_iff hc
  unfold loneValues linkedFields
  simp only [settledBy_singleton, hc, Bool.false_eq_true, false_or]
  cases hf : record.find? fun field => decide (Leads record spec field) with
  | some field =>
    obtain ⟨hm, hleads⟩ := leads_of_find? hf
    rw [if_pos ⟨hc, field, hm, hleads⟩, firstLinkedValues_of_find? hf, List.append_nil]
    rfl
  | none =>
    have hnone : firstLinkedValues record spec = [] := by
      unfold firstLinkedValues
      rw [hf]
    rw [if_neg (hnil.mp hnone), hnone]
    rfl

/-- A spec alone selects from the fields with its tag first, and then from the linked ones. -/
theorem extract_singleton_eq_selectAll (hc : spec.isDirect = false) :
    extract record [spec] =
      spec.selectAll (record.withTag spec.tag ++ linkedFields record spec) := by
  rw [extract_singleton hc, List.append_assoc, firstLinkedValues_append_loneValues hc]
  exact List.filterMap_append.symm

/-- A linked field points at the tag, and is one in another script or has the tag that a field with
the tag of the spec names. -/
theorem mem_linkedFields (h : field ∈ linkedFields record spec) :
    field ∈ record ∧ field.pointsAt spec.tag = true ∧
      (field.tag = Linkage.vernacularTag ∨
        ∃ origin ∈ record.withTag spec.tag, namedTag? origin = some field.tag) := by
  unfold linkedFields at h
  split at h
  · rename_i origin hf
    obtain ⟨hm, htag, -⟩ := leads_of_find? hf
    rw [counterparts_eq] at h
    cases hnamed : namedTag? origin with
    | none =>
      rw [hnamed] at h
      exact absurd h List.not_mem_nil
    | some tag =>
      rw [hnamed] at h
      obtain ⟨hother, hpoints⟩ := List.mem_filter.mp h
      obtain ⟨hrecord, rfl⟩ := Record.mem_withTag.mp hother
      exact ⟨hrecord, htag ▸ hpoints, .inr ⟨origin, Record.mem_withTag.mpr ⟨hm, htag⟩, hnamed⟩⟩
  · obtain ⟨hm, hpoints⟩ := List.mem_filter.mp h
    obtain ⟨hrecord, htag⟩ := Record.mem_withTag.mp hm
    exact ⟨hrecord, hpoints, .inl htag⟩

/-! ## Fields without links -/

/-- The fields with the tag name no counterparts, and no field in another script points at them. -/
structure Unlinked (record : Record) (tag : String) : Prop where
  origin : ∀ field ∈ record.withTag tag, field.valuesFor Field.linkageCode = []
  vernacular : ∀ field ∈ record.withTag Linkage.vernacularTag, field.pointsAt tag = false

theorem Unlinked.not_settles (h : Unlinked record spec.tag) : ¬ Settles record spec := by
  rintro ⟨-, field, hm, htag, hlinked⟩
  have hnone : field.link? = none := by
    unfold Field.link? Field.linkage? Field.first?
    rw [h.origin field (Record.mem_withTag.mpr ⟨hm, htag⟩)]
    rfl
  refine hlinked ?_
  unfold linkedValues Record.counterparts
  rw [hnone]
  rfl

theorem Unlinked.pointingValues_eq (h : Unlinked record spec.tag) :
    pointingValues record spec = [] := by
  have hnone : record.vernacularFor spec.tag = [] := by
    unfold Record.vernacularFor
    rw [List.filter_eq_nil_iff]
    intro field hf
    rw [h.vernacular field hf]
    exact Bool.false_ne_true
  unfold pointingValues
  rw [hnone]
  rfl

/-- Without links, specs select from the fields with their tags, one spec after the other. -/
theorem extract_of_unlinked {specs : List Spec} (hc : ∀ spec ∈ specs, spec.isDirect = false)
    (h : ∀ spec ∈ specs, Unlinked record spec.tag) :
    extract record specs = specs.flatMap (ownValues record) := by
  have hfirst : ∀ progress : Progress, (specs.foldl (Progress.take record) progress).values =
      progress.values ++ specs.flatMap (ownValues record) := by
    induction specs with
    | nil => intro progress; simp
    | cons spec specs ih =>
      intro progress
      have hnone := (h spec List.mem_cons_self).not_settles
      rw [List.foldl_cons, ih (fun s hs => hc s (List.mem_cons_of_mem _ hs))
        (fun s hs => h s (List.mem_cons_of_mem _ hs)), take_of_codes (hc spec List.mem_cons_self),
        if_neg fun hsettles => hnone hsettles.2, List.flatMap_cons, List.append_assoc]
  have hsecond : (firstPass record specs).remaining record specs = [] := by
    unfold Progress.remaining
    rw [List.flatMap_eq_nil_iff]
    exact fun spec hs => (h spec (List.mem_of_mem_filter hs)).pointingValues_eq
  unfold extract
  rw [hsecond, List.append_nil]
  exact (hfirst .start).trans (List.nil_append _)

/-! ## Strings -/

theorem strings_selection (field : Field) (spec : Spec) :
    (Value.select? field spec).toList.flatMap Value.strings =
      (Value.selection field spec).map Subfield.value := by
  unfold Value.select?
  split
  · rename_i hnone
    rw [List.isEmpty_iff.mp hnone]
    rfl
  · exact List.append_nil _

theorem strings_selectAll (spec : Spec) : ∀ fields : List Field,
    (spec.selectAll fields).flatMap Value.strings =
      fields.flatMap fun field => (Value.selection field spec).map Subfield.value
  | [] => rfl
  | field :: fields => by
    have hone := strings_selection field spec
    have hrest := strings_selectAll spec fields
    unfold Spec.selectAll at hrest ⊢
    rw [List.flatMap_cons, ← hone, ← hrest, List.filterMap_cons]
    cases Value.select? field spec with
    | none => rfl
    | some value => simp

/-- Of a spec with one code, these are the strings under the code that are not empty. -/
theorem map_value_selection (field : Field) (tag : String) (code : Char) :
    (Value.selection field ⟨tag, [code]⟩).map Subfield.value =
      (field.valuesFor code).filter fun s => s ≠ "" := by
  unfold Value.selection Field.valuesFor Content.valuesFor
  rw [List.filter_map, List.filter_filter]
  refine congrArg (List.map Subfield.value) (List.filter_congr fun part _ => ?_)
  rw [Bool.eq_iff_iff]
  simp [Spec.wants, and_comm]

end Marc.Extraction
