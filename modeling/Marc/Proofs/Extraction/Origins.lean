import Marc.Proofs.Extraction.Vernacular

/-!
# One value for each field

A spec alone gets one value from each field with its tag that holds a wanted subfield. Whatever
else it gets should be in another script. That depends on the first field that leads it to linked
values: `resolve` takes the fields with the tag that it names, and nothing says that it names the
vernacular tag. A field that names its own tag leads to itself.

Results:
* `filter_firstLinkedValues`: of the linked values, all or none are in another script.
* `originSide_eq`: the values that are not in another script are those of the fields with the tag,
  and then the linked values that have gone astray (`strayValues`).
* `originSide_eq_iff`: **one value for each field**, exactly when the first field that leads to
  linked values names the vernacular tag. `selfLinked_repeats`: a field that names itself is
  repeated.
-/

namespace Marc.Extraction

variable {record : Record} {spec : Spec} {field : Field}

/-- The field has the tag of the spec, and a subfield that is wanted and not empty. -/
def Gives (spec : Spec) (field : Field) : Prop :=
  field.tag = spec.tag ∧ ∃ part ∈ field.subfields, spec.wants part.code = true ∧ part.value ≠ ""

instance (spec : Spec) : DecidablePred (Gives spec) := fun _ => inferInstanceAs (Decidable (_ ∧ _))

/-- What a spec alone gets that is not in another script. -/
def originSide (record : Record) (spec : Spec) : List Value :=
  (extract record [spec]).filter fun value => !value.isVernacular

/-- The first field that leads the spec to linked values, if there is one, names the vernacular
tag. -/
def LeadsToVernacular (record : Record) (spec : Spec) : Prop :=
  ∀ field ∈ record.find? fun field => decide (Leads record spec field),
    namedTag? field = some Linkage.vernacularTag

instance (record : Record) (spec : Spec) : Decidable (LeadsToVernacular record spec) :=
  inferInstanceAs (Decidable (∀ field ∈ record.find? _, _))

/-- The linked values that come from fields with another tag than the vernacular one. -/
def strayValues (record : Record) (spec : Spec) : List Value :=
  if LeadsToVernacular record spec then [] else firstLinkedValues record spec

/-! ## Values of the fields themselves -/

theorem select?_eq_none_iff (spec : Spec) (field : Field) :
    Value.select? field spec = none ↔
      ∀ part ∈ field.subfields, spec.wants part.code = true → part.value = "" := by
  unfold Value.select? Value.selection
  simp [List.isEmpty_iff, List.filter_eq_nil_iff]

theorem gives_iff (spec : Spec) (field : Field) :
    Gives spec field ↔ field.tag = spec.tag ∧ Value.select? field spec ≠ none := by
  unfold Gives
  rw [ne_eq, select?_eq_none_iff]
  simp

/-- One value for each field that gives any, and it is what the spec selects from the field. -/
theorem map_some_ownValues (record : Record) (spec : Spec) :
    (ownValues record spec).map some =
      (record.filter fun field => decide (Gives spec field)).map
        fun field => Value.select? field spec := by
  unfold ownValues Spec.selectAll Record.withTag
  -- on the left a field is passed over for its tag or for its subfields, on the right for either
  induction record with
  | nil => rfl
  | cons field rest ih =>
    by_cases ht : field.tag = spec.tag
    · rw [List.filter_cons_of_pos (by simpa using ht), List.filterMap_cons]
      cases hs : Value.select? field spec with
      | none =>
        have hn : ¬ Gives spec field := fun hg => ((gives_iff spec field).mp hg).2 hs
        rw [List.filter_cons_of_neg (by simpa using hn), ih]
      | some value =>
        have hg : Gives spec field := (gives_iff spec field).mpr ⟨ht, by simp [hs]⟩
        rw [List.filter_cons_of_pos (by simpa using hg), List.map_cons, List.map_cons, ih, hs]
    · have hn : ¬ Gives spec field := fun hg => ht hg.1
      rw [List.filter_cons_of_neg (by simpa using ht), List.filter_cons_of_neg (by simpa using hn),
        ih]

/-! ## Linked values -/

theorem leadsToVernacular_iff
    (hf : record.find? (fun field => decide (Leads record spec field)) = some field) :
    LeadsToVernacular record spec ↔ namedTag? field = some Linkage.vernacularTag := by
  unfold LeadsToVernacular
  simp [hf]

/-- The linked values that are not in another script are the stray ones: either all or none. -/
theorem filter_firstLinkedValues (record : Record) (spec : Spec) :
    (firstLinkedValues record spec).filter (fun value => !value.isVernacular) =
      strayValues record spec := by
  unfold strayValues
  cases hf : record.find? fun field => decide (Leads record spec field) with
  | none =>
    have hnil : firstLinkedValues record spec = [] := by
      unfold firstLinkedValues
      rw [hf]
    rw [hnil, ite_self, List.filter_nil]
  | some field =>
    rw [firstLinkedValues_of_find? hf]
    by_cases hn : namedTag? field = some Linkage.vernacularTag
    · rw [if_pos ((leadsToVernacular_iff hf).mpr hn), List.filter_eq_nil_iff]
      intro value hm
      simp [(isVernacular_iff_of_mem_linkedValues hm).mpr hn]
    · rw [if_neg (mt (leadsToVernacular_iff hf).mp hn), List.filter_eq_self]
      intro value hm
      simpa using mt (isVernacular_iff_of_mem_linkedValues hm).mp hn

theorem strayValues_eq_nil_iff : strayValues record spec = [] ↔ LeadsToVernacular record spec := by
  unfold strayValues
  split
  · rename_i h
    exact iff_of_true rfl h
  · rename_i h
    refine iff_of_false (fun hnil => h fun field hf => ?_) h
    rw [firstLinkedValues_of_find? hf] at hnil
    exact absurd hnil (leads_of_find? hf).2.2

/-! ## A spec alone -/

theorem extract_singleton (hc : spec.isDirect = false) :
    extract record [spec] =
      ownValues record spec ++ firstLinkedValues record spec ++ loneValues record [spec] spec := by
  rw [extract_eq_zipIdx, ← originValues_of_codes hc]
  simp [broughtValues, SettledBy, hc]

/-- What is not in another script comes from the fields with the tag, or has gone astray. -/
theorem originSide_eq (hc : spec.isDirect = false) (hv : spec.tag ≠ Linkage.vernacularTag) :
    originSide record spec = ownValues record spec ++ strayValues record spec := by
  have hown : (ownValues record spec).filter (fun value => !value.isVernacular) =
      ownValues record spec := by
    rw [← originValues_of_codes hc, List.filter_eq_self]
    intro value hm
    simp [not_isVernacular_of_mem_originValues hv hm]
  have hlone : (loneValues record [spec] spec).filter (fun value => !value.isVernacular) = [] := by
    rw [List.filter_eq_nil_iff]
    intro value hm
    unfold loneValues at hm
    split at hm
    · exact absurd hm List.not_mem_nil
    · simp [isVernacular_of_mem_pointingValues hm]
  unfold originSide
  rw [extract_singleton hc, List.filter_append, List.filter_append, hown, hlone,
    filter_firstLinkedValues, List.append_nil]

/-- **When a spec alone gets one value for each field** with its tag and a wanted subfield, in the
order of the record, and beyond these nothing but values in another script: exactly when the first
field that leads it to linked values names the vernacular tag. -/
theorem originSide_eq_iff (record : Record) (hc : spec.isDirect = false)
    (hv : spec.tag ≠ Linkage.vernacularTag) :
    (originSide record spec).map some =
        (record.filter fun field => decide (Gives spec field)).map
          (fun field => Value.select? field spec) ↔
      LeadsToVernacular record spec := by
  rw [originSide_eq hc hv, ← map_some_ownValues, List.map_append, List.append_right_eq_self,
    List.map_eq_nil_iff, strayValues_eq_nil_iff]

theorem originSide_eq_iff_nameAndTitle :
    (⟨"700", ['a']⟩ : Spec).isDirect = false ∧ "700" ≠ Linkage.vernacularTag ∧
      (originSide nameAndTitle ⟨"700", ['a']⟩).map some =
        (nameAndTitle.filter fun field => decide (Gives ⟨"700", ['a']⟩ field)).map
          fun field => Value.select? field ⟨"700", ['a']⟩ := by
  have hv : "700" ≠ Linkage.vernacularTag := by decide
  exact ⟨rfl, hv, (originSide_eq_iff nameAndTitle rfl hv).mpr (by decide)⟩

/-- A name whose linkage names its own tag. -/
def selfLinked : Record :=
  [(Field.empty "700" '1' ' ').withSubfields [⟨'6', "700-01"⟩, ⟨'a', "Murakami"⟩]]

/-- A field that names itself is repeated: linked values are taken from fields with any tag. -/
theorem selfLinked_repeats :
    ¬ ∀ (record : Record) (spec : Spec), spec.isDirect = false →
      spec.tag ≠ Linkage.vernacularTag →
      (originSide record spec).map some =
        (record.filter fun field => decide (Gives spec field)).map
          fun field => Value.select? field spec := by
  intro h
  have heq := h selfLinked ⟨"700", ['a']⟩ rfl (by decide)
  exact absurd heq (by decide)

end Marc.Extraction
