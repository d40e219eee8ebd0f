import Marc.Proofs.Extraction.Reading
import Marc.Proofs.Linkage

/-!
# Numbers and scripts in linkages

The number of a pair and the script of a counterpart stand behind the first hyphen of a linkage
(`occurrence` and `script_id` of a `LinkageInfo`), and they are not reliable. Here any of them are
replaced by other texts: `Record.Renumbered` relates a record with the records that come out of
that. A field of such a record names the same tag as before (`Field.Renumbered.namedTag?_eq`) and
points at the same tags, as long as these hold no hyphen (`Field.Renumbered.pointsAt_eq`).

Results:
* `isPrefixOf_append_hyphen`: a tag without a hyphen does not see past the first hyphen of a text.
* `sameReading_of_renumbered`: a spec that does not ask for linkages reads the same.
* `extract_renumbered`: **extraction does not depend on numbers and scripts**, and neither do the
  fields in another script that it takes for one spec.
-/

namespace Marc

/-! ## Other texts behind the first hyphen -/

/-- The texts are equal, or both have a hyphen and differ at most behind the first one. -/
def SameUpToHyphen (s t : String) : Prop :=
  s = t ∨ ∃ head tail tail' : List Char, '-' ∉ head ∧
    s.toList = head ++ '-' :: tail ∧ t.toList = head ++ '-' :: tail'

/-- Another number or script may stand in a linkage; any other subfield is the same. -/
structure Subfield.Renumbered (a b : Subfield) : Prop where
  code : a.code = b.code
  value : a.value = b.value ∨ a.code = Field.linkageCode ∧ SameUpToHyphen a.value b.value

/-- Other numbers and scripts may stand in the linkages of the content. -/
inductive Content.Renumbered : Content → Content → Prop
  | direct (value : String) : Renumbered (.direct value) (.direct value)
  | subfields {parts parts' : List Subfield} (h : List.Forall₂ Subfield.Renumbered parts parts') :
      Renumbered (.subfields parts) (.subfields parts')

/-- Other numbers and scripts may stand in the linkages of the field. -/
structure Field.Renumbered (a b : Field) : Prop where
  systemTag : a.systemTag = b.systemTag
  tag : a.tag = b.tag
  indicator1 : a.indicator1 = b.indicator1
  indicator2 : a.indicator2 = b.indicator2
  content : Content.Renumbered a.content b.content

/-- Other numbers and scripts may stand in the linkages of the record. -/
def Record.Renumbered (record record' : Record) : Prop :=
  List.Forall₂ Field.Renumbered record record'

/-! ## Texts -/

/-- A tag without a hyphen does not see past the first hyphen of a text. -/
theorem isPrefixOf_append_hyphen : ∀ {tag : List Char}, '-' ∉ tag → ∀ head tail : List Char,
    tag.isPrefixOf (head ++ '-' :: tail) = tag.isPrefixOf head
  | [], _, _, _ => rfl
  | c :: tag, h, [], tail => by
    have hc : c ≠ '-' := fun e => h (e ▸ List.mem_cons_self)
    simp [List.isPrefixOf, hc]
  | c :: tag, h, d :: head, tail => by
    have ih := isPrefixOf_append_hyphen (fun hm => h (List.mem_cons_of_mem c hm)) head tail
    simp only [List.cons_append, List.isPrefixOf, ih]

namespace SameUpToHyphen

variable {s t : String}

theorem isPrefixOf_eq (h : SameUpToHyphen s t) {tag : List Char} (ht : '-' ∉ tag) :
    tag.isPrefixOf s.toList = tag.isPrefixOf t.toList := by
  obtain rfl | ⟨head, tail, tail', -, hs, ht'⟩ := h
  · rfl
  · rw [hs, ht', isPrefixOf_append_hyphen ht, isPrefixOf_append_hyphen ht]

theorem mem_iff (h : SameUpToHyphen s t) : '-' ∈ s.toList ↔ '-' ∈ t.toList := by
  obtain rfl | ⟨head, tail, tail', -, hs, ht⟩ := h
  · rfl
  · simp [hs, ht]

theorem takeWhile_eq (h : SameUpToHyphen s t) :
    s.toList.takeWhile (· != '-') = t.toList.takeWhile (· != '-') := by
  obtain rfl | ⟨head, tail, tail', hh, hs, ht⟩ := h
  · rfl
  · rw [hs, ht, takeWhile_append_hyphen hh, takeWhile_append_hyphen hh]

end SameUpToHyphen

/-! ## Subfields -/

theorem Subfield.Renumbered.sameUpToHyphen {a b : Subfield} (h : a.Renumbered b) :
    SameUpToHyphen a.value b.value :=
  h.value.elim Or.inl And.right

/-- A subfield that is no linkage is the same. -/
theorem Subfield.Renumbered.eq_of_code {a b : Subfield} (h : a.Renumbered b)
    (hc : a.code ≠ Field.linkageCode) : a = b := by
  have hv : a.value = b.value := h.value.elim id fun hl => absurd hl.1 hc
  cases a
  cases b
  rw [Subfield.mk.injEq]
  exact ⟨h.code, hv⟩

namespace Content.Renumbered

variable {a b : Content}

theorem parts (h : a.Renumbered b) : List.Forall₂ Subfield.Renumbered a.parts b.parts := by
  cases h with
  | direct value => exact .nil
  | subfields hp => exact hp

theorem direct?_eq (h : a.Renumbered b) : a.direct? = b.direct? := by
  cases h with
  | direct value => rfl
  | subfields hp => rfl

/-- The linkages differ at most behind their first hyphens. -/
theorem linkages (h : a.Renumbered b) :
    List.Forall₂ SameUpToHyphen (a.valuesFor Field.linkageCode)
      (b.valuesFor Field.linkageCode) := by
  unfold Content.valuesFor
  rw [List.forall₂_map_left_iff, List.forall₂_map_right_iff]
  have hf : List.Forall₂ Subfield.Renumbered
      (a.parts.filter fun part => part.code == Field.linkageCode)
      (b.parts.filter fun part => part.code == Field.linkageCode) :=
    List.rel_filter (fun p q hs => by simp only [hs.code]) h.parts
  exact hf.imp fun _ _ hs => hs.sameUpToHyphen

end Content.Renumbered

/-! ## Fields -/

namespace Field.Renumbered

variable {a b : Field} {spec : Spec}

/-- The field points at the same tags without a hyphen. -/
theorem pointsAt_eq (h : a.Renumbered b) {tag : String} (ht : '-' ∉ tag.toList) :
    a.pointsAt tag = b.pointsAt tag := by
  have hl := h.content.linkages
  unfold pointsAt valuesFor
  generalize a.content.valuesFor linkageCode = linkages at hl ⊢
  generalize b.content.valuesFor linkageCode = linkages' at hl ⊢
  induction hl with
  | nil => rfl
  | cons hs _ ih => rw [List.any_cons, List.any_cons, hs.isPrefixOf_eq ht, ih]

/-- The field names the same tag. -/
theorem namedTag?_eq (h : a.Renumbered b) :
    Extraction.namedTag? a = Extraction.namedTag? b := by
  have hl := h.content.linkages
  unfold Extraction.namedTag? linkage? first? valuesFor
  generalize a.content.valuesFor linkageCode = linkages at hl ⊢
  generalize b.content.valuesFor linkageCode = linkages' at hl ⊢
  cases hl with
  | nil => rfl
  | cons hs _ => simp [Option.filter, hs.mem_iff, hs.takeWhile_eq]

/-- The wanted subfields are the same, when linkages are not wanted. -/
theorem selection_eq (h : a.Renumbered b) (hw : spec.wants linkageCode = false) :
    Value.selection a spec = Value.selection b spec := by
  have hp := h.content.parts
  unfold Value.selection subfields
  generalize a.content.parts = parts at hp ⊢
  generalize b.content.parts = parts' at hp ⊢
  induction hp with
  | nil => rfl
  | @cons part part' _ _ hs _ ih =>
    by_cases hc : part.code = linkageCode
    · -- the values may differ, but neither is wanted
      have hp : spec.wants part.code = false := hc ▸ hw
      have hp' : spec.wants part'.code = false := hs.code ▸ hp
      rw [List.filter_cons_of_neg (by simp [hp]), List.filter_cons_of_neg (by simp [hp']), ih]
    · rw [hs.eq_of_code hc, List.filter_cons, List.filter_cons, ih]

theorem select?_eq (h : a.Renumbered b) (hw : spec.wants linkageCode = false) :
    Value.select? a spec = Value.select? b spec := by
  unfold Value.select?
  rw [h.selection_eq hw, h.tag]

theorem originValue?_eq (h : a.Renumbered b) (hw : spec.wants linkageCode = false) :
    Extraction.originValue? spec a = Extraction.originValue? spec b := by
  unfold Extraction.originValue? direct?
  rw [h.tag, h.content.direct?_eq, h.select?_eq hw]

end Field.Renumbered

/-! ## Records -/

theorem filterMap_eq_of_renumbered {fields fields' : List Field} {f : Field → Option Value}
    (h : List.Forall₂ Field.Renumbered fields fields')
    (hf : ∀ a b : Field, a.Renumbered b → f a = f b) :
    fields.filterMap f = fields'.filterMap f := by
  induction h with
  | nil => rfl
  | cons hs _ ih => rw [List.filterMap_cons, List.filterMap_cons, hf _ _ hs, ih]

namespace Record.Renumbered

variable {record record' : Record} {spec : Spec} {a b : Field}

theorem withTag (h : record.Renumbered record') (tag : String) :
    List.Forall₂ Field.Renumbered (record.withTag tag) (record'.withTag tag) :=
  List.rel_filter (fun a b hs => by simp only [hs.tag]) h

/-- The fields with one tag that point at another one. -/
theorem pointing (h : record.Renumbered record') (tag : String) {target : String}
    (ht : '-' ∉ target.toList) :
    List.Forall₂ Field.Renumbered
      ((record.withTag tag).filter fun field => field.pointsAt target)
      ((record'.withTag tag).filter fun field => field.pointsAt target) :=
  List.rel_filter (fun a b hs => by simp only [hs.pointsAt_eq ht]) (h.withTag tag)

theorem counterparts (h : record.Renumbered record') (hf : a.Renumbered b)
    (ht : '-' ∉ a.tag.toList) :
    List.Forall₂ Field.Renumbered (record.counterparts a) (record'.counterparts b) := by
  rw [Extraction.counterparts_eq, Extraction.counterparts_eq, hf.namedTag?_eq, hf.tag]
  cases Extraction.namedTag? b with
  | none => exact .nil
  | some tag => exact h.pointing tag (hf.tag ▸ ht)

end Record.Renumbered

namespace Extraction

variable {record record' : Record} {spec : Spec} {specs : List Spec} {a b : Field}

theorem selectAll_eq_of_renumbered {fields fields' : List Field}
    (h : List.Forall₂ Field.Renumbered fields fields')
    (hw : spec.wants Field.linkageCode = false) :
    spec.selectAll fields = spec.selectAll fields' :=
  filterMap_eq_of_renumbered h fun _ _ hs => hs.select?_eq hw

theorem linkedLists_eq_of_renumbered (h : record.Renumbered record')
    (hw : spec.wants Field.linkageCode = false) (ht : '-' ∉ spec.tag.toList) :
    linkedLists record spec = linkedLists record' spec := by
  -- the search for counterparts asks for the tag of the field, so the fields keep their tag here
  have hown : List.Forall₂ (fun a b : Field => a.tag = spec.tag ∧ a.Renumbered b)
      (record.withTag spec.tag) (record'.withTag spec.tag) :=
    (List.forall₂_and_left _ _).mpr ⟨fun _ hm => (Record.mem_withTag.mp hm).2, h.withTag _⟩
  unfold linkedLists
  rw [← List.forall₂_eq_eq_eq, List.forall₂_map_left_iff, List.forall₂_map_right_iff]
  exact hown.imp fun a b hs => selectAll_eq_of_renumbered (h.counterparts hs.2 (hs.1 ▸ ht)) hw

theorem sameReading_of_renumbered (h : record.Renumbered record')
    (hw : spec.wants Field.linkageCode = false) (ht : '-' ∉ spec.tag.toList) :
    SameReading record record' spec spec where
  tag := rfl
  isDirect := rfl
  origin := filterMap_eq_of_renumbered h fun _ _ hs => hs.originValue?_eq hw
  linked := linkedLists_eq_of_renumbered h hw ht
  pointing := selectAll_eq_of_renumbered (h.pointing _ ht) hw

/-- **Extraction does not depend on numbers and scripts.** Whatever stands behind the first
hyphens of linkages, and in however many of them it is replaced: specs that do not ask for
linkages, with tags without a hyphen, select the same values, and each gets the same fields in
another script. -/
theorem extract_renumbered (h : record.Renumbered record')
    (hs : ∀ spec ∈ specs, spec.wants Field.linkageCode = false ∧ '-' ∉ spec.tag.toList) :
    extract record' specs = extract record specs ∧
      ∀ spec ∈ specs, pointingValues record' spec = pointingValues record spec := by
  have hread : ∀ spec ∈ specs, SameReading record record' spec spec := fun spec hm =>
    sameReading_of_renumbered h (hs spec hm).1 (hs spec hm).2
  exact ⟨(extract_congr (List.forall₂_same.mpr hread)).symm,
    fun spec hm => (hread spec hm).pointing.symm⟩

/-- A name, its counterpart in another script, and the leader. -/
def numberedName : Record :=
  [(Field.empty "700" '1' ' ').withSubfields [⟨'6', "880-04"⟩, ⟨'a', "Murakami"⟩],
   (Field.empty "880" '1' ' ').withSubfields [⟨'6', "700-04/$1"⟩, ⟨'a', "村上"⟩],
   .leader "00000nam a2200000 a 4500"]

/-- The same record without a number on the one side and with another script on the other. -/
def renumberedName : Record :=
  [(Field.empty "700" '1' ' ').withSubfields [⟨'6', "880-"⟩, ⟨'a', "Murakami"⟩],
   (Field.empty "880" '1' ' ').withSubfields [⟨'6', "700-880-04/(3/r"⟩, ⟨'a', "村上"⟩],
   .leader "00000nam a2200000 a 4500"]

theorem numberedName_renumbered : numberedName.Renumbered renumberedName := by
  have hname : SameUpToHyphen "880-04" "880-" :=
    .inr ⟨['8', '8', '0'], ['0', '4'], [], by decide, by decide, by decide⟩
  have hscript : SameUpToHyphen "700-04/$1" "700-880-04/(3/r" :=
    .inr ⟨['7', '0', '0'], "04/$1".toList, "880-04/(3/r".toList, by decide, by decide, by decide⟩
  refine .cons ⟨rfl, rfl, rfl, rfl, .subfields ?_⟩
    (.cons ⟨rfl, rfl, rfl, rfl, .subfields ?_⟩ (.cons ⟨rfl, rfl, rfl, rfl, .direct _⟩ .nil))
  · exact .cons ⟨rfl, .inr ⟨rfl, hname⟩⟩ (.cons ⟨rfl, .inl rfl⟩ .nil)
  · exact .cons ⟨rfl, .inr ⟨rfl, hscript⟩⟩ (.cons ⟨rfl, .inl rfl⟩ .nil)

theorem extract_renumbered_name :
    numberedName.Renumbered renumberedName ∧
      (∀ spec ∈ Spec.compile "700ad:008:245a",
        spec.wants Field.linkageCode = false ∧ '-' ∉ spec.tag.toList) ∧
      extract renumberedName (Spec.compile "700ad:008:245a") =
        extract numberedName (Spec.compile "700ad:008:245a") := by
  have hs : ∀ spec ∈ Spec.compile "700ad:008:245a",
      spec.wants Field.linkageCode = false ∧ '-' ∉ spec.tag.toList := by decide
  exact ⟨numberedName_renumbered, hs, (extract_renumbered numberedName_renumbered hs).1⟩

end Extraction

end Marc
