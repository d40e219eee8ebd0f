import Marc.Proofs.Extraction.Reading
import Mathlib.Algebra.Ring.Nat
import Mathlib.Data.List.Induction
import Mathlib.Data.List.Pairwise
import Mathlib.Data.List.Perm.Basic

/-!
# Values in another script

A field in another script can reach the result of `extract` on two ways: from a field with the
tag of a spec that names it, or in the second pass. This file follows both, and compares what they
yield with `vernacular_values`.

Results:
* `linkedValues_of_namesVernacular`: a field that names the vernacular tag leads either to nothing
  or to all values that point at its tag.
* `extractText_vernacular_perm`: **no value in another script is lost and none is doubled**, when
  the specs name different tags and the fields name no other counterparts.
* `vernacular_length_le_iff`: for specs that share one tag, exactly when there are at most as many
  values in another script as fields that point at the tag. `lone_counterparts_repeat`: there can
  be more, because the second pass does not settle the tag.
-/

namespace Marc.Extraction

variable {record : Record} {specs : List Spec} {spec : Spec} {field : Field} {value : Value}

/-! ## The tag of a value -/

theorem tag_of_mem_selectAll {fields : List Field} (h : value ∈ spec.selectAll fields) :
    ∃ field ∈ fields, value.tag = field.tag := by
  obtain ⟨field, hf, hv⟩ := List.mem_filterMap.mp h
  exact ⟨field, hf, by rw [(Value.select?_eq_some.mp hv).2]⟩

theorem tag_of_mem_originValues (h : value ∈ originValues record spec) :
    value.tag = spec.tag := by
  cases hd : spec.isDirect with
  | true =>
    rw [originValues_of_direct hd] at h
    obtain ⟨text, -, rfl⟩ := List.mem_map.mp h
    rfl
  | false =>
    rw [originValues_of_codes hd] at h
    obtain ⟨field, hf, ht⟩ := tag_of_mem_selectAll h
    rw [ht, (Record.mem_withTag.mp hf).2]

/-- Linked values come from fields with the tag that the field names. -/
theorem tag_of_mem_linkedValues (h : value ∈ linkedValues record spec field) :
    namedTag? field = some value.tag := by
  obtain ⟨other, ho, ht⟩ := tag_of_mem_selectAll h
  rw [counterparts_eq] at ho
  cases hn : namedTag? field with
  | none => simp [hn] at ho
  | some tag =>
    rw [hn] at ho
    rw [ht, (Record.mem_withTag.mp (List.mem_of_mem_filter ho)).2]

/-- So either all of them are in another script or none is. -/
theorem isVernacular_iff_of_mem_linkedValues (h : value ∈ linkedValues record spec field) :
    value.isVernacular = true ↔ namedTag? field = some Linkage.vernacularTag := by
  rw [tag_of_mem_linkedValues h]
  simp [Value.isVernacular]

theorem isVernacular_of_mem_pointingValues (h : value ∈ pointingValues record spec) :
    value.isVernacular = true := by
  obtain ⟨field, hf, ht⟩ := tag_of_mem_selectAll h
  have := (Record.mem_withTag.mp (List.mem_of_mem_filter hf)).2
  simp [Value.isVernacular, ht, this]

theorem not_isVernacular_of_mem_originValues (hv : spec.tag ≠ Linkage.vernacularTag)
    (h : value ∈ originValues record spec) : value.isVernacular = false := by
  simp [Value.isVernacular, tag_of_mem_originValues h, hv]

/-- A direct spec selects nothing from subfields. -/
theorem pointingValues_of_direct (h : spec.isDirect = true) : pointingValues record spec = [] := by
  unfold pointingValues Spec.selectAll
  rw [List.filterMap_eq_nil_iff]
  intro field _
  have hw : ∀ code, spec.wants code = false := by
    intro code
    simp [Spec.wants, List.isEmpty_iff.mp h]
  simp [Value.select?, Value.selection, hw]

/-! ## Fields that name nothing but the vernacular tag -/

/-- Every field with the tag of one of the specs names the vernacular tag, if its first linkage
can be read: that is what stands before the first hyphen. -/
def NamesVernacular (record : Record) (specs : List Spec) : Prop :=
  ∀ field ∈ record, (∃ spec ∈ specs, spec.tag = field.tag) →
    ∀ linkage ∈ field.linkage?, '-' ∈ linkage.toList →
      String.ofList (linkage.toList.takeWhile (· != '-')) = Linkage.vernacularTag

instance (record : Record) (specs : List Spec) : Decidable (NamesVernacular record specs) :=
  inferInstanceAs (Decidable (∀ field ∈ record, _))

/-- Such a field leads to nothing, or to all values that point at its tag. -/
theorem linkedValues_of_namesVernacular (h : NamesVernacular record specs) (hs : spec ∈ specs)
    (hf : field ∈ record) (ht : field.tag = spec.tag)
    (hne : linkedValues record spec field ≠ []) :
    linkedValues record spec field = pointingValues record spec := by
  unfold linkedValues pointingValues at *
  unfold Record.counterparts at *
  cases hl : field.link? with
  | none => rw [hl] at hne; exact absurd rfl hne
  | some link =>
    obtain ⟨linkage, hx, hp⟩ := Option.bind_eq_some_iff.mp hl
    obtain ⟨hm, htag⟩ := Linkage.parse?_eq_some hp
    have hv := h field hf ⟨spec, hs, ht.symm⟩ linkage hx hm
    simp only [htag, hv, ht]
    rfl

theorem firstLinkedValues_of_namesVernacular (h : NamesVernacular record specs)
    (hs : spec ∈ specs) (hset : Settles record spec) :
    firstLinkedValues record spec = pointingValues record spec := by
  have hne := mt (firstLinkedValues_eq_nil_iff hset.1).mp (not_not.mpr hset)
  unfold firstLinkedValues at hne ⊢
  cases hf : record.find? fun field => decide (Leads record spec field) with
  | none => rw [hf] at hne; exact absurd rfl hne
  | some field =>
    obtain ⟨hm, hl⟩ := leads_of_find? hf
    exact linkedValues_of_namesVernacular h hs hm hl.1 hl.2

/-! ## Specs that name different tags -/

/-- No two specs with codes have the same tag. -/
def TagsDiffer (specs : List Spec) : Prop :=
  specs.Pairwise fun a b => a.isDirect = false → b.isDirect = false → a.tag ≠ b.tag

instance (specs : List Spec) : Decidable (TagsDiffer specs) :=
  inferInstanceAs (Decidable (specs.Pairwise _))

/-- No spec before the position `n` settles the tag of the spec there. -/
theorem not_settledBy_take (h : TagsDiffer specs) (hc : spec.isDirect = false) {n : Nat}
    (hn : specs[n]? = some spec) : ¬ SettledBy record (specs.take n) spec.tag := by
  rintro ⟨other, ho, ht, hs⟩
  obtain ⟨hlt, rfl⟩ := List.getElem?_eq_some_iff.mp hn
  unfold TagsDiffer at h
  rw [← List.take_append_drop n specs, List.drop_eq_getElem_cons hlt] at h
  exact (List.pairwise_append.mp h).2.2 other ho _ List.mem_cons_self hs.1 hc ht

theorem settledBy_iff_settles (h : TagsDiffer specs) (hc : spec.isDirect = false)
    (hm : spec ∈ specs) : SettledBy record specs spec.tag ↔ Settles record spec := by
  refine ⟨?_, fun hs => ⟨spec, hm, rfl, hs⟩⟩
  rintro ⟨other, ho, ht, hs⟩
  by_cases he : other = spec
  · exact he ▸ hs
  · have : Std.Symm fun a b : Spec =>
        a.isDirect = false → b.isDirect = false → a.tag ≠ b.tag :=
      ⟨fun a b hab hb ha => (hab ha hb).symm⟩
    exact absurd ht (List.Pairwise.forall h ho hm he hs.1 hc)

/-- **Each tag is served once.** What a spec brings in the first pass and what is left for it in
the second make up the values that point at its tag: one of the two is empty. -/
theorem broughtValues_append_loneValues (hd : TagsDiffer specs) (hv : NamesVernacular record specs)
    {n : Nat} (hn : specs[n]? = some spec) :
    broughtValues record (specs.take n) spec ++ loneValues record specs spec =
      pointingValues record spec := by
  have hm := List.mem_of_getElem? hn
  unfold broughtValues loneValues
  cases hc : spec.isDirect with
  | true => simp [pointingValues_of_direct hc]
  | false =>
    have hfirst : ¬ SettledBy record (specs.take n) spec.tag := not_settledBy_take hd hc hn
    have hall : SettledBy record specs spec.tag ↔ Settles record spec :=
      settledBy_iff_settles hd hc hm
    by_cases hs : Settles record spec
    · rw [if_neg (by simp [hfirst]), if_pos (Or.inr (hall.mpr hs)),
        firstLinkedValues_of_namesVernacular hv hm hs, List.append_nil]
    · rw [if_neg (by simp [hfirst]), if_neg (by simp [hall, hs]),
        (firstLinkedValues_eq_nil_iff hc).mpr hs, List.nil_append]

/-! ## Both ways together -/

/-- Taking the specs with their positions is taking the specs. -/
theorem flatMap_eq_zipIdx (specs : List Spec) (f : Spec → List Value) :
    specs.flatMap f = specs.zipIdx.flatMap fun entry => f entry.1 := by
  conv => lhs; rw [← List.zipIdx_map_fst 0 specs]
  rw [List.flatMap_map]

/-- Extraction with each spec beside its position. -/
theorem extract_eq_zipIdx (record : Record) (specs : List Spec) :
    extract record specs =
      (specs.zipIdx.flatMap fun entry =>
        originValues record entry.1 ++ broughtValues record (specs.take entry.2) entry.1) ++
      specs.zipIdx.flatMap fun entry => loneValues record specs entry.1 := by
  unfold extract
  rw [(reached_firstPass record specs).values, remaining_eq, flatMap_eq_zipIdx]
  rfl

section OneWay

variable (hv : ∀ spec ∈ specs, spec.tag ≠ Linkage.vernacularTag) (hd : TagsDiffer specs)
  (hn : NamesVernacular record specs)

include hv hd hn

/-- At each position, only what is brought and what is left is in another script. -/
theorem isVernacular_at {n : Nat} (hget : specs[n]? = some spec) :
    (∀ value ∈ originValues record spec, value.isVernacular = false) ∧
      (∀ value ∈ broughtValues record (specs.take n) spec, value.isVernacular = true) ∧
      ∀ value ∈ loneValues record specs spec, value.isVernacular = true := by
  have hboth := broughtValues_append_loneValues hd hn hget
  refine ⟨fun value h => ?_, fun value h => ?_, fun value h => ?_⟩
  · exact not_isVernacular_of_mem_originValues (hv spec (List.mem_of_getElem? hget)) h
  · exact isVernacular_of_mem_pointingValues (hboth ▸ List.mem_append_left _ h)
  · exact isVernacular_of_mem_pointingValues (hboth ▸ List.mem_append_right _ h)

/-- The values in another script, brought or left, are those that point at the tags. -/
theorem filter_isVernacular_extract :
    ((extract record specs).filter Value.isVernacular).Perm
      (specs.flatMap (pointingValues record)) := by
  rw [extract_eq_zipIdx, List.filter_append, List.filter_flatMap, List.filter_flatMap]
  have hbrought : (specs.zipIdx.flatMap fun entry => (originValues record entry.1 ++
      broughtValues record (specs.take entry.2) entry.1).filter Value.isVernacular) =
      specs.zipIdx.flatMap fun entry => broughtValues record (specs.take entry.2) entry.1 := by
    refine List.flatMap_congr fun entry he => ?_
    obtain ⟨ho, hb, -⟩ := isVernacular_at hv hd hn (List.mem_zipIdx_iff_getElem?.mp he)
    rw [List.filter_append, List.filter_eq_nil_iff.mpr (by simpa using ho), List.nil_append,
      List.filter_eq_self.mpr hb]
  have hlone : (specs.zipIdx.flatMap fun entry =>
      (loneValues record specs entry.1).filter Value.isVernacular) =
      specs.zipIdx.flatMap fun entry => loneValues record specs entry.1 := by
    refine List.flatMap_congr fun entry he => ?_
    obtain ⟨-, -, hl⟩ := isVernacular_at hv hd hn (List.mem_zipIdx_iff_getElem?.mp he)
    exact List.filter_eq_self.mpr hl
  have hjoin : (specs.zipIdx.flatMap fun entry =>
      broughtValues record (specs.take entry.2) entry.1 ++ loneValues record specs entry.1) =
      specs.flatMap (pointingValues record) := by
    rw [flatMap_eq_zipIdx]
    refine List.flatMap_congr fun entry he => ?_
    exact broughtValues_append_loneValues hd hn (List.mem_zipIdx_iff_getElem?.mp he)
  rw [hbrought, hlone, ← hjoin]
  exact List.flatMap_append_perm _ _ _

/-- All other values are what the fields give the specs by themselves. -/
theorem filter_not_isVernacular_extract :
    (extract record specs).filter (fun value => !value.isVernacular) =
      specs.flatMap (originValues record) := by
  rw [extract_eq_zipIdx, List.filter_append, List.filter_flatMap, List.filter_flatMap]
  have hown : (specs.zipIdx.flatMap fun entry => (originValues record entry.1 ++
      broughtValues record (specs.take entry.2) entry.1).filter fun value =>
        !value.isVernacular) = specs.flatMap (originValues record) := by
    rw [flatMap_eq_zipIdx]
    refine List.flatMap_congr fun entry he => ?_
    obtain ⟨ho, hb, -⟩ := isVernacular_at hv hd hn (List.mem_zipIdx_iff_getElem?.mp he)
    rw [List.filter_append, List.filter_eq_self.mpr (by simpa using ho),
      List.filter_eq_nil_iff.mpr (by simpa using hb), List.append_nil]
  have hlone : (specs.zipIdx.flatMap fun entry =>
      (loneValues record specs entry.1).filter fun value => !value.isVernacular) = [] := by
    rw [List.flatMap_eq_nil_iff]
    intro entry he
    obtain ⟨-, -, hl⟩ := isVernacular_at hv hd hn (List.mem_zipIdx_iff_getElem?.mp he)
    exact List.filter_eq_nil_iff.mpr (by simpa using hl)
  rw [hown, hlone, List.append_nil]

end OneWay

/-- **No value in another script is lost and none is doubled.** Let a spec string name different
tags and not the vernacular one, and let the fields with these tags name no other counterparts
than fields with the vernacular tag. Then the values in another script are those of
`vernacularValues`, each as often, all others are what the fields give by themselves, and a
single spec with codes yields the one list after the other. -/
theorem extractText_vernacular_perm (record : Record) (text : String)
    (hv : ∀ spec ∈ Spec.compile text, spec.tag ≠ Linkage.vernacularTag)
    (hd : TagsDiffer (Spec.compile text)) (hn : NamesVernacular record (Spec.compile text)) :
    ((extractText record text).filter Value.isVernacular).Perm (vernacularValues record text) ∧
      (extractText record text).filter (fun value => !value.isVernacular) =
        (Spec.compile text).flatMap (originValues record) ∧
      ∀ spec, Spec.compile text = [spec] → spec.isDirect = false →
        extract record [spec] = ownValues record spec ++ pointingValues record spec := by
  refine ⟨filter_isVernacular_extract hv hd hn, filter_not_isVernacular_extract hv hd hn,
    fun spec hs hc => ?_⟩
  rw [hs] at hd hn
  have hboth := broughtValues_append_loneValues hd hn (show [spec][0]? = some spec from rfl)
  rw [extract_eq_zipIdx, ← hboth, ← originValues_of_codes hc]
  simp

/-- A name in two scripts under a wrong number, a title whose field names no counterpart, and a
control field. -/
def nameAndTitle : Record :=
  [.control "008" "760629",
   (Field.empty "700" '1' ' ').withSubfields [⟨'a', "Jones"⟩],
   (Field.empty "700" '1' ' ').withSubfields [⟨'6', "880-04"⟩, ⟨'a', "Murakami"⟩],
   (Field.empty "245" '1' '0').withSubfields [⟨'6', "88002"⟩, ⟨'a', "Noruwei no mori"⟩],
   (Field.empty "880" '1' '0').withSubfields [⟨'6', "245-00/$1"⟩, ⟨'a', "ノルウェイの森"⟩],
   (Field.empty "880" '1' ' ').withSubfields [⟨'6', "700-09/$1"⟩, ⟨'a', "村上"⟩]]

theorem extractText_vernacular_perm_nameAndTitle :
    (∀ spec ∈ Spec.compile "245a:008:700ad", spec.tag ≠ Linkage.vernacularTag) ∧
      TagsDiffer (Spec.compile "245a:008:700ad") ∧
      NamesVernacular nameAndTitle (Spec.compile "245a:008:700ad") ∧
      ((extractText nameAndTitle "245a:008:700ad").filter Value.isVernacular).Perm
        (vernacularValues nameAndTitle "245a:008:700ad") ∧
      (extractText nameAndTitle "245a:008:700ad").filter (fun value => !value.isVernacular) =
        (Spec.compile "245a:008:700ad").flatMap (originValues nameAndTitle) := by
  have hv : ∀ spec ∈ Spec.compile "245a:008:700ad", spec.tag ≠ Linkage.vernacularTag := by decide
  have hd : TagsDiffer (Spec.compile "245a:008:700ad") := by decide
  have hn : NamesVernacular nameAndTitle (Spec.compile "245a:008:700ad") := by decide
  obtain ⟨hperm, hrest, -⟩ := extractText_vernacular_perm nameAndTitle _ hv hd hn
  exact ⟨hv, hd, hn, hperm, hrest⟩

/-! ## Specs that share one tag -/

/-- From one field, a spec gets at most one value in another script for each field that points at
its tag. -/
theorem length_vernacular_linkedValues_le (ht : field.tag = spec.tag) :
    ((linkedValues record spec field).filter Value.isVernacular).length ≤
      (record.vernacularFor spec.tag).length := by
  by_cases hn : namedTag? field = some Linkage.vernacularTag
  · unfold linkedValues
    rw [counterparts_eq, hn, ht]
    exact Nat.le_trans (List.length_filter_le _ _) (List.length_filterMap_le _ _)
  · have hnil : (linkedValues record spec field).filter Value.isVernacular = [] :=
      List.filter_eq_nil_iff.mpr fun value hm =>
        mt (isVernacular_iff_of_mem_linkedValues hm).mp hn
    rw [hnil]
    exact Nat.zero_le _

theorem length_vernacular_firstLinkedValues_le :
    ((firstLinkedValues record spec).filter Value.isVernacular).length ≤
      (record.vernacularFor spec.tag).length := by
  unfold firstLinkedValues
  cases hf : record.find? fun field => decide (Leads record spec field) with
  | none => exact Nat.zero_le _
  | some field => exact length_vernacular_linkedValues_le (leads_of_find? hf).2.1

/-- All specs ask for subfields of the fields with one tag. -/
def ShareTag (specs : List Spec) (tag : String) : Prop :=
  ∀ spec ∈ specs, spec.isDirect = false ∧ spec.tag = tag

instance (specs : List Spec) (tag : String) : Decidable (ShareTag specs tag) :=
  inferInstanceAs (Decidable (∀ spec ∈ specs, _))

theorem settledBy_iff_of_shareTag {tag : String} (h : ShareTag specs tag) :
    SettledBy record specs tag ↔ ∃ spec ∈ specs, Settles record spec :=
  ⟨fun ⟨spec, hm, _, hs⟩ => ⟨spec, hm, hs⟩, fun ⟨spec, hm, hs⟩ => ⟨spec, hm, (h spec hm).2, hs⟩⟩

section OneTag

variable {tag : String} (hv : tag ≠ Linkage.vernacularTag)

include hv

/-- **The guard of the first pass.** Only the first spec that settles the tag brings values in
another script, and not more than there are fields that point at it. -/
theorem vernacular_yielded (hs : ShareTag specs tag) :
    ((yielded record specs).filter Value.isVernacular).length ≤
        (record.vernacularFor tag).length ∧
      (¬ SettledBy record specs tag → (yielded record specs).filter Value.isVernacular = []) := by
  induction specs using List.reverseRecOn with
  | nil => exact ⟨Nat.zero_le _, fun _ => rfl⟩
  | append_singleton earlier spec ih =>
    obtain ⟨hc, ht⟩ := hs spec (by simp)
    obtain ⟨hle, hnil⟩ := ih fun other ho => hs other (List.mem_append_left _ ho)
    have ho : (originValues record spec).filter Value.isVernacular = [] := by
      rw [List.filter_eq_nil_iff]
      intro value hm
      simp [not_isVernacular_of_mem_originValues (ht ▸ hv) hm]
    rw [yielded_append, List.filter_append, List.filter_append, ho, List.nil_append]
    unfold broughtValues
    by_cases he : SettledBy record earlier tag
    · rw [if_pos (Or.inr (ht ▸ he)), List.filter_nil, List.append_nil]
      exact ⟨hle, fun hn => absurd ((settledBy_append _ _ _).mpr (Or.inl he)) hn⟩
    · rw [if_neg (by simp [hc, ht, he]), hnil he, List.nil_append]
      refine ⟨ht ▸ length_vernacular_firstLinkedValues_le, fun hn => ?_⟩
      have hns : ¬ Settles record spec :=
        fun h => hn ((settledBy_append _ _ _).mpr (Or.inr ⟨ht, h⟩))
      rw [(firstLinkedValues_eq_nil_iff hc).mpr hns, List.filter_nil]

omit hv in
/-- The second pass has nothing left for a settled tag, and takes every spec of an open one. -/
theorem flatMap_loneValues (hs : ShareTag specs tag) :
    specs.flatMap (loneValues record specs) =
      if SettledBy record specs tag then [] else specs.flatMap (pointingValues record) := by
  by_cases hset : SettledBy record specs tag
  · rw [if_pos hset, List.flatMap_eq_nil_iff]
    intro spec hm
    exact if_pos (Or.inr ((hs spec hm).2 ▸ hset))
  · rw [if_neg hset]
    refine List.flatMap_congr fun spec hm => ?_
    obtain ⟨hc, ht⟩ := hs spec hm
    exact if_neg (by simp [hc, ht, hset])

/-- **When specs with one tag get no more values in another script than there are fields that
point at the tag**: when one of them settles the tag, or else when all together select from these
fields no more values than there are fields. -/
theorem vernacular_length_le_iff (record : Record) (hs : ShareTag specs tag) :
    ((extract record specs).filter Value.isVernacular).length ≤
        (record.vernacularFor tag).length ↔
      (∃ spec ∈ specs, Settles record spec) ∨
        (specs.map fun spec => (pointingValues record spec).length).sum ≤
          (record.vernacularFor tag).length := by
  have ⟨hle, hnil⟩ : ((yielded record specs).filter Value.isVernacular).length ≤
        (record.vernacularFor tag).length ∧
      (¬ SettledBy record specs tag → (yielded record specs).filter Value.isVernacular = []) :=
    vernacular_yielded hv hs
  unfold extract
  rw [(reached_firstPass record specs).values, remaining_eq, List.filter_append,
    List.length_append, flatMap_loneValues hs, ← settledBy_iff_of_shareTag hs]
  by_cases hset : SettledBy record specs tag
  · rw [if_pos hset]
    exact iff_of_true (by simpa using hle) (Or.inl hset)
  · have hall : (specs.flatMap (pointingValues record)).filter Value.isVernacular =
        specs.flatMap (pointingValues record) := by
      rw [List.filter_eq_self]
      intro value hm
      obtain ⟨spec, -, hp⟩ := List.mem_flatMap.mp hm
      exact isVernacular_of_mem_pointingValues hp
    rw [if_neg hset, hnil hset, hall, List.length_nil, Nat.zero_add, List.length_flatMap]
    simp [hset]

end OneTag

theorem vernacular_length_le_nameAndTitle :
    "700" ≠ Linkage.vernacularTag ∧ ShareTag [⟨"700", ['a']⟩, ⟨"700", ['a', 'd']⟩] "700" ∧
      ((extract nameAndTitle [⟨"700", ['a']⟩, ⟨"700", ['a', 'd']⟩]).filter
        Value.isVernacular).length ≤ (nameAndTitle.vernacularFor "700").length := by
  have hv : "700" ≠ Linkage.vernacularTag := by decide
  have hs : ShareTag [⟨"700", ['a']⟩, ⟨"700", ['a', 'd']⟩] "700" := by decide
  exact ⟨hv, hs, (vernacular_length_le_iff hv nameAndTitle hs).mpr (Or.inl (by decide))⟩

/-- A name in another script that no other field belongs to. -/
def loneName : Record :=
  [(Field.empty "880" '1' ' ').withSubfields [⟨'6', "700-04/$1"⟩, ⟨'a', "村上"⟩]]

/-- Without a field that leads to it, a counterpart is repeated for every spec with its tag: the
second pass takes open tags and does not settle them. -/
theorem lone_counterparts_repeat :
    ¬ ∀ (record : Record) (specs : List Spec) (tag : String), tag ≠ Linkage.vernacularTag →
      ShareTag specs tag →
      ((extract record specs).filter Value.isVernacular).length ≤
        (record.vernacularFor tag).length := by
  intro h
  have hle := h loneName [⟨"700", ['a']⟩, ⟨"700", ['a']⟩] "700" (by decide) (by decide)
  exact absurd hle (by decide)

end Marc.Extraction
