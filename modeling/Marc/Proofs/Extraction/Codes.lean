import Marc.Proofs.Extraction.Reading

/-!
# Codes as a set

A spec asks for its codes in the order of its token, and may name one twice. Neither shows in what
it selects: the order of the data decides. Specs that ask for the same (`Spec.SameWish`) read the
same from every record.

Results:
* `Spec.SameWish.wants_eq`, `Spec.SameWish.isDirect_eq`: the two things that are read of the codes.
* `extract_eq_of_sameWish`: **order and repetition of codes do not matter** to extraction, nor to
  the fields in another script that are taken for all specs.
-/

namespace Marc

/-- The specs ask for the same: they name one tag, and the same codes in any order and number. -/
structure Spec.SameWish (a b : Spec) : Prop where
  tag : a.tag = b.tag
  codes : ∀ code, code ∈ a.codes ↔ code ∈ b.codes

namespace Spec.SameWish

variable {a b : Spec}

theorem wants_eq (h : a.SameWish b) (code : Char) : a.wants code = b.wants code := by
  unfold wants
  rw [Bool.eq_iff_iff, List.contains_iff_mem, List.contains_iff_mem]
  exact h.codes code

theorem isDirect_eq (h : a.SameWish b) : a.isDirect = b.isDirect := by
  unfold isDirect
  rw [Bool.eq_iff_iff, List.isEmpty_iff, List.isEmpty_iff, List.eq_nil_iff_forall_not_mem,
    List.eq_nil_iff_forall_not_mem]
  exact forall_congr' fun code => not_congr (h.codes code)

theorem select?_eq (h : a.SameWish b) (field : Field) :
    Value.select? field a = Value.select? field b := by
  have hs : Value.selection field a = Value.selection field b := by
    unfold Value.selection
    exact List.filter_congr fun part _ => by rw [h.wants_eq]
  unfold Value.select?
  rw [hs]

theorem selectAll_eq (h : a.SameWish b) (fields : List Field) :
    a.selectAll fields = b.selectAll fields :=
  List.filterMap_congr fun field _ => h.select?_eq field

theorem originValue?_eq (h : a.SameWish b) (field : Field) :
    Extraction.originValue? a field = Extraction.originValue? b field := by
  unfold Extraction.originValue?
  rw [h.tag, h.isDirect_eq, h.select?_eq]

end Spec.SameWish

namespace Extraction

variable {spec spec' : Spec} {specs specs' : List Spec}

theorem sameReading_of_sameWish (record : Record) (h : spec.SameWish spec') :
    SameReading record record spec spec' where
  tag := h.tag
  isDirect := h.isDirect_eq
  origin := List.filterMap_congr fun field _ => h.originValue?_eq field
  linked := by
    unfold linkedLists
    rw [h.tag]
    exact List.map_congr_left fun field _ => h.selectAll_eq (record.counterparts field)
  pointing := by
    unfold pointingValues
    rw [h.tag, h.selectAll_eq]

/-- **Order and repetition of codes do not matter.** Specs that name the same tags one after the
other, and with each tag the same codes, select the same values in the same order, and the same
fields in another script. -/
theorem extract_eq_of_sameWish (record : Record) (h : List.Forall₂ Spec.SameWish specs specs') :
    extract record specs = extract record specs' ∧
      specs.flatMap (pointingValues record) = specs'.flatMap (pointingValues record) := by
  have hread : List.Forall₂ (SameReading record record) specs specs' :=
    h.imp fun _ _ hs => sameReading_of_sameWish record hs
  exact ⟨extract_congr hread, flatMap_pointingValues_congr hread⟩

theorem extract_eq_of_sameWish_parallelTitles :
    List.Forall₂ Spec.SameWish (Spec.compile "245a6:008:246a") (Spec.compile "2456a6:008:246aa") ∧
      extract parallelTitles (Spec.compile "245a6:008:246a") =
        extract parallelTitles (Spec.compile "2456a6:008:246aa") := by
  have hcodes : Spec.SameWish ⟨"245", ['a', '6']⟩ ⟨"245", ['6', 'a', '6']⟩ :=
    ⟨rfl, fun code => by simp [or_comm]⟩
  have hdirect : Spec.SameWish ⟨"008", []⟩ ⟨"008", []⟩ := ⟨rfl, fun _ => Iff.rfl⟩
  have htwice : Spec.SameWish ⟨"246", ['a']⟩ ⟨"246", ['a', 'a']⟩ := ⟨rfl, fun code => by simp⟩
  have h : List.Forall₂ Spec.SameWish (Spec.compile "245a6:008:246a")
      (Spec.compile "2456a6:008:246aa") :=
    .cons hcodes (.cons hdirect (.cons htwice .nil))
  exact ⟨h, (extract_eq_of_sameWish parallelTitles h).1⟩

end Extraction

end Marc
