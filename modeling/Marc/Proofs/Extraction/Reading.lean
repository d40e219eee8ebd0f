import Marc.Proofs.Extraction.Passes
import Mathlib.Data.List.Forall2

/-!
# What extraction reads

From a record, a spec takes three lists and nothing else: what the fields with its tag give it by
themselves (`originValues`), what each of these fields leads it to (`linkedLists`, found by
`resolve`), and what points at its tag (`pointingValues`, found by `freestanding`). This file
compares two runs: `SameReading` says of a spec in one record and a spec in another that they have
the tag, the kind and the three lists in common.

Results:
* `take_congr`, `foldl_take_congr`: one spec, and a run of specs, do the same to the state of the
  first pass when they read the same.
* `flatMap_pointingValues_congr`, `remaining_congr`: so does the second pass.
* `extract_congr`: **extraction is determined by what its specs read.**
* `extract_eq_of_relevantTags`: **only fields with a relevant tag are read, and of their order only
  the order within one tag.** Which tags are relevant depends on the record, because a field says
  in its first linkage where its counterparts are.
-/

namespace Marc.Extraction

variable {record record' : Record} {spec spec' : Spec} {specs specs' : List Spec} {field : Field}

/-! ## The three lists -/

/-- What each field with its tag leads a spec to, in the order of the record. -/
def linkedLists (record : Record) (spec : Spec) : List (List Value) :=
  (record.withTag spec.tag).map (linkedValues record spec)

theorem firstLinkedValues_eq (record : Record) (spec : Spec) :
    firstLinkedValues record spec =
      ((linkedLists record spec).find? fun values => !values.isEmpty).getD [] := by
  have hlists : (linkedLists record spec).find? (fun values => !values.isEmpty) =
      ((record.withTag spec.tag).find? fun field =>
        !(linkedValues record spec field).isEmpty).map (linkedValues record spec) :=
    List.find?_map ..
  unfold firstLinkedValues
  rw [hlists, find?_withTag]
  cases record.find? fun field => decide (Leads record spec field) <;> rfl

theorem originValues_eq (record : Record) (spec : Spec) :
    originValues record spec = (record.withTag spec.tag).filterMap (originValue? spec) := by
  unfold originValues Record.withTag
  rw [List.filterMap_filter]
  refine List.filterMap_congr fun field _ => ?_
  by_cases ht : field.tag = spec.tag <;> simp [originValue?, ht]

/-- A spec in one record and a spec in another read the same. -/
structure SameReading (record record' : Record) (spec spec' : Spec) : Prop where
  tag : spec.tag = spec'.tag
  isDirect : spec.isDirect = spec'.isDirect
  origin : originValues record spec = originValues record' spec'
  linked : linkedLists record spec = linkedLists record' spec'
  pointing : pointingValues record spec = pointingValues record' spec'

theorem SameReading.firstLinked (h : SameReading record record' spec spec') :
    firstLinkedValues record spec = firstLinkedValues record' spec' := by
  rw [firstLinkedValues_eq, firstLinkedValues_eq, h.linked]

theorem SameReading.settles_iff (h : SameReading record record' spec spec')
    (hc : spec.isDirect = false) : Settles record spec ↔ Settles record' spec' := by
  rw [← not_iff_not, ← firstLinkedValues_eq_nil_iff hc,
    ← firstLinkedValues_eq_nil_iff (h.isDirect ▸ hc), h.firstLinked]

/-! ## Two runs side by side -/

/-- One spec does the same to the state. -/
theorem take_congr (h : SameReading record record' spec spec') (progress : Progress) :
    progress.take record spec = progress.take record' spec' := by
  cases hd : spec.isDirect with
  | true =>
    have hd' : spec'.isDirect = true := h.isDirect ▸ hd
    unfold Progress.take
    rw [if_pos hd, if_pos hd', ← originValues_of_direct hd, ← originValues_of_direct hd', h.origin]
  | false =>
    have hd' : spec'.isDirect = false := h.isDirect ▸ hd
    rw [take_of_codes hd, take_of_codes hd', ← originValues_of_codes hd,
      ← originValues_of_codes hd', h.origin, h.firstLinked, h.tag]
    simp only [h.settles_iff hd]

/-- A run of specs does the same to the state. -/
theorem foldl_take_congr (h : List.Forall₂ (SameReading record record') specs specs')
    (progress : Progress) :
    specs.foldl (Progress.take record) progress =
      specs'.foldl (Progress.take record') progress := by
  induction h generalizing progress with
  | nil => rfl
  | cons hs _ ih => rw [List.foldl_cons, List.foldl_cons, take_congr hs, ih]

/-- What points at the tags of the specs is the same. -/
theorem flatMap_pointingValues_congr
    (h : List.Forall₂ (SameReading record record') specs specs') :
    specs.flatMap (pointingValues record) = specs'.flatMap (pointingValues record') := by
  induction h with
  | nil => rfl
  | cons hs _ ih => rw [List.flatMap_cons, List.flatMap_cons, hs.pointing, ih]

/-- From one state, the second pass yields the same. -/
theorem remaining_congr (h : List.Forall₂ (SameReading record record') specs specs')
    (progress : Progress) :
    progress.remaining record specs = progress.remaining record' specs' := by
  have hleft : List.Forall₂ (SameReading record record') (specs.filter progress.leavesOpen)
      (specs'.filter progress.leavesOpen) :=
    List.rel_filter (fun a b hs => by simp only [Progress.leavesOpen, hs.tag, hs.isDirect]) h
  exact flatMap_pointingValues_congr hleft

/-- **Extraction is determined by what its specs read.** -/
theorem extract_congr (h : List.Forall₂ (SameReading record record') specs specs') :
    extract record specs = extract record' specs' := by
  have hp : firstPass record specs = firstPass record' specs' := foldl_take_congr h .start
  unfold extract
  rw [hp, remaining_congr h]

/-! ## The tag that a field names -/

/-- The tag that a field names: what stands before the first hyphen of its first linkage. -/
def namedTag? (field : Field) : Option String :=
  (field.linkage?.filter fun linkage => '-' ∈ linkage.toList).map fun linkage =>
    String.ofList (linkage.toList.takeWhile (· != '-'))

theorem map_tag_link? (field : Field) : field.link?.map Linkage.tag = namedTag? field := by
  unfold Field.link? namedTag?
  cases field.linkage? with
  | none => rfl
  | some linkage =>
    rw [Option.bind_some]
    cases hp : Linkage.parse? linkage with
    | none => simp [Option.filter, Linkage.parse?_eq_none_iff.mp hp]
    | some link =>
      obtain ⟨hm, ht⟩ := Linkage.parse?_eq_some hp
      simp [Option.filter, hm, ht]

/-- Of the linkage, the search for counterparts reads the tag only. -/
theorem counterparts_eq (record : Record) (field : Field) :
    record.counterparts field =
      match namedTag? field with
      | some tag => (record.withTag tag).filter fun other => other.pointsAt field.tag
      | none => [] := by
  rw [← map_tag_link?]
  unfold Record.counterparts
  cases field.link? <;> rfl

/-! ## Relevant tags -/

/-- The tags of the fields that matter to the specs: their own, the vernacular one, and those that
the fields with their tags name. -/
def relevantTags (record : Record) (specs : List Spec) : List String :=
  specs.map Spec.tag ++ Linkage.vernacularTag ::
    (record.filter fun field => field.tag ∈ specs.map Spec.tag).filterMap namedTag?

theorem tag_mem_relevantTags (record : Record) (h : spec ∈ specs) :
    spec.tag ∈ relevantTags record specs :=
  List.mem_append_left _ (List.mem_map_of_mem h)

theorem vernacularTag_mem_relevantTags (record : Record) (specs : List Spec) :
    Linkage.vernacularTag ∈ relevantTags record specs :=
  List.mem_append_right _ List.mem_cons_self

theorem namedTag_mem_relevantTags (hs : spec ∈ specs) (hf : field ∈ record.withTag spec.tag)
    {tag : String} (hn : namedTag? field = some tag) : tag ∈ relevantTags record specs := by
  obtain ⟨hm, ht⟩ := Record.mem_withTag.mp hf
  refine List.mem_append_right _ (List.mem_cons_of_mem _ (List.mem_filterMap.mpr ⟨field, ?_, hn⟩))
  exact List.mem_filter.mpr ⟨hm, by simpa [ht] using ⟨spec, hs, rfl⟩⟩

/-- A field leads a spec to the same in records with the same fields under each relevant tag. -/
theorem linkedValues_of_relevantTags
    (h : ∀ tag ∈ relevantTags record specs, record'.withTag tag = record.withTag tag)
    (hs : spec ∈ specs) (hf : field ∈ record.withTag spec.tag) :
    linkedValues record' spec field = linkedValues record spec field := by
  unfold linkedValues
  rw [counterparts_eq, counterparts_eq]
  cases hn : namedTag? field with
  | none => rfl
  | some tag => simp only [h tag (namedTag_mem_relevantTags hs hf hn)]

theorem sameReading_of_relevantTags
    (h : ∀ tag ∈ relevantTags record specs, record'.withTag tag = record.withTag tag)
    (hs : spec ∈ specs) : SameReading record' record spec spec where
  tag := rfl
  isDirect := rfl
  origin := by rw [originValues_eq, originValues_eq, h _ (tag_mem_relevantTags record hs)]
  linked := by
    unfold linkedLists
    rw [h _ (tag_mem_relevantTags record hs)]
    exact List.map_congr_left fun field hf => linkedValues_of_relevantTags h hs hf
  pointing := by
    unfold pointingValues Record.vernacularFor
    rw [h _ (vernacularTag_mem_relevantTags record specs)]

/-- **Only fields with a relevant tag are read, and of their order only the order within one tag.**
Fields with different tags may be interleaved in another way, and fields with other tags may be
added or left out. -/
theorem extract_eq_of_relevantTags
    (h : ∀ tag ∈ relevantTags record specs, record'.withTag tag = record.withTag tag) :
    extract record' specs = extract record specs :=
  extract_congr (List.forall₂_same.mpr fun _ hs => sameReading_of_relevantTags h hs)

/-- A title and two parallel titles, the first of which it names; a note; the title in another
script. -/
def parallelTitles : Record :=
  [(Field.empty "245" '0' '0').withSubfields [⟨'6', "246-01"⟩, ⟨'a', "Nihon no mukashibanashi"⟩],
   (Field.empty "246" '3' '1').withSubfields [⟨'6', "245-01"⟩, ⟨'a', "Tales of old Japan"⟩],
   (Field.empty "500" ' ' ' ').withSubfields [⟨'a', "Text in three languages."⟩],
   (Field.empty "246" '3' '1').withSubfields [⟨'6', "245-02"⟩, ⟨'a', "Märchen aus Japan"⟩],
   (Field.empty "880" '0' '0').withSubfields [⟨'6', "245-03/$1"⟩, ⟨'a', "日本の昔話"⟩]]

/-- The same titles in another order, with a subject in place of the note. -/
def parallelTitlesMoved : Record :=
  [(Field.empty "246" '3' '1').withSubfields [⟨'6', "245-01"⟩, ⟨'a', "Tales of old Japan"⟩],
   (Field.empty "880" '0' '0').withSubfields [⟨'6', "245-03/$1"⟩, ⟨'a', "日本の昔話"⟩],
   (Field.empty "246" '3' '1').withSubfields [⟨'6', "245-02"⟩, ⟨'a', "Märchen aus Japan"⟩],
   (Field.empty "245" '0' '0').withSubfields [⟨'6', "246-01"⟩, ⟨'a', "Nihon no mukashibanashi"⟩],
   (Field.empty "650" ' ' '0').withSubfields [⟨'6', "245-04"⟩, ⟨'a', "Tales"⟩]]

theorem extract_eq_of_relevantTags_parallelTitles :
    (∀ tag ∈ relevantTags parallelTitles [⟨"245", ['a']⟩, ⟨"008", []⟩],
      parallelTitlesMoved.withTag tag = parallelTitles.withTag tag) ∧
    extract parallelTitlesMoved [⟨"245", ['a']⟩, ⟨"008", []⟩] =
      extract parallelTitles [⟨"245", ['a']⟩, ⟨"008", []⟩] := by
  have h : ∀ tag ∈ relevantTags parallelTitles [⟨"245", ['a']⟩, ⟨"008", []⟩],
      parallelTitlesMoved.withTag tag = parallelTitles.withTag tag := by decide
  exact ⟨h, extract_eq_of_relevantTags h⟩

end Marc.Extraction
