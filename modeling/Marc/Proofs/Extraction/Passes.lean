import Marc.Extraction
import Mathlib.Data.List.Basic

/-!
# The two passes without their state

`extract` carries the set of settled tags (`resolved`) through a loop over specs and fields, and
reads it once more in a second pass. This file says what comes out of it without that set. A spec
*settles* its tag when it asks for subfields and some field with the tag leads it to linked values.
Three lists then belong to a spec:

* `originValues`: what the fields with its tag give it by themselves;
* `broughtValues`: its first linked values, unless an earlier spec settled the tag;
* `loneValues`: the fields in another script that point at its tag, unless any spec settles it.

Results:
* `reached_take`, `reached_firstPass`: the invariant `Reached` ties the state after a run of specs
  to those specs alone; one spec keeps it, and so the whole first pass does.
* `remaining_eq`: the second pass is the list of `loneValues`.
* `extract_eq_stateless`: **extraction is the concatenation of the three lists**, the first two
  interleaved in the order of the specs and the third after all of them.
* `mem_extract_cases`: where a value comes from.
-/

namespace Marc.Extraction

/-! ## The three lists -/

/-- What one field gives a spec by itself: its direct value if that is wanted and not empty, or
else what the spec selects from its subfields. Fields with other tags give nothing. -/
def originValue? (spec : Spec) (field : Field) : Option Value :=
  if field.tag = spec.tag then
    if spec.isDirect then (field.direct?.filter (· ≠ "")).map (Value.direct spec.tag)
    else Value.select? field spec
  else none

/-- What the fields with its tag give a spec by themselves, in the order of the record. -/
def originValues (record : Record) (spec : Spec) : List Value :=
  record.filterMap (originValue? spec)

/-- The field has the tag of the spec and leads it to linked values. -/
def Leads (record : Record) (spec : Spec) (field : Field) : Prop :=
  field.tag = spec.tag ∧ linkedValues record spec field ≠ []

instance (record : Record) (spec : Spec) : DecidablePred (Leads record spec) :=
  fun _ => inferInstanceAs (Decidable (_ ∧ _))

/-- The linked values of the first field that leads to any; none if no field does. -/
def firstLinkedValues (record : Record) (spec : Spec) : List Value :=
  match record.find? fun field => decide (Leads record spec field) with
  | some field => linkedValues record spec field
  | none => []

/-- The spec asks for subfields, and some field leads it to linked values. -/
def Settles (record : Record) (spec : Spec) : Prop :=
  spec.isDirect = false ∧ ∃ field ∈ record, Leads record spec field

instance (record : Record) : DecidablePred (Settles record) :=
  fun _ => inferInstanceAs (Decidable (_ ∧ _))

/-- One of the specs has the tag and settles it. -/
def SettledBy (record : Record) (specs : List Spec) (tag : String) : Prop :=
  ∃ spec ∈ specs, spec.tag = tag ∧ Settles record spec

instance (record : Record) (specs : List Spec) : DecidablePred (SettledBy record specs) :=
  fun _ => inferInstanceAs (Decidable (∃ spec ∈ specs, _))

/-- The linked values that a spec brings when the specs `earlier` come before it. -/
def broughtValues (record : Record) (earlier : List Spec) (spec : Spec) : List Value :=
  if spec.isDirect = true ∨ SettledBy record earlier spec.tag then []
  else firstLinkedValues record spec

/-- The values that are left for a spec when all of `specs` have been taken. -/
def loneValues (record : Record) (specs : List Spec) (spec : Spec) : List Value :=
  if spec.isDirect = true ∨ SettledBy record specs spec.tag then []
  else pointingValues record spec

/-- What the specs yield one after the other. Each sees only the specs before it. -/
def yielded (record : Record) (specs : List Spec) : List Value :=
  specs.zipIdx.flatMap fun entry =>
    originValues record entry.1 ++ broughtValues record (specs.take entry.2) entry.1

/-- What the specs select from the record, said without any state. -/
def stateless (record : Record) (specs : List Spec) : List Value :=
  yielded record specs ++ specs.flatMap (loneValues record specs)

/-! ## One spec by itself -/

variable {record : Record} {spec : Spec}

theorem originValues_of_direct (h : spec.isDirect = true) :
    originValues record spec = directValues record spec := by
  unfold originValues directValues Record.directValues Record.withTag
  rw [← List.filterMap_eq_filter, List.map_filterMap, List.filterMap_filterMap,
    List.filterMap_filter]
  refine List.filterMap_congr fun field _ => ?_
  by_cases ht : field.tag = spec.tag
  · cases hd : field.direct? with
    | none => simp [originValue?, h, ht, hd]
    | some value =>
      by_cases hv : value = "" <;> simp [originValue?, h, ht, hd, hv, Option.filter, Option.guard]
  · simp [originValue?, ht]

theorem originValues_of_codes (h : spec.isDirect = false) :
    originValues record spec = ownValues record spec := by
  unfold originValues ownValues Spec.selectAll Record.withTag
  rw [List.filterMap_filter]
  refine List.filterMap_congr fun field _ => ?_
  by_cases ht : field.tag = spec.tag <;> simp [originValue?, h, ht]

theorem leads_of_find? {field : Field}
    (hf : record.find? (fun field => decide (Leads record spec field)) = some field) :
    field ∈ record ∧ Leads record spec field :=
  ⟨List.mem_of_find?_eq_some hf, by simpa using List.find?_some hf⟩

theorem firstLinkedValues_of_find? {field : Field}
    (hf : record.find? (fun field => decide (Leads record spec field)) = some field) :
    firstLinkedValues record spec = linkedValues record spec field := by
  unfold firstLinkedValues
  rw [hf]

/-- There are linked values exactly when the spec settles its tag. -/
theorem firstLinkedValues_eq_nil_iff (h : spec.isDirect = false) :
    firstLinkedValues record spec = [] ↔ ¬ Settles record spec := by
  unfold firstLinkedValues Settles
  split
  · rename_i field hf
    obtain ⟨hm, hl⟩ := leads_of_find? hf
    exact iff_of_false hl.2 fun hn => hn ⟨h, field, hm, hl⟩
  · rename_i hf
    rw [List.find?_eq_none] at hf
    refine iff_of_true rfl fun hs => ?_
    obtain ⟨-, field, hm, hl⟩ := hs
    exact hf field hm (by simpa using hl)

theorem settledBy_append (earlier : List Spec) (spec : Spec) (tag : String) :
    SettledBy record (earlier ++ [spec]) tag ↔
      SettledBy record earlier tag ∨ (spec.tag = tag ∧ Settles record spec) := by
  unfold SettledBy
  simp only [List.mem_append, List.mem_singleton, or_and_right, exists_or, exists_eq_left]

/-- One more spec at the end sees all specs before it, and changes nothing for them. -/
theorem yielded_append (earlier : List Spec) (spec : Spec) :
    yielded record (earlier ++ [spec]) =
      yielded record earlier ++
        (originValues record spec ++ broughtValues record earlier spec) := by
  unfold yielded
  rw [List.zipIdx_append, List.flatMap_append]
  congr 1
  · refine List.flatMap_congr fun entry he => ?_
    have hlt : entry.2 < earlier.length := by
      have := List.snd_lt_of_mem_zipIdx he
      simpa using this
    rw [List.take_append_of_le_length (Nat.le_of_lt hlt)]
  · simp

/-! ## The first pass -/

/-- Once the tag is settled, no field is looked at. -/
theorem foldl_visit_of_settled {progress : Progress} (h : spec.tag ∈ progress.settled) :
    ∀ fields : List Field, fields.foldl (Progress.visit record spec) progress = progress
  | [] => rfl
  | field :: fields => by
    rw [List.foldl_cons, Progress.visit, if_pos h]
    exact foldl_visit_of_settled h fields

/-- The loop over the fields stops at the first one that leads to linked values. -/
theorem foldl_visit {progress : Progress} (h : spec.tag ∉ progress.settled) :
    ∀ fields : List Field, fields.foldl (Progress.visit record spec) progress =
      match fields.find? fun field => !(linkedValues record spec field).isEmpty with
      | some field =>
        ⟨progress.values ++ linkedValues record spec field, spec.tag :: progress.settled⟩
      | none => progress
  | [] => rfl
  | field :: fields => by
    rw [List.foldl_cons, Progress.visit, if_neg h]
    cases hl : linkedValues record spec field with
    | nil =>
      rw [List.find?_cons_of_neg (by simp [hl])]
      exact foldl_visit h fields
    | cons value values =>
      rw [List.find?_cons_of_pos (by simp [hl]),
        foldl_visit_of_settled (by simp : spec.tag ∈ spec.tag :: progress.settled)]
      simp only [hl]

/-- Among the fields with the tag of a spec, the first with linked values is the first that
leads. -/
theorem find?_withTag (record : Record) (spec : Spec) :
    (record.withTag spec.tag).find? (fun field => !(linkedValues record spec field).isEmpty) =
      record.find? fun field => decide (Leads record spec field) := by
  unfold Record.withTag
  rw [List.find?_filter]
  congr 1
  funext field
  by_cases ht : field.tag = spec.tag <;> simp [Leads, ht]

/-- **What one spec with codes does to the state.** It adds linked values and settles its tag
exactly when it settles it and no spec did before. -/
theorem take_of_codes (hc : spec.isDirect = false) (progress : Progress) :
    progress.take record spec =
      if spec.tag ∉ progress.settled ∧ Settles record spec then
        ⟨progress.values ++ ownValues record spec ++ firstLinkedValues record spec,
          spec.tag :: progress.settled⟩
      else ⟨progress.values ++ ownValues record spec, progress.settled⟩ := by
  let own : Progress := ⟨progress.values ++ ownValues record spec, progress.settled⟩
  unfold Progress.take
  rw [if_neg (by simp [hc])]
  by_cases ht : spec.tag ∈ progress.settled
  · rw [foldl_visit_of_settled (show spec.tag ∈ own.settled from ht), if_neg fun h => h.1 ht]
  · rw [foldl_visit (show spec.tag ∉ own.settled from ht), find?_withTag]
    have hnil : firstLinkedValues record spec = [] ↔ ¬ Settles record spec :=
      firstLinkedValues_eq_nil_iff hc
    unfold firstLinkedValues at hnil ⊢
    cases hf : record.find? fun field => decide (Leads record spec field) with
    | some field => rw [if_pos ⟨ht, hc, field, leads_of_find? hf⟩]
    | none =>
      rw [hf] at hnil
      rw [if_neg fun h => hnil.mp rfl h.2]

/-- **The invariant of the first pass.** After the specs `done`, the values are what these specs
yield, and the settled tags are those that one of them settles. -/
structure Reached (record : Record) (done : List Spec) (progress : Progress) : Prop where
  values : progress.values = yielded record done
  settled : ∀ tag, tag ∈ progress.settled ↔ SettledBy record done tag

theorem reached_start (record : Record) : Reached record [] .start :=
  ⟨rfl, fun tag => by simp [Progress.start, SettledBy]⟩

/-- One more spec keeps the invariant. -/
theorem reached_take {done : List Spec} {progress : Progress}
    (h : Reached record done progress) (spec : Spec) :
    Reached record (done ++ [spec]) (progress.take record spec) := by
  by_cases hd : spec.isDirect = true
  · have hb : broughtValues record done spec = [] := if_pos (Or.inl hd)
    have hs : ¬ Settles record spec := fun hs => by simp [hs.1] at hd
    unfold Progress.take
    rw [if_pos hd]
    refine ⟨?_, fun tag => ?_⟩
    · rw [yielded_append, hb, List.append_nil, originValues_of_direct hd, ← h.values]
    · rw [settledBy_append, ← h.settled tag]
      simp [hs]
  have hc : spec.isDirect = false := by simpa using hd
  rw [take_of_codes hc]
  by_cases hn : spec.tag ∉ progress.settled ∧ Settles record spec
  · -- the spec is the first to settle its tag
    have hb : broughtValues record done spec = firstLinkedValues record spec :=
      if_neg fun hor => hor.elim hd fun hs => hn.1 ((h.settled _).mpr hs)
    rw [if_pos hn]
    refine ⟨?_, fun tag => ?_⟩
    · rw [yielded_append, hb, originValues_of_codes hc, ← h.values, List.append_assoc]
    · rw [settledBy_append, ← h.settled tag, List.mem_cons]
      constructor
      · rintro (rfl | hm)
        · exact Or.inr ⟨rfl, hn.2⟩
        · exact Or.inl hm
      · rintro (hm | ⟨rfl, -⟩)
        · exact Or.inr hm
        · exact Or.inl rfl
  · have hb : broughtValues record done spec = [] := by
      unfold broughtValues
      rw [ite_eq_left_iff, firstLinkedValues_eq_nil_iff hc]
      exact fun ho hs => hn ⟨fun hm => ho (Or.inr ((h.settled _).mp hm)), hs⟩
    rw [if_neg hn]
    refine ⟨?_, fun tag => ?_⟩
    · rw [yielded_append, hb, List.append_nil, originValues_of_codes hc, ← h.values]
    · rw [settledBy_append, ← h.settled tag]
      refine ⟨Or.inl, fun hor => hor.elim id fun ⟨ht, hs⟩ => ?_⟩
      by_contra hm
      exact hn ⟨ht ▸ hm, hs⟩

/-- A run of specs keeps the invariant. -/
theorem reached_foldl : ∀ (specs done : List Spec) (progress : Progress),
    Reached record done progress →
      Reached record (done ++ specs) (specs.foldl (Progress.take record) progress)
  | [], done, progress, h => by rwa [List.append_nil]
  | spec :: specs, done, progress, h => by
    have := reached_foldl specs (done ++ [spec]) _ (reached_take h spec)
    rwa [List.append_assoc, List.singleton_append] at this

theorem reached_firstPass (record : Record) (specs : List Spec) :
    Reached record specs (firstPass record specs) :=
  reached_foldl specs [] .start (reached_start record)

/-! ## The second pass -/

/-- The second pass takes a spec exactly when it asks for subfields and no spec settles its
tag. -/
theorem leavesOpen_iff {progress : Progress} {specs : List Spec}
    (h : Reached record specs progress) :
    progress.leavesOpen spec = true ↔
      ¬ (spec.isDirect = true ∨ SettledBy record specs spec.tag) := by
  unfold Progress.leavesOpen
  rw [← h.settled]
  simp

/-- Whether the second pass takes a spec depends on its tag only. -/
theorem leavesOpen_congr {progress progress' : Progress}
    (h : spec.isDirect = false → (spec.tag ∈ progress.settled ↔ spec.tag ∈ progress'.settled)) :
    progress.leavesOpen spec = progress'.leavesOpen spec := by
  unfold Progress.leavesOpen
  cases hd : spec.isDirect with
  | true => rfl
  | false => simp only [h hd]

/-- **The second pass** yields what is left for each spec. -/
theorem remaining_eq (record : Record) (specs : List Spec) :
    (firstPass record specs).remaining record specs =
      specs.flatMap (loneValues record specs) := by
  have hr := reached_firstPass record specs
  suffices h : ∀ part : List Spec,
      (part.filter (firstPass record specs).leavesOpen).flatMap (pointingValues record) =
        part.flatMap (loneValues record specs) from h specs
  intro part
  induction part with
  | nil => rfl
  | cons spec rest ih =>
    rw [List.flatMap_cons, loneValues]
    by_cases ho : (firstPass record specs).leavesOpen spec = true
    · rw [List.filter_cons_of_pos ho, List.flatMap_cons, ih, if_neg ((leavesOpen_iff hr).mp ho)]
    · rw [List.filter_cons_of_neg ho, ih, if_pos (not_not.mp (mt (leavesOpen_iff hr).mpr ho)),
        List.nil_append]

/-- **Extraction without its state.** For every record and every list of specs, `extract` yields
in the order of the specs what the fields give each spec by themselves and what the first field
that leads to linked values brings, unless an earlier spec settled the tag; and after that, again
in the order of the specs, the fields in another script for the tags that no spec settles. -/
theorem extract_eq_stateless (record : Record) (specs : List Spec) :
    extract record specs = stateless record specs := by
  unfold extract stateless
  rw [(reached_firstPass record specs).values, remaining_eq]

/-! ## Where a value comes from -/

theorem exists_select?_of_mem {fields : List Field} {value : Value} (hsub : fields ⊆ record)
    (h : value ∈ spec.selectAll fields) : ∃ field ∈ record, Value.select? field spec = some value := by
  obtain ⟨field, hf, hv⟩ := List.mem_filterMap.mp h
  exact ⟨field, hsub hf, hv⟩

theorem counterparts_subset (record : Record) (field : Field) :
    record.counterparts field ⊆ record := by
  unfold Record.counterparts
  split
  · exact fun other ho => (Record.mem_withTag.mp (List.mem_of_mem_filter ho)).1
  · exact List.nil_subset record

/-- Every value is a direct value, or what one of the specs selects from one field. -/
theorem mem_extract_cases {specs : List Spec} {value : Value} (h : value ∈ extract record specs) :
    ∃ spec ∈ specs, value ∈ directValues record spec ∨
      ∃ field ∈ record, Value.select? field spec = some value := by
  unfold extract at h
  rw [(reached_firstPass record specs).values, remaining_eq, List.mem_append] at h
  rcases h with h | h
  · obtain ⟨⟨spec, n⟩, he, hv⟩ := List.mem_flatMap.mp h
    refine ⟨spec, List.fst_mem_of_mem_zipIdx he, ?_⟩
    rcases List.mem_append.mp hv with hv | hv
    · cases hd : spec.isDirect with
      | true =>
        rw [originValues_of_direct hd] at hv
        exact .inl hv
      | false =>
        rw [originValues_of_codes hd] at hv
        exact .inr (exists_select?_of_mem List.filter_sublist.subset hv)
    · unfold broughtValues firstLinkedValues at hv
      split at hv
      · exact absurd hv List.not_mem_nil
      · split at hv
        · exact .inr (exists_select?_of_mem (counterparts_subset record _) hv)
        · exact absurd hv List.not_mem_nil
  · obtain ⟨spec, hm, hv⟩ := List.mem_flatMap.mp h
    refine ⟨spec, hm, .inr ?_⟩
    unfold loneValues at hv
    split at hv
    · exact absurd hv List.not_mem_nil
    · exact exists_select?_of_mem
        (List.filter_sublist.trans List.filter_sublist).subset hv

end Marc.Extraction
