import Marc.Bibliographic
import Marc.Proofs.Text.Basic
import Mathlib.Data.List.Basic
import Mathlib.Data.List.Induction

/-!
# Which headings stay apart

`dedup_trailing_period` (`mergePeriods`) looks at one heading after the other. A heading without a
period gives way to its form with a period; a heading with a period takes the place of its form
without. But it does not give way in turn: where the list holds its form with two periods, it is
added beside it, and a further heading with two periods takes its place and comes to stand twice.

Results:
* `merges_mergePeriod`: what one heading does to the list, as a relation (`Merges`).
* `bareApart_mergePeriods`: a heading without a period is listed once, and not beside its form with
  a period.
* `Merges.merged_iff`: which heading leaves the list merged; `mergePeriods_merged_iff`: **the list
  is merged all along** exactly when no heading with a period comes after its longer form that still
  stands. `abbreviatedName_repeats`: otherwise two headings that differ by a period can stay, and
  equal ones.
-/

namespace Marc.Heading

open Text (trimmed trimmed_trimmed withoutPeriod dropPeriod)

/-! ## The period at the end -/

/-- The heading ends in a period. -/
def HasPeriod (s : String) : Prop := s.toList.getLast? = some '.'

instance : DecidablePred HasPeriod := fun s =>
  inferInstanceAs (Decidable (s.toList.getLast? = some '.'))

theorem toList_append_period (s : String) : (s ++ ".").toList = s.toList ++ ['.'] :=
  String.toList_append

theorem hasPeriod_append (s : String) : HasPeriod (s ++ ".") := by
  unfold HasPeriod
  rw [toList_append_period, List.getLast?_concat]

theorem length_append_period (s : String) : (s ++ ".").length = s.length + 1 := by
  rw [String.length_append]
  rfl

theorem append_period_ne (s : String) : s ++ "." ≠ s := by
  intro h
  have hlen := length_append_period s
  rw [h] at hlen
  omega

theorem not_hasPeriod_empty : ¬ HasPeriod "" := by decide

theorem withoutPeriod_append (s : String) : withoutPeriod (s ++ ".") = s := by
  unfold withoutPeriod dropPeriod
  rw [toList_append_period, List.getLast?_concat, if_pos rfl, List.dropLast_concat,
    String.ofList_toList]

theorem withoutPeriod_of_not_hasPeriod {s : String} (h : ¬ HasPeriod s) : withoutPeriod s = s := by
  have hkept : dropPeriod s.toList = s.toList := if_neg h
  unfold withoutPeriod
  rw [hkept, String.ofList_toList]

theorem HasPeriod.eq_append {s : String} (h : HasPeriod s) : s = withoutPeriod s ++ "." := by
  obtain ⟨front, hfront⟩ := List.getLast?_eq_some_iff.mp h
  have hs : s = String.ofList front ++ "." := by
    rw [← String.toList_inj, toList_append_period, String.toList_ofList, hfront]
  rw [hs, withoutPeriod_append]

theorem withoutPeriod_eq_self_iff {s : String} : withoutPeriod s = s ↔ ¬ HasPeriod s := by
  refine ⟨fun h hp => ?_, withoutPeriod_of_not_hasPeriod⟩
  have heq := hp.eq_append
  rw [h] at heq
  exact append_period_ne s heq.symm

/-! ## One heading -/

/-- What a heading, trimmed to `value`, does to the list. -/
inductive Merges (list : List String) (value : String) : List String → Prop
  /-- A blank heading is passed over. -/
  | blank : value = "" → Merges list value list
  /-- The list holds the heading with a period already. -/
  | outdone : ¬ HasPeriod value → value ++ "." ∈ list → Merges list value list
  /-- The list holds the heading already. -/
  | held : value ∈ list → (∀ x ∈ list, value ≠ x ++ ".") → Merges list value list
  | added : value ≠ "" → value ∉ list → (∀ x ∈ list, value ≠ x ++ ".") →
      (¬ HasPeriod value → value ++ "." ∉ list) → Merges list value (list ++ [value])
  /-- The heading takes the place of its form with one period less. -/
  | replaced (before after : List String) (x : String) : list = before ++ x :: after →
      x ∉ before → value = x ++ "." → Merges list value (before ++ value :: after)

variable {list next : List String} {value : String}

theorem merges_add (ht : trimmed value = value) (hx : ∀ x ∈ list, value ≠ x ++ ".")
    (hp : ¬ HasPeriod value → value ++ "." ∉ list) :
    Merges list value (Distinct.add list value) := by
  unfold Distinct.add
  split
  · rename_i hblank
    exact .blank hblank
  · rename_i hne
    rw [ht]
    split
    · rename_i hmem
      exact .held hmem hx
    · rename_i hmem
      exact .added hne hmem hx hp

theorem merges_mergePeriod (list : List String) (heading : String) :
    Merges list (trimmed heading) (mergePeriod list heading) := by
  have ht := trimmed_trimmed heading
  unfold mergePeriod
  generalize trimmed heading = value at ht ⊢
  simp only
  split
  · rename_i hbare
    have hnot : ¬ HasPeriod value := withoutPeriod_eq_self_iff.mp hbare
    split
    · rename_i hmem
      exact .outdone hnot hmem
    · rename_i hmem
      refine merges_add ht (fun x _ heq => hnot ?_) fun _ => hmem
      rw [heq]
      exact hasPeriod_append x
  · rename_i hbare
    have hperiod : HasPeriod value := not_not.mp (mt withoutPeriod_eq_self_iff.mpr hbare)
    split
    · rename_i hmem
      obtain ⟨before, after, hlist, hbefore⟩ := List.eq_append_cons_of_mem hmem
      have hreplace : list.replace (withoutPeriod value) value = before ++ value :: after := by
        rw [hlist, List.replace_append_right hbefore, List.replace_cons_self]
      rw [hreplace]
      exact .replaced before after _ hlist hbefore hperiod.eq_append
    · rename_i hmem
      refine merges_add ht (fun x hx heq => hmem ?_) fun hnot => absurd hperiod hnot
      rw [heq, withoutPeriod_append]
      exact hx

/-! ## Headings without a period -/

/-- Each heading without a period is listed once, and not beside its form with a period. -/
def BareApart (list : List String) : Prop :=
  ∀ x ∈ list, ¬ HasPeriod x → list.count x = 1 ∧ x ++ "." ∉ list

theorem bareApart_of_perm {a b : List String} (hp : a.Perm b) : BareApart a ↔ BareApart b := by
  unfold BareApart
  simp only [hp.mem_iff, hp.count_eq]

theorem bareApart_cons : BareApart (value :: list) ↔
    BareApart list ∧ (¬ HasPeriod value → value ∉ list ∧ value ++ "." ∉ list) ∧
      ∀ x ∈ list, ¬ HasPeriod x → value ≠ x ++ "." := by
  constructor
  · intro h
    refine ⟨fun x hx hbare => ?_, fun hbare => ?_, fun x hx hbare heq => ?_⟩
    · obtain ⟨hone, hlong⟩ := h x (List.mem_cons_of_mem value hx) hbare
      have hpos : 0 < list.count x := List.count_pos_iff.mpr hx
      have hle : list.count x ≤ (value :: list).count x := List.count_le_count_cons
      exact ⟨by omega, fun hmem => hlong (List.mem_cons_of_mem value hmem)⟩
    · obtain ⟨hone, hlong⟩ := h value List.mem_cons_self hbare
      rw [List.count_cons_self, Nat.add_eq_right, List.count_eq_zero] at hone
      exact ⟨hone, fun hmem => hlong (List.mem_cons_of_mem value hmem)⟩
    · obtain ⟨-, hlong⟩ := h x (List.mem_cons_of_mem value hx) hbare
      exact hlong (heq ▸ List.mem_cons_self)
  · rintro ⟨hrest, hself, hshort⟩ x hx hbare
    rw [List.mem_cons, not_or]
    rcases List.mem_cons.mp hx with rfl | hx
    · obtain ⟨hnot, hlong⟩ := hself hbare
      rw [List.count_cons_self, List.count_eq_zero.mpr hnot]
      exact ⟨rfl, append_period_ne x, hlong⟩
    · have hne : value ≠ x := by
        rintro rfl
        exact (hself hbare).1 hx
      rw [List.count_cons_of_ne hne]
      exact ⟨(hrest x hx hbare).1, (hshort x hx hbare).symm, (hrest x hx hbare).2⟩

theorem Merges.bareApart (hm : Merges list value next) (h : BareApart list) : BareApart next := by
  cases hm with
  | blank | outdone | held => exact h
  | added hne hnot hx hp =>
    rw [bareApart_of_perm List.perm_append_comm, List.singleton_append, bareApart_cons]
    exact ⟨h, fun hbare => ⟨hnot, hp hbare⟩, fun x hmem _ => hx x hmem⟩
  | replaced before after old hlist hbefore hvalue =>
    rw [hlist, bareApart_of_perm List.perm_middle, bareApart_cons] at h
    obtain ⟨hrest, hold, -⟩ := h
    rw [bareApart_of_perm List.perm_middle, bareApart_cons]
    refine ⟨hrest, fun hbare => absurd (hvalue ▸ hasPeriod_append old) hbare, ?_⟩
    -- of the headings without a period, only the old one has the new one as its longer form
    intro x hmem hbare heq
    rw [hvalue, String.append_left_inj] at heq
    subst heq
    exact (hold hbare).1 hmem

theorem mergePeriods_concat (headings : List String) (heading : String) :
    mergePeriods (headings ++ [heading]) = mergePeriod (mergePeriods headings) heading := by
  unfold mergePeriods
  rw [List.foldl_append, List.foldl_cons, List.foldl_nil]

theorem bareApart_mergePeriods (headings : List String) : BareApart (mergePeriods headings) := by
  induction headings using List.reverseRecOn with
  | nil => exact fun x hx => absurd hx List.not_mem_nil
  | append_singleton headings heading ih =>
    rw [mergePeriods_concat]
    exact (merges_mergePeriod _ heading).bareApart ih

/-! ## Merged lists -/

/-- The list holds no heading twice, and none beside its form with one more period. -/
def Merged (list : List String) : Prop := list.Nodup ∧ ∀ x ∈ list, x ++ "." ∉ list

instance : DecidablePred Merged := fun _ => inferInstanceAs (Decidable (_ ∧ _))

theorem merged_of_perm {a b : List String} (hp : a.Perm b) : Merged a ↔ Merged b := by
  unfold Merged
  simp only [hp.nodup_iff, hp.mem_iff]

theorem merged_cons : Merged (value :: list) ↔
    Merged list ∧ value ∉ list ∧ (∀ x ∈ list, value ≠ x ++ ".") ∧ value ++ "." ∉ list := by
  have hne := append_period_ne value
  unfold Merged
  simp only [List.nodup_cons, List.mem_cons, forall_eq_or_imp, not_or]
  constructor
  · rintro ⟨⟨hnot, hnodup⟩, ⟨-, hlong⟩, hrest⟩
    exact ⟨⟨hnodup, fun x hx => (hrest x hx).2⟩, hnot, fun x hx heq => (hrest x hx).1 heq.symm,
      hlong⟩
  · rintro ⟨⟨hnodup, hrest⟩, hnot, hshort, hlong⟩
    exact ⟨⟨hnot, hnodup⟩, ⟨hne, hlong⟩, fun x hx => ⟨(hshort x hx).symm, hrest x hx⟩⟩

/-- **Which heading leaves a merged list merged**: any but one with a period whose form with one
more period is listed. -/
theorem Merges.merged_iff (hm : Merges list value next) (h : Merged list) :
    Merged next ↔ ¬ (HasPeriod value ∧ value ++ "." ∈ list) := by
  cases hm with
  | blank hblank => exact iff_of_true h fun hp => not_hasPeriod_empty (hblank ▸ hp.1)
  | outdone hnot => exact iff_of_true h fun hp => hnot hp.1
  | held hmem => exact iff_of_true h fun hp => h.2 value hmem hp.2
  | added hne hnot hx hp =>
    rw [merged_of_perm List.perm_append_comm, List.singleton_append, merged_cons]
    constructor
    · rintro ⟨-, -, -, hlong⟩ hboth
      exact hlong hboth.2
    · intro hboth
      refine ⟨h, hnot, hx, fun hlong => ?_⟩
      by_cases hperiod : HasPeriod value
      · exact hboth ⟨hperiod, hlong⟩
      · exact hp hperiod hlong
  | replaced before after old hlist hbefore hvalue =>
    have hperiod : HasPeriod value := hvalue ▸ hasPeriod_append old
    have hold : value ++ "." ≠ old := by
      intro heq
      have hlen := length_append_period value
      rw [heq, hvalue, length_append_period] at hlen
      omega
    rw [hlist, merged_of_perm List.perm_middle, merged_cons] at h
    obtain ⟨hrest, hnot, -, hshort⟩ := h
    rw [← hvalue] at hshort
    rw [merged_of_perm List.perm_middle, merged_cons, hlist, List.perm_middle.mem_iff,
      List.mem_cons, or_iff_right hold]
    constructor
    · rintro ⟨-, -, -, hlong⟩ hboth
      exact hlong hboth.2
    · intro hboth
      refine ⟨hrest, hshort, fun x hx heq => ?_, fun hlong => hboth ⟨hperiod, hlong⟩⟩
      rw [hvalue, String.append_left_inj] at heq
      exact hnot (heq ▸ hx)

/-! ## All headings -/

/-- The heading comes at some place, and its form with one more period does not come after it. -/
def Stands (heading : String) (values : List String) : Prop :=
  ∃ before after, values = before ++ heading :: after ∧ heading ++ "." ∉ after

/-- No heading with a period comes while its form with one more period stands. -/
def NeverShortened (values : List String) : Prop :=
  ∀ front value, front ++ [value] <+: values → HasPeriod value → ¬ Stands (value ++ ".") front

theorem not_stands_nil (heading : String) : ¬ Stands heading [] := by
  rintro ⟨before, after, heq, -⟩
  simp at heq

theorem stands_concat {heading : String} {values : List String} :
    Stands heading (values ++ [value]) ↔
      value = heading ∨ Stands heading values ∧ value ≠ heading ++ "." := by
  unfold Stands
  constructor
  · rintro ⟨before, after, heq, hnot⟩
    rcases List.eq_nil_or_concat' after with rfl | ⟨after, last, rfl⟩
    · obtain ⟨-, hv⟩ := List.append_inj' heq rfl
      exact .inl (List.head_eq_of_cons_eq hv)
    · rw [← List.cons_append, ← List.append_assoc] at heq
      obtain ⟨hvalues, hv⟩ := List.append_inj' heq rfl
      obtain rfl := List.head_eq_of_cons_eq hv
      rw [List.mem_append, List.mem_singleton, not_or] at hnot
      exact .inr ⟨⟨before, after, hvalues, hnot.1⟩, Ne.symm hnot.2⟩
  · rintro (rfl | ⟨⟨before, after, rfl, hnot⟩, hne⟩)
    · exact ⟨values, [], rfl, List.not_mem_nil⟩
    · refine ⟨before, after ++ [value], by simp, ?_⟩
      rw [List.mem_append, List.mem_singleton, not_or]
      exact ⟨hnot, hne.symm⟩

theorem neverShortened_concat {values : List String} :
    NeverShortened (values ++ [value]) ↔
      NeverShortened values ∧ (HasPeriod value → ¬ Stands (value ++ ".") values) := by
  unfold NeverShortened
  simp only [List.prefix_concat_iff]
  constructor
  · intro h
    exact ⟨fun front other hpre => h front other (.inr hpre), h values value (.inl rfl)⟩
  · rintro ⟨hfront, hlast⟩ front other (heq | hpre)
    · obtain ⟨rfl, hv⟩ := List.append_inj' heq rfl
      obtain rfl := List.head_eq_of_cons_eq hv
      exact hlast
    · exact hfront front other hpre

/-- Of the headings with a period, one that comes is listed, and one that is listed stays unless
its form with one more period comes. -/
theorem Merges.mem_iff (hm : Merges list value next) (hn : list.Nodup) {heading : String}
    (hp : HasPeriod heading) :
    heading ∈ next ↔ value = heading ∨ heading ∈ list ∧ value ≠ heading ++ "." := by
  have hkept (hx : heading ∈ list → value ≠ heading ++ ".") (hv : value = heading → value ∈ list) :
      heading ∈ list ↔ value = heading ∨ heading ∈ list ∧ value ≠ heading ++ "." := by
    refine ⟨fun hmem => .inr ⟨hmem, hx hmem⟩, ?_⟩
    rintro (rfl | ⟨hmem, -⟩)
    · exact hv rfl
    · exact hmem
  have hpassed (hnot : ¬ HasPeriod value) :
      heading ∈ list ↔ value = heading ∨ heading ∈ list ∧ value ≠ heading ++ "." := by
    refine hkept ?_ ?_
    · rintro - rfl
      exact hnot (hasPeriod_append heading)
    · rintro rfl
      exact absurd hp hnot
  cases hm with
  | blank hblank => exact hpassed (hblank ▸ not_hasPeriod_empty)
  | outdone hnot => exact hpassed hnot
  | held hmem hx => exact hkept (hx heading) fun _ => hmem
  | added hne hnot hx _ =>
    rw [List.mem_append, List.mem_singleton, or_comm, eq_comm]
    exact or_congr_right (iff_self_and.mpr (hx heading))
  | replaced before after old hlist hbefore hvalue =>
    -- the old heading was listed once, so it is gone
    rw [hlist, List.perm_middle.nodup_iff, List.nodup_cons] at hn
    rw [hlist, List.perm_middle.mem_iff, List.perm_middle.mem_iff, List.mem_cons, List.mem_cons,
      eq_comm, hvalue, ne_eq, String.append_left_inj, or_and_right]
    have hold : ¬ (heading = old ∧ ¬ old = heading) := fun hboth => hboth.2 hboth.1.symm
    rw [or_iff_right hold]
    refine or_congr_right (iff_self_and.mpr ?_)
    rintro hmem rfl
    exact hn.1 hmem

/-- A heading with a period is listed exactly when it stands, as long as the list was merged all
along. -/
theorem mem_mergePeriods_iff {headings : List String} {heading : String} (hp : HasPeriod heading)
    (h : ∀ front, front <+: headings → Merged (mergePeriods front)) :
    heading ∈ mergePeriods headings ↔ Stands heading (headings.map trimmed) := by
  induction headings using List.reverseRecOn with
  | nil => exact iff_of_false List.not_mem_nil (not_stands_nil heading)
  | append_singleton headings last ih =>
    have hfront : ∀ front, front <+: headings → Merged (mergePeriods front) := fun front hpre =>
      h front (hpre.trans (List.prefix_append headings [last]))
    have hmerged := hfront headings (List.prefix_refl headings)
    rw [mergePeriods_concat, (merges_mergePeriod _ last).mem_iff hmerged.1 hp, ih hfront,
      List.map_append, List.map_singleton, stands_concat]

/-- The list is merged all along exactly when no heading is shortened. -/
theorem merged_prefixes_iff (headings : List String) :
    (∀ front, front <+: headings → Merged (mergePeriods front)) ↔
      NeverShortened (headings.map trimmed) := by
  induction headings using List.reverseRecOn with
  | nil =>
    refine iff_of_true (fun front hpre => ?_) fun front value hpre => ?_
    · rw [List.prefix_nil.mp hpre]
      exact ⟨List.nodup_nil, fun x hx => absurd hx List.not_mem_nil⟩
    · exact absurd (List.prefix_nil.mp hpre) (List.append_ne_nil_of_right_ne_nil _ (by simp))
  | append_singleton headings last ih =>
    simp only [List.prefix_concat_iff, forall_eq_or_imp]
    rw [List.map_append, List.map_singleton, neverShortened_concat, ← ih, and_comm]
    refine and_congr_right fun h => ?_
    have hmerged := h headings (List.prefix_refl headings)
    rw [mergePeriods_concat, (merges_mergePeriod _ last).merged_iff hmerged, not_and]
    refine forall_congr' fun hp => not_congr ?_
    exact mem_mergePeriods_iff (hasPeriod_append _) h

/-- A heading with two periods at its end is needed for a heading to be shortened. -/
theorem neverShortened_of_one_period {values : List String}
    (h : ∀ value ∈ values, HasPeriod value → ¬ HasPeriod (withoutPeriod value)) :
    NeverShortened values := by
  rintro front value hpre hp ⟨before, after, rfl, -⟩
  have hmem : value ++ "." ∈ values := hpre.subset (by simp)
  have hone := h _ hmem (hasPeriod_append value)
  rw [withoutPeriod_append] at hone
  exact hone hp

/-- **Which headings stay apart.** A heading without a period is listed once, and not beside its
form with a period, whatever the headings are. The list is merged all along, so that no heading is
listed twice and none beside its form with one more period, exactly when no heading with a period
comes after its form with one more period that still stands; so it is merged if no heading ends in
two periods. -/
theorem mergePeriods_merged_iff (headings : List String) :
    BareApart (mergePeriods headings) ∧
      ((∀ front, front <+: headings → Merged (mergePeriods front)) ↔
        NeverShortened (headings.map trimmed)) ∧
      ((∀ value ∈ headings.map trimmed, HasPeriod value → ¬ HasPeriod (withoutPeriod value)) →
        Merged (mergePeriods headings)) := by
  refine ⟨bareApart_mergePeriods headings, merged_prefixes_iff headings, fun hone => ?_⟩
  have hnever := neverShortened_of_one_period hone
  exact (merged_prefixes_iff headings).mpr hnever headings (List.prefix_refl headings)

theorem mergePeriods_merged_iff_fiction :
    (∀ value ∈ ["Fiction", " History", "Fiction."].map trimmed,
      HasPeriod value → ¬ HasPeriod (withoutPeriod value)) ∧
      Merged (mergePeriods ["Fiction", " History", "Fiction."]) := by
  have hone : ∀ value ∈ ["Fiction", " History", "Fiction."].map trimmed,
      HasPeriod value → ¬ HasPeriod (withoutPeriod value) := by decide
  obtain ⟨-, -, hmerged⟩ := mergePeriods_merged_iff ["Fiction", " History", "Fiction."]
  exact ⟨hone, hmerged hone⟩

/-- A name that ends in an abbreviation, with the period of the heading and without. -/
def abbreviatedName : List String := ["Smith, J..", "Smith, J.", "Smith, J.."]

/-- Headings that differ by a period can stay, and equal ones: a heading with a period does not give
way to its form with two. -/
theorem abbreviatedName_repeats :
    (¬ ∀ headings : List String, (mergePeriods headings).Nodup) ∧
      ¬ ∀ headings : List String, ∀ x ∈ mergePeriods headings, x ++ "." ∉ mergePeriods headings := by
  refine ⟨fun h => ?_, fun h => ?_⟩
  · exact absurd (h abbreviatedName) (by decide)
  · exact absurd (h (abbreviatedName.take 2)) (by decide)

end Marc.Heading
