import Marc.Proofs.Distinct
import Marc.Proofs.Heading

/-!
# Headings by their bases

The base of a heading is the heading without a period at its end. As long as no heading ends in two
periods, a base has at most two forms, and `dedup_trailing_period` can be said without its list:
take each base where it comes first, and write it with a period if it ever comes with one.

Results:
* `Merges.eq_byBase`: one heading keeps the list in this shape, whatever it does to it.
* `byBase_byBase`: a list in this shape stays as it is.
* `mergePeriods_eq_byBase`: **headings are merged base by base**, and merged headings are left alone
  by a second merging.
-/

namespace Marc.Heading

open Text (trimmed trimmed_trimmed withoutPeriod)

/-! ## Bases and their forms -/

/-- No heading ends in two periods. -/
def OnePeriod (values : List String) : Prop :=
  ∀ value ∈ values, HasPeriod value → ¬ HasPeriod (withoutPeriod value)

instance : DecidablePred OnePeriod := fun values =>
  inferInstanceAs (Decidable (∀ value ∈ values, _))

/-- The bases of the values that are not blank, each where it comes first. -/
def bases (values : List String) : List String :=
  ((values.filter (· ≠ "")).map withoutPeriod).eraseDups

/-- The form in which a base is listed: with a period if it comes with one. -/
def fullForm (values : List String) (base : String) : String :=
  if base ++ "." ∈ values then base ++ "." else base

/-- The values base by base. -/
def byBase (values : List String) : List String := (bases values).map (fullForm values)

variable {values next : List String} {value base s : String}

theorem append_period_ne_empty (s : String) : s ++ "." ≠ "" := by
  intro h
  exact not_hasPeriod_empty (h ▸ hasPeriod_append s)

/-- A value is its base, with a period or without. -/
theorem eq_base_or (value : String) :
    value = withoutPeriod value ++ "." ∨ ¬ HasPeriod value ∧ value = withoutPeriod value := by
  by_cases hp : HasPeriod value
  · exact .inl hp.eq_append
  · exact .inr ⟨hp, (withoutPeriod_of_not_hasPeriod hp).symm⟩

theorem mem_bases : base ∈ bases values ↔ ∃ v ∈ values, v ≠ "" ∧ withoutPeriod v = base := by
  unfold bases
  rw [List.mem_eraseDups]
  simp [and_assoc]

theorem nodup_bases (values : List String) : (bases values).Nodup := Distinct.nodup_eraseDups _

theorem OnePeriod.not_hasPeriod (h : OnePeriod values) (hb : base ∈ bases values) :
    ¬ HasPeriod base := by
  obtain ⟨v, hv, -, rfl⟩ := mem_bases.mp hb
  by_cases hp : HasPeriod v
  · exact h v hv hp
  · rwa [withoutPeriod_of_not_hasPeriod hp]

theorem fullForm_cases (values : List String) (base : String) :
    base ++ "." ∈ values ∧ fullForm values base = base ++ "." ∨
      base ++ "." ∉ values ∧ fullForm values base = base := by
  unfold fullForm
  split
  · rename_i h
    exact .inl ⟨h, rfl⟩
  · rename_i h
    exact .inr ⟨h, rfl⟩

theorem withoutPeriod_fullForm (h : ¬ HasPeriod base) (values : List String) :
    withoutPeriod (fullForm values base) = base := by
  rcases fullForm_cases values base with ⟨-, heq⟩ | ⟨-, heq⟩
  · rw [heq, withoutPeriod_append]
  · rw [heq, withoutPeriod_of_not_hasPeriod h]

/-- What is listed has its base among the bases. -/
theorem OnePeriod.base_mem (h : OnePeriod values) (hs : s ∈ byBase values) :
    withoutPeriod s ∈ bases values ∧ fullForm values (withoutPeriod s) = s := by
  obtain ⟨base, hb, rfl⟩ := List.mem_map.mp hs
  rw [withoutPeriod_fullForm (h.not_hasPeriod hb)]
  exact ⟨hb, rfl⟩

/-- What is listed is one of the values, and not blank. -/
theorem mem_of_mem_byBase (hs : s ∈ byBase values) : s ∈ values ∧ s ≠ "" := by
  obtain ⟨base, hb, rfl⟩ := List.mem_map.mp hs
  rcases fullForm_cases values base with ⟨hmem, heq⟩ | ⟨hnot, heq⟩
  · rw [heq]
    exact ⟨hmem, append_period_ne_empty base⟩
  · obtain ⟨v, hv, hne, rfl⟩ := mem_bases.mp hb
    rw [heq]
    rcases eq_base_or v with hp | ⟨-, hbare⟩
    · exact absurd (hp ▸ hv) hnot
    · rw [← hbare]
      exact ⟨hv, hne⟩

/-! ## One value more -/

theorem bases_concat_of_mem (h : withoutPeriod value ∈ bases values) :
    bases (values ++ [value]) = bases values := by
  unfold bases at h ⊢
  rw [List.filter_append, List.map_append]
  by_cases hne : value = ""
  · rw [hne, List.filter_cons_of_neg (by simp), List.filter_nil, List.map_nil, List.append_nil]
  · rw [List.filter_cons_of_pos (by simpa using hne), List.filter_nil, List.map_singleton,
      Distinct.eraseDups_concat_of_mem (List.mem_eraseDups.mp h)]

theorem bases_concat_blank (values : List String) : bases (values ++ [""]) = bases values := by
  unfold bases
  rw [List.filter_append, List.filter_cons_of_neg (by simp), List.filter_nil, List.append_nil]

theorem bases_concat_of_not_mem (hne : value ≠ "") (h : withoutPeriod value ∉ bases values) :
    bases (values ++ [value]) = bases values ++ [withoutPeriod value] := by
  unfold bases at h ⊢
  rw [List.filter_append, List.map_append, List.filter_cons_of_pos (by simpa using hne),
    List.filter_nil, List.map_singleton,
    Distinct.eraseDups_concat_of_not_mem (mt List.mem_eraseDups.mpr h)]

theorem fullForm_concat_self (values : List String) (base : String) :
    fullForm (values ++ [base ++ "."]) base = base ++ "." := if_pos (by simp)

theorem fullForm_concat_of_ne (h : value ≠ base ++ ".") :
    fullForm (values ++ [value]) base = fullForm values base := by
  unfold fullForm
  simp only [List.mem_append, List.mem_singleton, or_iff_left h.symm]

/-- A value whose base is listed already, and not in a lesser form, changes nothing. -/
theorem byBase_concat_eq_self (hb : bases (values ++ [value]) = bases values)
    (hf : ∀ base ∈ bases values, value = base ++ "." → fullForm values base = value) :
    byBase (values ++ [value]) = byBase values := by
  unfold byBase
  rw [hb]
  refine List.map_congr_left fun base hm => ?_
  by_cases hv : value = base ++ "."
  · rw [hf base hm hv, hv, fullForm_concat_self]
  · exact fullForm_concat_of_ne hv

/-- A value whose base is not listed is listed behind all others. -/
theorem byBase_concat_of_not_mem (hne : value ≠ "") (hb : withoutPeriod value ∉ bases values) :
    byBase (values ++ [value]) = byBase values ++ [value] := by
  have hold : ∀ base ∈ bases values,
      fullForm (values ++ [value]) base = fullForm values base := by
    intro base hm
    refine fullForm_concat_of_ne fun heq => hb ?_
    rw [heq, withoutPeriod_append]
    exact hm
  have hnew : fullForm (values ++ [value]) (withoutPeriod value) = value := by
    rcases eq_base_or value with hp | ⟨-, hbare⟩
    · conv => lhs; rw [hp]
      rw [withoutPeriod_append, fullForm_concat_self, ← hp]
    · rw [← hbare] at hb ⊢
      rw [fullForm_concat_of_ne (append_period_ne value).symm]
      rcases fullForm_cases values value with ⟨hmem, -⟩ | ⟨-, heq⟩
      · exact absurd (mem_bases.mpr ⟨_, hmem, append_period_ne_empty value,
          withoutPeriod_append value⟩) hb
      · exact heq
  unfold byBase
  rw [bases_concat_of_not_mem hne hb, List.map_append, List.map_singleton, hnew,
    List.map_congr_left hold]

/-- A value whose base is listed bare, and that has a period, takes the place of its base. -/
theorem byBase_concat_append_period {before after : List String} (hone : OnePeriod values)
    (hs : ¬ HasPeriod s) (hlist : byBase values = before ++ s :: after) :
    byBase (values ++ [s ++ "."]) = before ++ (s ++ ".") :: after := by
  have hbase : withoutPeriod (s ++ ".") ∈ bases values := by
    rw [withoutPeriod_append, ← withoutPeriod_of_not_hasPeriod hs]
    exact (hone.base_mem (hlist ▸ by simp)).1
  unfold byBase at hlist ⊢
  obtain ⟨front, rest, hbases, rfl, hrest⟩ := List.map_eq_append_iff.mp hlist
  obtain ⟨base, back, rfl, hform, rfl⟩ := List.map_eq_cons_iff.mp hrest
  have hbs : base = s := by
    have hmem : base ∈ bases values := hbases ▸ by simp
    have hbare := hone.not_hasPeriod hmem
    rw [← withoutPeriod_fullForm hbare values, hform, withoutPeriod_of_not_hasPeriod hs]
  subst hbs
  -- the base is listed once, so the forms of the others stay
  have hnodup := nodup_bases values
  rw [hbases, List.perm_middle.nodup_iff, List.nodup_cons, List.mem_append, not_or] at hnodup
  have hother : ∀ other, other ≠ base →
      fullForm (values ++ [base ++ "."]) other = fullForm values other := fun other hne =>
    fullForm_concat_of_ne fun heq => hne ((String.append_left_inj ".").mp heq).symm
  have hfront : ∀ other ∈ front, other ≠ base := fun other hm heq => hnodup.1.1 (heq ▸ hm)
  have hback : ∀ other ∈ back, other ≠ base := fun other hm heq => hnodup.1.2 (heq ▸ hm)
  rw [bases_concat_of_mem hbase, hbases, List.map_append, List.map_cons, fullForm_concat_self,
    List.map_congr_left fun other hm => hother other (hfront other hm),
    List.map_congr_left fun other hm => hother other (hback other hm)]

/-- **One heading keeps the list in shape**, whatever it does to it. -/
theorem Merges.eq_byBase (hm : Merges (byBase values) value next)
    (hone : OnePeriod (values ++ [value])) : next = byBase (values ++ [value]) := by
  have hold : OnePeriod values := fun v hv => hone v (List.mem_append_left _ hv)
  symm
  cases hm with
  | blank hblank =>
    subst hblank
    exact byBase_concat_eq_self (bases_concat_blank values) fun base _ heq =>
      absurd heq.symm (append_period_ne_empty base)
  | outdone hnot hmem =>
    have hb := (hold.base_mem hmem).1
    rw [withoutPeriod_append, ← withoutPeriod_of_not_hasPeriod hnot] at hb
    exact byBase_concat_eq_self (bases_concat_of_mem hb) fun base _ heq =>
      absurd (heq ▸ hasPeriod_append base) hnot
  | held hmem hshort =>
    obtain ⟨hb, hform⟩ := hold.base_mem hmem
    refine byBase_concat_eq_self (bases_concat_of_mem hb) fun base _ heq => ?_
    rwa [heq, withoutPeriod_append, ← heq] at hform
  | added hne hnot hshort hlong =>
    refine byBase_concat_of_not_mem hne fun hb => ?_
    have hmem : fullForm values (withoutPeriod value) ∈ byBase values := List.mem_map_of_mem hb
    -- the base is listed with a period or without, and so is the value
    rcases fullForm_cases values (withoutPeriod value) with ⟨-, heq⟩ | ⟨-, heq⟩ <;>
      rw [heq] at hmem <;> rcases eq_base_or value with hp | ⟨hbare, hp⟩
    · exact hnot (hp ▸ hmem)
    · exact hlong hbare (hp ▸ hmem)
    · exact hshort _ hmem hp
    · exact hnot (hp ▸ hmem)
  | replaced before after old hlist _ hvalue =>
    subst hvalue
    have hbare := hone _ (List.mem_append_right _ (List.mem_singleton_self _)) (hasPeriod_append old)
    rw [withoutPeriod_append] at hbare
    exact byBase_concat_append_period hold hbare hlist

/-! ## All headings -/

/-- A list in which each base is written in full stays as it is. -/
theorem byBase_byBase (hone : OnePeriod values) : byBase (byBase values) = byBase values := by
  have hfilter : (byBase values).filter (· ≠ "") = byBase values :=
    List.filter_eq_self.mpr fun s hs => by simpa using (mem_of_mem_byBase hs).2
  have hmap : (byBase values).map withoutPeriod = bases values := by
    unfold byBase
    rw [List.map_map]
    refine (List.map_congr_left fun base hb => ?_).trans (List.map_id _)
    exact withoutPeriod_fullForm (hone.not_hasPeriod hb) values
  have hbases : bases (byBase values) = bases values := by
    conv => lhs; unfold bases
    rw [hfilter, hmap, Distinct.eraseDups_eq_self (nodup_bases values)]
  have hforms : ∀ base ∈ bases values, fullForm (byBase values) base = fullForm values base := by
    intro base hb
    have hmem : fullForm values base ∈ byBase values := List.mem_map_of_mem hb
    rcases fullForm_cases values base with ⟨-, heq⟩ | ⟨hnot, heq⟩
    · rw [heq] at hmem ⊢
      exact if_pos hmem
    · rw [heq]
      exact if_neg fun hlong => hnot (mem_of_mem_byBase hlong).1
  calc
    byBase (byBase values) = (bases (byBase values)).map (fullForm (byBase values)) := rfl
    _ = (bases values).map (fullForm values) := by rw [hbases, List.map_congr_left hforms]

theorem mergePeriods_eq (headings : List String) (hone : OnePeriod (headings.map trimmed)) :
    mergePeriods headings = byBase (headings.map trimmed) := by
  induction headings using List.reverseRecOn with
  | nil => rfl
  | append_singleton headings heading ih =>
    rw [List.map_append, List.map_singleton] at hone ⊢
    have hfront : OnePeriod (headings.map trimmed) := fun v hv => hone v (List.mem_append_left _ hv)
    have hstep := merges_mergePeriod (mergePeriods headings) heading
    rw [ih hfront] at hstep
    rw [mergePeriods_concat, ih hfront]
    exact hstep.eq_byBase hone

/-- **Headings are merged base by base**, as long as none of them ends in two periods: the bases are
listed where they come first, each with a period if it ever comes with one. Merging the result again
changes nothing. -/
theorem mergePeriods_eq_byBase {headings : List String} (hone : OnePeriod (headings.map trimmed)) :
    mergePeriods headings = byBase (headings.map trimmed) ∧
      mergePeriods (mergePeriods headings) = mergePeriods headings := by
  have hlist := mergePeriods_eq headings hone
  have htrim : (byBase (headings.map trimmed)).map trimmed = byBase (headings.map trimmed) := by
    refine (List.map_congr_left fun s hs => ?_).trans (List.map_id _)
    obtain ⟨heading, -, rfl⟩ := List.mem_map.mp (mem_of_mem_byBase hs).1
    exact trimmed_trimmed heading
  have hagain : OnePeriod ((byBase (headings.map trimmed)).map trimmed) := fun s hs => by
    rw [htrim] at hs
    exact hone s (mem_of_mem_byBase hs).1
  refine ⟨hlist, ?_⟩
  rw [hlist, mergePeriods_eq _ hagain, htrim, byBase_byBase hone]

/-- Headings with periods and without, in several spellings. The bare period is one of them: its
base is the empty string. -/
def mixedHeadings : List String := [" . ", "History", "Fiction", "", "Fiction. ", "History"]

theorem mergePeriods_eq_byBase_mixedHeadings :
    OnePeriod (mixedHeadings.map trimmed) ∧
      mergePeriods mixedHeadings = byBase (mixedHeadings.map trimmed) ∧
      mergePeriods (mergePeriods mixedHeadings) = mergePeriods mixedHeadings ∧
      byBase (mixedHeadings.map trimmed) = [".", "History", "Fiction."] := by
  have hone : OnePeriod (mixedHeadings.map trimmed) := by decide
  obtain ⟨hlist, hagain⟩ := mergePeriods_eq_byBase hone
  exact ⟨hone, hlist, hagain, by decide⟩

end Marc.Heading
