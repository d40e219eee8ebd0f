import Marc.Proofs.Text.Basic
import Marc.Value
import Mathlib.Data.List.Induction
import Mathlib.Data.List.Perm.Basic

/-!
# What is added to a list without repetitions

A value is compared with the whole list before it is stored (`safe_append`), and the list grows
while values are added (`append_all`). What is added in the end can be said without the list as it
stands in between: the entries that the values make (`entries`), each where it comes first, less
those that were listed before.

Results:
* `nodup_eraseDups`, `eraseDups_eq_self`: the first of equal entries; `eraseDups_append_filterMap`:
  equal entries can be left out before something is read off them.
* `addAll_eq`: **values added to any list**; `addAll_nil_left`: added to the empty list, and
  `head?_addAll`: what stands first there.
* `mem_addAll`, `addAll_of_subset`: what is listed afterwards, and when nothing is added.
* `empty_mem_foldl_addAll`: the empty string is listed exactly when a value of white space was
  added.
-/

namespace Marc.Distinct

open Text (trimmed IsWhite)

/-! ## The first of equal entries -/

section FirstOccurrence

variable {α : Type} [BEq α] [LawfulBEq α]

variable {l : List α} {a : α}

theorem eraseDups_concat_of_mem (h : a ∈ l) : (l ++ [a]).eraseDups = l.eraseDups := by
  rw [List.eraseDups_append, List.cons_removeAll, List.nil_removeAll, if_neg (by simpa using h)]
  exact List.append_nil _

theorem eraseDups_concat_of_not_mem (h : a ∉ l) :
    (l ++ [a]).eraseDups = l.eraseDups ++ [a] := by
  rw [List.eraseDups_append, List.cons_removeAll, List.nil_removeAll, if_pos (by simpa using h)]
  rfl

theorem nodup_eraseDups (l : List α) : l.eraseDups.Nodup := by
  induction l using List.reverseRecOn with
  | nil => exact List.nodup_nil
  | append_singleton l a ih =>
    by_cases ha : a ∈ l
    · rw [eraseDups_concat_of_mem ha]
      exact ih
    · rw [eraseDups_concat_of_not_mem ha, (List.perm_append_singleton a _).nodup_iff,
        List.nodup_cons, List.mem_eraseDups]
      exact ⟨ha, ih⟩

/-- Without equal entries there is nothing to leave out. -/
theorem eraseDups_eq_self (h : l.Nodup) : l.eraseDups = l := by
  induction l using List.reverseRecOn with
  | nil => rfl
  | append_singleton l a ih =>
    rw [(List.perm_append_singleton a l).nodup_iff, List.nodup_cons] at h
    rw [eraseDups_concat_of_not_mem h.1, ih h.2]

theorem eraseDups_append_congr {m : List α} (h : l.eraseDups = m.eraseDups) (rest : List α) :
    (l ++ rest).eraseDups = (m ++ rest).eraseDups := by
  have hmem : ∀ a, a ∈ l ↔ a ∈ m := fun a => by rw [← List.mem_eraseDups, h, List.mem_eraseDups]
  have hrest : rest.removeAll l = rest.removeAll m := by
    unfold List.removeAll
    refine List.filter_congr fun a _ => ?_
    rw [Bool.eq_iff_iff]
    simp [hmem a]
  rw [List.eraseDups_append, List.eraseDups_append, h, hrest]

/-- What is read off equal entries is equal, so they can be left out before or after. -/
theorem eraseDups_append_filterMap {β : Type} [BEq β] [LawfulBEq β] (front : List α)
    (f : β → Option α) (l : List β) :
    (front ++ l.eraseDups.filterMap f).eraseDups = (front ++ l.filterMap f).eraseDups := by
  induction l using List.reverseRecOn with
  | nil => rfl
  | append_singleton l b ih =>
    rw [List.filterMap_append, ← List.append_assoc, ← eraseDups_append_congr ih]
    by_cases hb : b ∈ l
    · rw [eraseDups_concat_of_mem hb]
      cases hf : f b with
      | none => simp [hf]
      | some a =>
        have ha : a ∈ front ++ l.eraseDups.filterMap f :=
          List.mem_append_right _ (List.mem_filterMap.mpr ⟨b, List.mem_eraseDups.mpr hb, hf⟩)
        rw [List.filterMap_cons_some hf, List.filterMap_nil, eraseDups_concat_of_mem ha]
    · rw [eraseDups_concat_of_not_mem hb, List.filterMap_append, List.append_assoc]

end FirstOccurrence

theorem head?_eraseDups {α : Type} [BEq α] : ∀ l : List α, l.eraseDups.head? = l.head?
  | [] => rfl
  | a :: l => by rw [List.eraseDups_cons, List.head?_cons, List.head?_cons]

/-! ## Entries -/

/-- The entries that values make: those that are not the empty string, each trimmed. A value of
white space makes an empty entry. -/
def entries (values : List String) : List String := (values.filter (· ≠ "")).map trimmed

variable {list values : List String} {value s : String}

theorem entries_cons (h : value ≠ "") (values : List String) :
    entries (value :: values) = trimmed value :: entries values := by
  unfold entries
  rw [List.filter_cons_of_pos (by simpa using h), List.map_cons]

theorem mem_entries : s ∈ entries values ↔ ∃ value ∈ values, value ≠ "" ∧ trimmed value = s := by
  unfold entries
  simp [and_assoc]

theorem trimmed_of_mem_entries (h : s ∈ entries values) : trimmed s = s := by
  obtain ⟨value, -, -, rfl⟩ := mem_entries.mp h
  exact Text.trimmed_trimmed value

/-! ## Adding values -/

theorem removeAll_concat (l list : List String) (s : String) :
    l.removeAll (list ++ [s]) = (l.removeAll list).filter fun x => !x == s := by
  unfold List.removeAll
  rw [List.filter_filter]
  refine List.filter_congr fun x _ => ?_
  rw [List.elem_eq_contains, List.elem_eq_contains, List.contains_append, Bool.not_or, Bool.and_comm,
    List.contains_cons, List.contains_nil, Bool.or_false]

/-- **Values added to any list**: the list stays as it is, and behind it come the entries that the
values make, each where it comes first, less those of the list. -/
theorem addAll_eq : ∀ list values : List String,
    addAll list values = list ++ ((entries values).removeAll list).eraseDups
  | list, [] => (List.append_nil list).symm
  | list, value :: values => by
    rw [addAll_cons, addAll_eq]
    by_cases hv : value = ""
    · subst hv
      rfl
    rw [entries_cons hv, List.cons_removeAll]
    unfold add
    rw [if_neg hv]
    by_cases hm : trimmed value ∈ list
    · rw [if_pos hm, if_neg (by simpa using hm)]
    · rw [if_neg hm, if_pos (by simpa using hm), List.eraseDups_cons, removeAll_concat,
        List.append_assoc, List.singleton_append]

theorem addAll_nil_left (values : List String) : addAll [] values = (entries values).eraseDups := by
  rw [addAll_eq, List.nil_append, List.removeAll_nil]

/-- The first that is listed is the first that is not the empty string. -/
theorem head?_addAll (values : List String) :
    (addAll [] values).head? = (values.find? fun value => value ≠ "").map trimmed := by
  rw [addAll_nil_left, head?_eraseDups]
  unfold entries
  rw [List.head?_map, List.head?_filter]

theorem mem_removeAll {l list : List String} : s ∈ l.removeAll list ↔ s ∈ l ∧ s ∉ list := by
  unfold List.removeAll
  simp

theorem mem_addAll : s ∈ addAll list values ↔ s ∈ list ∨ s ∈ entries values := by
  rw [addAll_eq, List.mem_append, List.mem_eraseDups, mem_removeAll]
  by_cases hs : s ∈ list <;> simp [hs]

theorem prefix_addAll (list values : List String) : list <+: addAll list values := by
  rw [addAll_eq]
  exact List.prefix_append _ _

theorem addAll_of_subset (h : ∀ s ∈ entries values, s ∈ list) : addAll list values = list := by
  have hnone : (entries values).removeAll list = [] :=
    List.eq_nil_iff_forall_not_mem.mpr fun s hs =>
      (mem_removeAll.mp hs).2 (h s (mem_removeAll.mp hs).1)
  rw [addAll_eq, hnone]
  exact List.append_nil list

/-! ## The empty entry -/

/-- **When the empty string comes into the list.** Values may be added in several calls, and one by
one; a value of white space, which is not the empty string before it is trimmed, makes an empty
entry. -/
theorem empty_mem_foldl_addAll (calls : List (List String)) :
    "" ∈ calls.foldl addAll [] ↔
      ∃ values ∈ calls, ∃ value ∈ values, value ≠ "" ∧ IsWhite value := by
  have hflat : calls.foldl addAll [] = addAll [] calls.flatten := List.foldl_flatten.symm
  rw [hflat, mem_addAll, or_iff_right List.not_mem_nil, mem_entries]
  simp only [Text.trimmed_eq_empty_iff, List.mem_flatten]
  constructor
  · rintro ⟨value, ⟨values, hvs, hv⟩, h⟩
    exact ⟨values, hvs, value, hv, h⟩
  · rintro ⟨values, hvs, value, hv, h⟩
    exact ⟨value, ⟨values, hvs, hv⟩, h⟩

end Marc.Distinct
