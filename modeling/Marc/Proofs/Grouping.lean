import Marc.Proofs.Distinct
import Marc.Value
import Mathlib.Algebra.GroupWithZero.Nat

/-!
# Strings grouped by code

The subfields of a value come in any order of their codes. `by_code` (`Value.groups`) collects their
strings, one after the other, in groups that stand in the order in which the codes first appear.
Within a code nothing is lost and nothing changes its place.

Results:
* `addToGroup_of_mem`, `addToGroup_of_not_mem`: what one more string does to groups with distinct
  codes.
* `groups_eq`: **the groups are the strings under each of the distinct codes.**
* `length_addToGroup`, `length_groups`: one more string makes one more, so none is lost.
* `lookup_groups`: a code has a group exactly when there are strings under it.
* `stringsFor_of_select?`: the strings of a selection, told from the field.
* `groups_lossless`: the laws together.
-/

namespace Marc

/-! ## The values under a code -/

namespace Content

variable {code : Char}

theorem valuesFor_eq_nil_iff {content : Content} :
    content.valuesFor code = [] ↔ code ∉ content.parts.map Subfield.code := by
  unfold valuesFor
  rw [List.map_eq_nil_iff, List.filter_eq_nil_iff, List.mem_map]
  simp

theorem valuesFor_concat (parts : List Subfield) (part : Subfield) (code : Char) :
    (subfields (parts ++ [part])).valuesFor code =
      if code = part.code then (subfields parts).valuesFor code ++ [part.value]
      else (subfields parts).valuesFor code := by
  show ((parts ++ [part]).filter _).map _ = _
  rw [List.filter_append, List.map_append]
  split
  · rename_i h
    rw [List.filter_cons_of_pos (by simp [h])]
    rfl
  · rename_i h
    rw [List.filter_cons_of_neg (by simpa using Ne.symm h)]
    exact List.append_nil _

end Content

namespace Value

variable {code : Char} {value : Value} {field : Field} {spec : Spec}

/-! ## One more string -/

section Step

variable {codes : List Char} {groups : List (Char × List String)}

/-- A string under a code that has no group makes one at the end. -/
theorem addToGroup_of_not_mem (h : code ∉ groups.map Prod.fst) (string : String) :
    addToGroup code string groups = groups ++ [(code, [string])] := by
  induction groups with
  | nil => rfl
  | cons group groups ih =>
    obtain ⟨c, strings⟩ := group
    rw [List.map_cons, List.mem_cons, not_or] at h
    unfold addToGroup
    rw [if_neg (Ne.symm h.1), ih h.2, List.cons_append]

/-- A string under a code that has a group goes to the end of it; the other groups stay. -/
theorem addToGroup_of_mem (h : code ∈ codes) (hd : codes.Nodup) (string : String)
    (strings : Char → List String) :
    addToGroup code string (codes.map fun c => (c, strings c)) =
      codes.map fun c => (c, if c = code then strings c ++ [string] else strings c) := by
  induction codes with
  | nil => exact absurd h List.not_mem_nil
  | cons c codes ih =>
    obtain ⟨hc, hd⟩ := List.nodup_cons.mp hd
    rw [List.map_cons, List.map_cons]
    unfold addToGroup
    by_cases hcode : c = code
    · subst hcode
      rw [if_pos rfl, if_pos rfl]
      -- no other group has the code
      exact congrArg _ (List.map_congr_left fun d hm => by
        rw [if_neg (ne_of_mem_of_not_mem hm hc)])
    · have hm : code ∈ codes := (List.mem_cons.mp h).resolve_left (Ne.symm hcode)
      rw [if_neg hcode, if_neg hcode, ih hm hd]

theorem length_addToGroup (code : Char) (string : String) (groups : List (Char × List String)) :
    ((addToGroup code string groups).map fun group => group.2.length).sum =
      (groups.map fun group => group.2.length).sum + 1 := by
  induction groups with
  | nil => rfl
  | cons group groups ih =>
    obtain ⟨c, strings⟩ := group
    unfold addToGroup
    split
    · simp only [List.map_cons, List.sum_cons, List.length_append, List.length_singleton]
      omega
    · simp only [List.map_cons, List.sum_cons, ih]
      omega

end Step

/-! ## All strings -/

/-- The codes of a value, each where it first appears. -/
def codes (value : Value) : List Char := (value.content.parts.map Subfield.code).eraseDups

theorem mem_codes : code ∈ value.codes ↔ value.stringsFor code ≠ [] := by
  unfold codes stringsFor
  rw [List.mem_eraseDups, ne_eq, Content.valuesFor_eq_nil_iff, not_not]

/-- By induction on the subfields from their end: the last one adds its string to the group of its
code, or makes a last group. -/
theorem foldl_addToGroup (parts : List Subfield) :
    parts.foldl (fun groups part => addToGroup part.code part.value groups) [] =
      (parts.map Subfield.code).eraseDups.map fun code =>
        (code, (Content.subfields parts).valuesFor code) := by
  induction parts using List.reverseRecOn with
  | nil => rfl
  | append_singleton parts part ih =>
    rw [List.foldl_concat, ih, List.map_append, List.map_singleton]
    simp only [Content.valuesFor_concat]
    by_cases hmem : part.code ∈ parts.map Subfield.code
    · rw [Distinct.eraseDups_concat_of_mem hmem,
        addToGroup_of_mem (List.mem_eraseDups.mpr hmem) (Distinct.nodup_eraseDups _)]
    · have hnil : (Content.subfields parts).valuesFor part.code = [] :=
        Content.valuesFor_eq_nil_iff.mpr hmem
      have hgroups : part.code ∉ ((parts.map Subfield.code).eraseDups.map fun code =>
          (code, (Content.subfields parts).valuesFor code)).map Prod.fst := by
        simpa [Function.comp_def] using hmem
      rw [Distinct.eraseDups_concat_of_not_mem hmem, addToGroup_of_not_mem hgroups,
        List.map_append, List.map_singleton, if_pos rfl, hnil, List.nil_append]
      refine congrArg (· ++ _) (List.map_congr_left fun code hcode => ?_)
      rw [if_neg (ne_of_mem_of_not_mem (List.mem_eraseDups.mp hcode) hmem)]

/-- **The groups are the strings under each of the codes.** -/
theorem groups_eq (value : Value) :
    value.groups = value.codes.map fun code => (code, value.stringsFor code) := by
  obtain ⟨tag, content⟩ := value
  cases content with
  | direct s => rfl
  | subfields parts => exact foldl_addToGroup parts

theorem mem_groups {strings : List String} :
    (code, strings) ∈ value.groups ↔ strings = value.stringsFor code ∧ strings ≠ [] := by
  rw [groups_eq, List.mem_map]
  constructor
  · rintro ⟨c, hc, he⟩
    obtain ⟨rfl, rfl⟩ := Prod.mk.inj he
    exact ⟨rfl, mem_codes.mp hc⟩
  · rintro ⟨rfl, hne⟩
    exact ⟨code, mem_codes.mpr hne, rfl⟩

theorem length_foldl_addToGroup (parts : List Subfield) (groups : List (Char × List String)) :
    ((parts.foldl (fun groups part => addToGroup part.code part.value groups) groups).map
      fun group => group.2.length).sum =
        (groups.map fun group => group.2.length).sum + parts.length := by
  induction parts generalizing groups with
  | nil => rfl
  | cons part parts ih =>
    rw [List.foldl_cons, ih, length_addToGroup, List.length_cons]
    omega

/-- No string is lost. -/
theorem length_groups (value : Value) :
    (value.groups.map fun group => group.2.length).sum = value.content.parts.length :=
  (length_foldl_addToGroup value.content.parts []).trans (Nat.zero_add _)

/-- A code has a group exactly when there are strings under it. -/
theorem lookup_groups (value : Value) (code : Char) :
    value.groups.lookup code =
      if value.stringsFor code = [] then none else some (value.stringsFor code) := by
  rw [groups_eq]
  split
  · rename_i hnil
    rw [List.lookup_eq_none_iff]
    intro group hgroup
    obtain ⟨c, hc, rfl⟩ := List.mem_map.mp hgroup
    simpa using fun h : code = c => mem_codes.mp hc (h ▸ hnil)
  · rename_i hne
    exact List.lookup_graph value.stringsFor (mem_codes.mpr hne)

/-- The text under a code is that of its group. -/
theorem textFor_eq (value : Value) (code : Char) :
    value.textFor code =
      match value.groups.lookup code with
      | some strings => " ".intercalate strings
      | none => "" := by
  unfold textFor
  rw [lookup_groups]
  by_cases h : value.stringsFor code = []
  · rw [if_pos h, h]
    rfl
  · rw [if_neg h]

/-- The strings of a selection, told from the field: under each code that is wanted, those that are
not empty. -/
theorem stringsFor_of_select? (h : select? field spec = some value) (code : Char) :
    value.stringsFor code =
      if spec.wants code = true then (field.valuesFor code).filter (· ≠ "") else [] := by
  obtain ⟨-, rfl⟩ := select?_eq_some.mp h
  show ((selection field spec).filter fun part => part.code == code).map Subfield.value = _
  unfold selection Field.valuesFor Content.valuesFor
  rw [List.filter_filter, List.filter_map, List.filter_filter]
  split
  · rename_i hwants
    refine congrArg (List.map Subfield.value) (List.filter_congr fun part _ => ?_)
    rw [Bool.eq_iff_iff]
    by_cases hcode : part.code = code <;> simp [hcode, hwants]
  · rename_i hwants
    rw [List.map_eq_nil_iff, List.filter_eq_nil_iff]
    rintro part - hpart
    simp only [Bool.and_eq_true, beq_iff_eq] at hpart
    exact hwants (hpart.1 ▸ hpart.2.1)

/-! ## The laws together -/

/-- **Grouping by code loses and reorders nothing within a code.** The groups stand in the order in
which their codes first appear; each of them is the strings under its code, in the order of the
data, and not empty; the text under a code is that of its group, and empty without one; and there
are as many strings in the groups as there are subfields. Of a selection from a field, the groups
are the values under the wanted codes that are not empty, and there are no others. -/
theorem groups_lossless :
    (∀ value : Value,
      value.groups.map Prod.fst = (value.content.parts.map Subfield.code).eraseDups ∧
      (∀ group ∈ value.groups, group.2 = value.stringsFor group.1 ∧ group.2 ≠ []) ∧
      (∀ code, value.textFor code =
        match value.groups.lookup code with
        | some strings => " ".intercalate strings
        | none => "") ∧
      (value.groups.map fun group => group.2.length).sum = value.content.parts.length) ∧
    ∀ field spec value, select? field spec = some value →
      ∀ code strings, (code, strings) ∈ value.groups ↔
        spec.wants code = true ∧ strings = (field.valuesFor code).filter (· ≠ "") ∧
          strings ≠ [] := by
  refine ⟨fun value => ⟨?_, fun group hgroup => mem_groups.mp hgroup, textFor_eq value,
    length_groups value⟩, fun field spec value h code strings => ?_⟩
  · rw [groups_eq, List.map_map]
    exact List.map_id' _
  · rw [mem_groups, stringsFor_of_select? h]
    by_cases hwants : spec.wants code = true
    · rw [if_pos hwants, and_iff_right hwants]
    · rw [if_neg hwants]
      exact iff_of_false (fun hs => hs.2 hs.1) fun hs => hwants hs.1

/-- A title with two parts under one code, around others of which one is not wanted and one is
empty. -/
def titleField : Field :=
  ⟨"", "245", '1', '0', .subfields
    [⟨'n', "1"⟩, ⟨'a', "Tales"⟩, ⟨'6', "880-01"⟩, ⟨'n', ""⟩, ⟨'a', "again"⟩, ⟨'b', ""⟩, ⟨'n', "2"⟩]⟩

def titleSpec : Spec := ⟨"245", ['a', 'b', 'n']⟩

def titleValue : Value :=
  ⟨"245", .subfields [⟨'n', "1"⟩, ⟨'a', "Tales"⟩, ⟨'a', "again"⟩, ⟨'n', "2"⟩]⟩

theorem groups_lossless_title :
    select? titleField titleSpec = some titleValue ∧
      titleValue.groups.map Prod.fst = ['n', 'a'] ∧
      ('a', ["Tales", "again"]) ∈ titleValue.groups ∧
      ('n', ["1", "2"]) ∈ titleValue.groups ∧
      ∀ strings, ('b', strings) ∉ titleValue.groups := by
  have hselect : select? titleField titleSpec = some titleValue := by decide
  obtain ⟨hlaws, hselected⟩ := groups_lossless
  have hgroups := hselected titleField titleSpec titleValue hselect
  exact ⟨hselect, (hlaws titleValue).1, (hgroups 'a' _).mpr (by decide),
    (hgroups 'n' _).mpr (by decide), fun strings hs =>
      ((hgroups 'b' strings).mp hs).2.2 ((hgroups 'b' strings).mp hs).2.1⟩

end Value

end Marc
