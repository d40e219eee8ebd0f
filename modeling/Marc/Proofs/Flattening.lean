import Marc.Extraction
import Marc.Proofs.Text.Punctuation

/-!
# Direct values in index strings

The characters of a direct value count by position, so punctuation belongs to it. But `flatten`
looks at strings alone, and takes punctuation off all of them.

Results:
* `Distinct.add_unpunctuated_iff`: **which string is added as it stands**, punctuation taken off or
  not.
* `candidates_of_isDirect`: of a direct value there is one string, whether parts are joined or not.
* `direct_flattenings_agree_iff`: the flattenings with and without punctuation agree on direct
  values, and on any part of them, exactly when **each of the values keeps its text**.
  `direct_period_lost`: a direct value can lose its period.
-/

namespace Marc

open Text (trimmed unpunctuated KeepsText)

/-! ## One string -/

namespace Distinct

variable {s : String}

theorem add_unpunctuated (h : KeepsText s) (list : List String) :
    add list (unpunctuated s) = add list s := by
  unfold add
  simp only [h.eq_empty_iff, Text.trimmed_unpunctuated_iff.mpr h.spaces]

theorem addAll_map_unpunctuated : ∀ {values : List String}, (∀ s ∈ values, KeepsText s) →
    ∀ list : List String, addAll list (values.map unpunctuated) = addAll list values
  | [], _, _ => rfl
  | s :: values, h, list => by
    rw [List.map_cons, addAll_cons, addAll_cons, add_unpunctuated (h s List.mem_cons_self)]
    exact addAll_map_unpunctuated (fun s hs => h s (List.mem_cons_of_mem _ hs)) _

/-- **Which string is added as it stands**, punctuation taken off or not. -/
theorem add_unpunctuated_iff : add [] (unpunctuated s) = add [] s ↔ KeepsText s := by
  refine ⟨fun h => ?_, fun h => add_unpunctuated h []⟩
  by_cases hs : s = ""
  · subst hs
    exact ⟨rfl, fun _ => rfl⟩
  have hadd {t : String} (ht : t ≠ "") : add [] t = [trimmed t] := by simp [add, ht]
  rw [hadd hs] at h
  have hu : unpunctuated s ≠ "" := by
    intro hu
    have hnone : add [] "" = [] := rfl
    rw [hu, hnone] at h
    exact absurd h.symm (List.cons_ne_nil _ _)
  rw [hadd hu] at h
  have htrim : trimmed (unpunctuated s) = trimmed s := List.head_eq_of_cons_eq h
  exact ⟨Text.trimmed_unpunctuated_iff.mp htrim,
    fun hnil => absurd (Text.unpunctuated_eq_empty_iff.mpr hnil) hu⟩

end Distinct

/-! ## Direct values -/

/-- The value is a direct one, not selected from subfields. -/
def Value.IsDirect (value : Value) : Prop := value.content.direct?.isSome = true

instance : DecidablePred Value.IsDirect := fun value =>
  inferInstanceAs (Decidable (value.content.direct?.isSome = true))

namespace Flattening

variable {values : List Value}

theorem stringsOf_of_isDirect {value : Value} (h : value.IsDirect) (way : Flattening) :
    way.stringsOf value = [value.text] := by
  obtain ⟨tag, content⟩ := value
  cases content with
  | direct text =>
    unfold stringsOf
    cases way.joined <;> rfl
  | subfields parts => exact nomatch h

/-- Of a direct value there is one string, whether parts are joined or not. -/
theorem candidates_of_isDirect (way : Flattening) : ∀ {values : List Value},
    (∀ value ∈ values, value.IsDirect) →
      way.candidates values = (values.map Value.text).map way.clean
  | [], _ => rfl
  | value :: values, h => by
    have hone : way.candidates [value] = [way.clean value.text] := by
      unfold candidates
      rw [List.flatMap_singleton, stringsOf_of_isDirect (h value List.mem_cons_self)]
      rfl
    rw [← List.singleton_append, candidates_append, hone,
      candidates_of_isDirect way fun other ho => h other (List.mem_cons_of_mem _ ho)]
    rfl

theorem apply_of_unpunctuated (way : Flattening) (hw : way.unpunctuated = true)
    (h : ∀ value ∈ values, value.IsDirect) :
    way.apply values = Distinct.addAll [] ((values.map Value.text).map Text.unpunctuated) := by
  have hclean : way.clean = Text.unpunctuated := funext fun s => if_pos hw
  unfold apply
  rw [candidates_of_isDirect way h, hclean]

theorem apply_of_not_unpunctuated (way : Flattening) (hw : way.unpunctuated = false)
    (h : ∀ value ∈ values, value.IsDirect) :
    way.apply values = Distinct.addAll [] (values.map Value.text) := by
  have hclean : way.clean = id := funext fun s => if_neg (by simp [hw])
  unfold apply
  rw [candidates_of_isDirect way h, hclean, List.map_id]

/-- **The flattenings with and without punctuation agree** on direct values, and on any part of
them, exactly when each of the values keeps its text. Any part has to be looked at, because in one
list a value may come out as another one of them. -/
theorem direct_flattenings_agree_iff (h : ∀ value ∈ values, value.IsDirect) :
    (∀ chosen : List Value, chosen.Sublist values →
      display.apply chosen = verbatim.apply chosen ∧ parts.apply chosen = raw.apply chosen) ↔
    ∀ value ∈ values, KeepsText value.text := by
  constructor
  · intro hagree value hm
    have hone : ∀ other ∈ [value], other.IsDirect := by simpa using h value hm
    obtain ⟨heq, -⟩ := hagree [value] (List.singleton_sublist.mpr hm)
    rw [apply_of_unpunctuated display rfl hone, apply_of_not_unpunctuated verbatim rfl hone,
      List.map_singleton, List.map_singleton, Distinct.addAll_cons, Distinct.addAll_cons,
      Distinct.addAll_nil, Distinct.addAll_nil] at heq
    exact Distinct.add_unpunctuated_iff.mp heq
  · intro hkeep chosen hsub
    have hdirect : ∀ value ∈ chosen, value.IsDirect := fun value hm => h value (hsub.subset hm)
    have htexts : ∀ s ∈ chosen.map Value.text, KeepsText s := by
      intro s hs
      obtain ⟨value, hm, rfl⟩ := List.mem_map.mp hs
      exact hkeep value (hsub.subset hm)
    have hall := Distinct.addAll_map_unpunctuated htexts []
    rw [apply_of_unpunctuated display rfl hdirect, apply_of_unpunctuated parts rfl hdirect,
      apply_of_not_unpunctuated verbatim rfl hdirect, apply_of_not_unpunctuated raw rfl hdirect,
      hall]
    exact ⟨rfl, rfl⟩

/-- The numbers of a record and of a provider, with a space at the end and marks inside. -/
def plainNumbers : List Value := [.direct "001" "ocm-0012.3 ", .direct "003" "[A] B"]

theorem direct_flattenings_agree_plainNumbers :
    (∀ value ∈ plainNumbers, value.IsDirect) ∧ (∀ value ∈ plainNumbers, KeepsText value.text) ∧
      display.apply plainNumbers = verbatim.apply plainNumbers ∧
      parts.apply plainNumbers = raw.apply plainNumbers := by
  have hdirect : ∀ value ∈ plainNumbers, value.IsDirect := by decide
  have hkeep : ∀ value ∈ plainNumbers, KeepsText value.text := by
    intro value hm
    simp only [plainNumbers, List.mem_cons, List.not_mem_nil, or_false] at hm
    rcases hm with rfl | rfl
    · exact ⟨by decide, by decide⟩
    · exact ⟨by decide, by decide⟩
  exact ⟨hdirect, hkeep,
    (direct_flattenings_agree_iff hdirect).mpr hkeep plainNumbers (List.Sublist.refl _)⟩

/-- A direct value can lose its period. -/
theorem direct_period_lost :
    ¬ ∀ values : List Value, (∀ value ∈ values, value.IsDirect) →
      display.apply values = verbatim.apply values ∧ parts.apply values = raw.apply values := by
  intro h
  obtain ⟨heq, -⟩ := h (extract [.control "001" "tmp0012."] [⟨"001", []⟩]) (by decide)
  exact absurd heq (by decide)

end Flattening

end Marc
