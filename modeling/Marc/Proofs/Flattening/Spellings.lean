import Marc.Proofs.Distinct
import Marc.Proofs.Text.Surroundings

/-!
# Values that differ by the white space around them

White space around a string does not show in the index string, so two values of one part that differ
by it should make one entry. They do where punctuation stays. Where it is taken off,
`trim_punctuation` runs before white space is cut off, and white space can keep the punctuation
behind it from being found; then one spelling is listed with its punctuation and the other without.

Results:
* `length_addAll_pair_le_one_iff`: which two strings make one entry.
* `forall_stripAlike_iff`: **all spellings of a string are stripped alike** exactly if the trimmed
  string has nothing to take off and is no lone bracket.
* `spellings_one_entry_iff`: which two spellings make one entry, in each of the four flattenings.
  `bracketedSubject_repeats`: two spellings can make two.
-/

namespace Marc

open Text (trimmed IsTrailer)

/-! ## Strings that are stripped alike -/

namespace Text

/-- Stripping leaves nothing of one of the strings, or the same of both up to white space around. -/
def StripAlike (v w : String) : Prop :=
  IsTrailer v.toList ∨ IsTrailer w.toList ∨ trimmed (unpunctuated v) = trimmed (unpunctuated w)

/-- The trimmed string has no punctuation to take off, and is no lone bracket. -/
def Unmarked (s : String) : Prop :=
  unpunctuated (trimmed s) = trimmed s ∧ trimmed s ≠ "[" ∧ trimmed s ≠ "]"

theorem unpunctuated_eq_empty_iff_isTrailer {s : String} :
    unpunctuated s = "" ↔ IsTrailer s.toList := by
  rw [unpunctuated_eq_empty_iff, stripPunctuation_eq_nil_iff]

/-- All spellings of a string keep their text, or go as a whole, exactly if the string is
unmarked. -/
theorem forall_unpunctuated_iff (s : String) :
    (∀ v, trimmed v = trimmed s →
      IsTrailer v.toList ∨ trimmed (unpunctuated v) = trimmed v) ↔ Unmarked s := by
  have hcore := forall_spelling_iff (trim_trim s.toList)
  simp only [stripPunctuation_eq_nil_iff] at hcore
  unfold Unmarked
  rw [unpunctuated_eq_iff, ne_eq, ne_eq, ← String.toList_inj, ← String.toList_inj, toList_trimmed]
  refine Iff.trans ⟨fun h text ht => ?_, fun h v hv => ?_⟩ hcore
  · have hv : trimmed (String.ofList text) = trimmed s := by
      rw [← String.toList_inj, toList_trimmed, toList_trimmed, String.toList_ofList, ht]
    have hor := h _ hv
    rwa [trimmed_unpunctuated_iff, String.toList_ofList] at hor
  · rw [← String.toList_inj, toList_trimmed, toList_trimmed] at hv
    rw [trimmed_unpunctuated_iff]
    exact h _ hv

/-- The string between two tabs is a spelling of it that keeps its text. -/
theorem exists_spelling_kept (s : String) : ∃ kept, trimmed kept = trimmed s ∧
    ¬ IsTrailer kept.toList ∧ unpunctuated kept = kept := by
  have hlist : ("\t" ++ s ++ "\t").toList = '\t' :: s.toList ++ ['\t'] := by
    rw [String.toList_append, String.toList_append]
    rfl
  have hkept : unpunctuated ("\t" ++ s ++ "\t") = "\t" ++ s ++ "\t" := by
    rw [unpunctuated_eq_iff, hlist]
    exact stripPunctuation_between_tabs s.toList
  refine ⟨"\t" ++ s ++ "\t", ?_, fun htrailer => ?_, hkept⟩
  · rw [← String.toList_inj, toList_trimmed, toList_trimmed, hlist]
    exact trim_between_tabs s.toList
  · rw [hlist] at htrailer
    have hmark : isMark '\t' = true := htrailer.isMark List.mem_cons_self
    exact absurd hmark (by decide)

/-- **All spellings of a string are stripped alike** exactly if the string is unmarked. -/
theorem forall_stripAlike_iff (s : String) :
    (∀ v w, trimmed v = trimmed s → trimmed w = trimmed s → StripAlike v w) ↔ Unmarked s := by
  rw [← forall_unpunctuated_iff]
  constructor
  · intro h v hv
    -- every spelling is compared with one that keeps its text
    obtain ⟨kept, htrim, hnot, hkept⟩ := exists_spelling_kept s
    rcases h v kept hv htrim with hgone | hgone | heq
    · exact .inl hgone
    · exact absurd hgone hnot
    · rw [hkept, htrim, ← hv] at heq
      exact .inr heq
  · intro h v w hv hw
    rcases h v hv with hgone | hv'
    · exact .inl hgone
    rcases h w hw with hgone | hw'
    · exact .inr (.inl hgone)
    · exact .inr (.inr (by rw [hv', hw', hv, hw]))

end Text

open Text (StripAlike Unmarked)

/-! ## Values of one part -/

/-- The value holds one part, and that is the given string; its tag and code do not matter. -/
def Value.Holds (value : Value) (text : String) : Prop :=
  ∃ (tag : String) (code : Char), value = ⟨tag, .subfields [⟨code, text⟩]⟩

namespace Flattening

variable {v w : String} {a b : Value}

theorem stringsOf_of_holds (h : a.Holds v) (way : Flattening) : way.stringsOf a = [v] := by
  obtain ⟨tag, code, rfl⟩ := h
  have htext : (⟨tag, .subfields [⟨code, v⟩]⟩ : Value).text = v :=
    String.intercalate_singleton (s := " ")
  unfold stringsOf
  rw [htext]
  cases way.joined <;> rfl

/-- Which two strings make one entry. -/
theorem length_addAll_pair_le_one_iff (x y : String) :
    (Distinct.addAll [] [x, y]).length ≤ 1 ↔ x = "" ∨ y = "" ∨ trimmed x = trimmed y := by
  rw [Distinct.addAll_cons, Distinct.addAll_cons, Distinct.addAll_nil]
  unfold Distinct.add
  by_cases hx : x = ""
  · by_cases hy : y = "" <;> simp [hx, hy]
  by_cases hy : y = ""
  · simp [hx, hy]
  by_cases ht : trimmed y = trimmed x
  · simp [hx, hy, ht]
  · simp [hx, hy, ht, Ne.symm ht]

theorem length_apply_pair_le_one_iff (ha : a.Holds v) (hb : b.Holds w) (way : Flattening) :
    (way.apply [a, b]).length ≤ 1 ↔
      way.clean v = "" ∨ way.clean w = "" ∨ trimmed (way.clean v) = trimmed (way.clean w) := by
  have hpair : way.candidates [a, b] = [way.clean v, way.clean w] := by
    unfold candidates
    rw [List.flatMap_cons, List.flatMap_singleton, stringsOf_of_holds ha, stringsOf_of_holds hb]
    rfl
  unfold apply
  rw [hpair, length_addAll_pair_le_one_iff]

/-- Where punctuation stays, two spellings of a string make one entry. -/
theorem length_apply_pair_of_keep {way : Flattening} (hw : way.unpunctuated = false)
    (ha : a.Holds v) (hb : b.Holds w) (h : trimmed v = trimmed w) :
    (way.apply [a, b]).length ≤ 1 := by
  have hclean : way.clean = id := funext fun s => if_neg (by simp [hw])
  rw [length_apply_pair_le_one_iff ha hb, hclean]
  exact .inr (.inr h)

/-- Where it is taken off, two strings make one entry exactly if they are stripped alike. -/
theorem length_apply_pair_of_strip {way : Flattening} (hw : way.unpunctuated = true)
    (ha : a.Holds v) (hb : b.Holds w) : (way.apply [a, b]).length ≤ 1 ↔ StripAlike v w := by
  have hclean : way.clean = Text.unpunctuated := funext fun s => if_pos hw
  rw [length_apply_pair_le_one_iff ha hb, hclean, Text.unpunctuated_eq_empty_iff_isTrailer,
    Text.unpunctuated_eq_empty_iff_isTrailer]
  rfl

/-- **Which two spellings of a string make one entry.** Where punctuation stays, any two. Where it
is taken off, those that are stripped alike; and all spellings of a string are exactly if the
trimmed string has no punctuation to take off and is no lone bracket. Otherwise white space hides
from stripping, in one spelling, what it finds in another. -/
theorem spellings_one_entry_iff (ha : a.Holds v) (hb : b.Holds w) (h : trimmed v = trimmed w) :
    (verbatim.apply [a, b]).length ≤ 1 ∧ (raw.apply [a, b]).length ≤ 1 ∧
      ((display.apply [a, b]).length ≤ 1 ↔ StripAlike v w) ∧
      ((parts.apply [a, b]).length ≤ 1 ↔ StripAlike v w) ∧
      ((∀ x y, trimmed x = trimmed v → trimmed y = trimmed v → StripAlike x y) ↔ Unmarked v) :=
  ⟨length_apply_pair_of_keep rfl ha hb h, length_apply_pair_of_keep rfl ha hb h,
    length_apply_pair_of_strip rfl ha hb, length_apply_pair_of_strip rfl ha hb,
    Text.forall_stripAlike_iff v⟩

/-- A subject with an ideographic space in front, and with a line break behind. -/
theorem spellings_one_entry_iff_tokyo :
    Value.Holds ⟨"650", .subfields [⟨'a', "\u3000Tōkyō"⟩]⟩ "\u3000Tōkyō" ∧
      Value.Holds ⟨"880", .subfields [⟨'x', "Tōkyō\n"⟩]⟩ "Tōkyō\n" ∧
      trimmed "\u3000Tōkyō" = trimmed "Tōkyō\n" ∧
      StripAlike "\u3000Tōkyō" "Tōkyō\n" ∧
      (display.apply [⟨"650", .subfields [⟨'a', "\u3000Tōkyō"⟩]⟩,
        ⟨"880", .subfields [⟨'x', "Tōkyō\n"⟩]⟩]).length ≤ 1 := by
  have ha : Value.Holds ⟨"650", .subfields [⟨'a', "\u3000Tōkyō"⟩]⟩ "\u3000Tōkyō" := ⟨_, _, rfl⟩
  have hb : Value.Holds ⟨"880", .subfields [⟨'x', "Tōkyō\n"⟩]⟩ "Tōkyō\n" := ⟨_, _, rfl⟩
  have htrim : trimmed "\u3000Tōkyō" = trimmed "Tōkyō\n" := by decide
  have hunmarked : Unmarked "\u3000Tōkyō" := by
    unfold Unmarked
    decide
  obtain ⟨-, -, hdisplay, -, hall⟩ := spellings_one_entry_iff ha hb htrim
  have halike := hall.mpr hunmarked _ _ rfl htrim.symm
  exact ⟨ha, hb, htrim, halike, hdisplay.mpr halike⟩

/-- Two spellings can make two entries: behind a space the bracket is not at the start. -/
theorem bracketedSubject_repeats :
    ¬ ∀ v w : String, trimmed v = trimmed w → ∀ way : Flattening,
      (way.apply [⟨"650", .subfields [⟨'a', v⟩]⟩, ⟨"650", .subfields [⟨'a', w⟩]⟩]).length ≤ 1 := by
  intro h
  exact absurd (h "[Tokyo]" " [Tokyo]" (by decide) display) (by decide)

end Flattening

end Marc
