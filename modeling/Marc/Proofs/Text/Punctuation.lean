import Marc.Proofs.Text.Steps

/-!
# What trimming takes off

Two ways of trimming meet in index strings: white space is cut off both ends (`trim`), and trailing
punctuation is stripped (`trim_punctuation`). `ink` counts the characters that are not white space.
The first way leaves it as it is; the second lowers it with every mark that it takes off, so one can
tell from the trimmed text whether a mark is gone.

Results:
* `ink_trim`: cutting off white space loses no ink.
* `fades_stripSeparator`, `fades_stripPeriod`, `fades_stripBrackets`: each step of stripping leaves
  the text alone, spaces at its end apart, or loses ink.
* `fades_stripPunctuation`: **so does stripping as a whole.**
* `trim_stripPunctuation_iff`: the trimmed text is the same exactly when nothing but spaces at the
  end was stripped.
-/

namespace Marc.Text

variable {p : Char → Bool} {text : List Char}

/-! ## White space at the ends -/

/-- How many characters of the text are not white space. -/
def ink (text : List Char) : Nat := text.countP fun c => !isBlank c

theorem ink_append (a b : List Char) : ink (a ++ b) = ink a + ink b := List.countP_append

theorem ink_cons {c : Char} (hc : isBlank c = false) (text : List Char) :
    ink (c :: text) = ink text + 1 := List.countP_cons_of_pos (by simp [hc])

theorem ink_concat {c : Char} (hc : isBlank c = false) (text : List Char) :
    ink (text ++ [c]) = ink text + 1 := by
  rw [ink_append, ink_cons hc]
  rfl

theorem ink_reverse (text : List Char) : ink text.reverse = ink text := List.countP_reverse

theorem ink_eq_zero_iff : ink text = 0 ↔ ∀ c ∈ text, isBlank c = true := by
  unfold ink
  simp [List.countP_eq_zero]

theorem ink_dropWhile (h : ∀ c, p c = true → isBlank c = true) (text : List Char) :
    ink (text.dropWhile p) = ink text := by
  have hfront : ink (text.takeWhile p) = 0 :=
    ink_eq_zero_iff.mpr fun c hc => h c (List.mem_takeWhile_imp hc)
  calc
    ink (text.dropWhile p) = ink (text.takeWhile p) + ink (text.dropWhile p) := by omega
    _ = ink text := by rw [← ink_append, List.takeWhile_append_dropWhile]

/-- Cutting off white space loses no ink. -/
theorem ink_trim (text : List Char) : ink (trim text) = ink text := by
  obtain ⟨before, after, heq, hb, ha⟩ := exists_trim_append text
  conv => rhs; rw [heq]
  rw [ink_append, ink_append, ink_eq_zero_iff.mpr hb, ink_eq_zero_iff.mpr ha, Nat.zero_add,
    Nat.add_zero]

theorem isBlank_of_isSpace (c : Char) (h : (c == ' ') = true) : isBlank c = true := by
  rw [eq_of_beq h]
  decide

theorem trim_dropEndSpaces (text : List Char) : trim (dropEndSpaces text) = trim text := by
  obtain ⟨n, hn⟩ := exists_dropEndSpaces_append text
  have hspaces : ∀ c ∈ List.replicate n ' ', isBlank c = true := fun c hc =>
    isBlank_of_isSpace c (isSpace_of_mem_replicate hc)
  conv => rhs; rw [hn]
  rw [trim_append hspaces]

/-! ## Losing ink -/

/-- The second text is the first one, or has less ink. -/
def Fades (a b : List Char) : Prop := b = a ∨ ink b < ink a

theorem Fades.trans {a b c : List Char} (hab : Fades a b) (hbc : Fades b c) : Fades a c := by
  rcases hbc with rfl | hbc
  · exact hab
  · rcases hab with rfl | hab
    · exact .inr hbc
    · exact .inr (Nat.lt_trans hbc hab)

/-! ## The three steps -/

theorem isBlank_of_isSeparator {c : Char} (h : isSeparator c = true) : isBlank c = false := by
  simp only [isSeparator, Bool.or_eq_true, beq_iff_eq] at h
  rcases h with ((rfl | rfl) | rfl) | rfl <;> decide

theorem fades_stripSeparator (text : List Char) :
    Fades (dropEndSpaces text) (stripSeparator text) := by
  unfold stripSeparator stripSeparatorBackwards dropEndSpaces dropEndWhile
  cases text.reverse.dropWhile (· == ' ') with
  | nil => exact .inl rfl
  | cons c rest =>
    by_cases hc : isSeparator c = true
    · right
      simp only [if_pos hc]
      rw [ink_reverse, ink_reverse, ink_dropWhile isBlank_of_isSpace]
      simp [ink, isBlank_of_isSeparator hc]
    · left
      simp only [if_neg hc]

theorem fades_stripPeriod (hs : text.getLast? ≠ some ' ') : Fades text (stripPeriod text) := by
  rcases stripPeriod_cases hs with heq | ⟨heq, -⟩
  · exact .inl heq
  · right
    have hink := ink_concat (c := '.') (by decide) (stripPeriod text)
    rw [← heq] at hink
    omega

theorem fades_of_encloses {core : List Char} (h : Encloses text core) : Fades text core := by
  have hopen := ink_cons (c := '[') (by decide) core
  right
  rcases h.ends with rfl | rfl | rfl
  · omega
  · rw [ink_concat (by decide)]
    omega
  · rw [ink_concat (by decide)]
    omega

theorem fades_stripBrackets (text : List Char) : Fades text (stripBrackets text) := by
  rcases stripBrackets_or_encloses text with heq | henc
  · exact .inl heq
  · exact fades_of_encloses henc

/-- **Stripping takes off nothing but spaces at the end, or loses ink.** -/
theorem fades_stripPunctuation (text : List Char) :
    Fades (dropEndSpaces text) (stripPunctuation text) :=
  ((fades_stripSeparator text).trans (fades_stripPeriod (getLast?_stripSeparator text))).trans
    (fades_stripBrackets _)

/-- **The trimmed text is the same exactly when nothing but spaces at the end was stripped.** -/
theorem trim_stripPunctuation_iff :
    trim (stripPunctuation text) = trim text ↔ stripPunctuation text = dropEndSpaces text := by
  refine ⟨fun h => ?_, fun h => by rw [h, trim_dropEndSpaces]⟩
  rcases fades_stripPunctuation text with heq | hless
  · exact heq
  · -- all the ink of the text is left, so none was lost
    have hink : ink (stripPunctuation text) = ink (dropEndSpaces text) := by
      calc
        ink (stripPunctuation text) = ink (trim text) := by rw [← ink_trim, h]
        _ = ink (dropEndSpaces text) := by rw [← trim_dropEndSpaces, ink_trim]
    omega

/-! ## Strings -/

theorem unpunctuated_eq_empty_iff {s : String} :
    unpunctuated s = "" ↔ stripPunctuation s.toList = [] := by
  unfold unpunctuated
  rw [← String.toList_inj, String.toList_ofList]
  rfl

theorem trimmed_unpunctuated_iff {s : String} :
    trimmed (unpunctuated s) = trimmed s ↔ stripPunctuation s.toList = dropEndSpaces s.toList := by
  unfold trimmed unpunctuated
  rw [String.toList_ofList, ← String.toList_inj, String.toList_ofList, String.toList_ofList]
  exact trim_stripPunctuation_iff

/-- Taking off punctuation cuts nothing off the string but spaces at its end, and leaves something
of it, unless it is empty. -/
structure KeepsText (s : String) : Prop where
  spaces : stripPunctuation s.toList = dropEndSpaces s.toList
  remains : stripPunctuation s.toList = [] → s = ""

theorem KeepsText.eq_empty_iff {s : String} (h : KeepsText s) : unpunctuated s = "" ↔ s = "" := by
  refine ⟨fun hu => h.remains (unpunctuated_eq_empty_iff.mp hu), ?_⟩
  rintro rfl
  rfl

end Marc.Text
