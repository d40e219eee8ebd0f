import Marc.Proofs.Text.Basic
import Marc.Text.Punctuation

/-!
# The three steps of stripping

Each step of `stripPunctuation` is for one thing: the first (`TRAILING_PUNCT`) for a trailer, that
is a separator with spaces around it, the second (`TRAILING_PERIOD`) for the period after a word,
the third (`SQUARE_BRACKETS`) for the brackets around a text. A step takes its thing off as a whole,
takes nothing else off, and leaves a text alone that does not have it.

Results:
* `stripSeparator_append`, `stripPeriod_concat`, `Encloses.stripBrackets_eq`: what a step takes off.
* `exists_trailer`, `stripPeriod_cases`, `stripBrackets_or_encloses`: **it takes off nothing else.**
* `stripSeparator_eq_self_iff`, `stripPeriod_eq_self_iff`, `stripBrackets_eq_self_iff`: which texts
  it leaves alone.
* `not_encloses_stripBrackets`: after the third step there are no brackets around the text. For the
  other steps there is no such lemma: `a ;;` and `[abc.]` have more of the same behind.
-/

namespace Marc.Text

variable {text core q : List Char} {c : Char}

/-! ## Ends of a text -/

/-- The text ends neither in a space nor in a separator. -/
def EndsPlain (text : List Char) : Prop :=
  ∀ c ∈ text.getLast?, c ≠ ' ' ∧ isSeparator c = false

/-- The text ends in three word characters. -/
def EndsInWord (text : List Char) : Prop :=
  3 ≤ text.length ∧ (text.drop (text.length - 3)).all isWordChar = true

instance : DecidablePred EndsInWord := fun _ => inferInstanceAs (Decidable (_ ∧ _))

/-- The text ends in a period after three word characters. -/
def EndsInPeriod (text : List Char) : Prop :=
  ∃ front, text = front ++ ['.'] ∧ EndsInWord front

/-- Spaces, one separator or none, and spaces again. -/
def IsTrailer (text : List Char) : Prop :=
  ∃ (m n : Nat) (mark : Option Char), (∀ c ∈ mark, isSeparator c = true) ∧
    text = List.replicate m ' ' ++ mark.toList ++ List.replicate n ' '

/-- The text is the core with an opening bracket, a closing bracket or both around it; the core is
not empty and holds no bracket. -/
structure Encloses (text core : List Char) : Prop where
  ne_nil : core ≠ []
  plain : ∀ c ∈ core, isBracket c = false
  ends : text = '[' :: core ∨ text = core ++ [']'] ∨ text = '[' :: core ++ [']']

theorem endsPlain_concat : EndsPlain (text ++ [c]) ↔ c ≠ ' ' ∧ isSeparator c = false := by
  unfold EndsPlain
  simp

theorem endsInWord_iff : EndsInWord text ↔ ∃ front a b c, text = front ++ [a, b, c] ∧
    isWordChar a = true ∧ isWordChar b = true ∧ isWordChar c = true := by
  unfold EndsInWord
  constructor
  · rintro ⟨hlen, hword⟩
    obtain ⟨a, b, c, habc⟩ := List.length_eq_three.mp
      (show (text.drop (text.length - 3)).length = 3 by rw [List.length_drop]; omega)
    rw [habc] at hword
    refine ⟨text.take (text.length - 3), a, b, c, ?_, ?_⟩
    · rw [← habc, List.take_append_drop]
    · simpa using hword
  · rintro ⟨front, a, b, c, rfl, ha, hb, hc⟩
    simp [ha, hb, hc]

/-! ## The separator -/

theorem exists_dropEndSpaces_append (text : List Char) :
    ∃ n, text = dropEndSpaces text ++ List.replicate n ' ' := by
  refine ⟨(text.rtakeWhile (· == ' ')).length, ?_⟩
  have hspaces : text.rtakeWhile (· == ' ') =
      List.replicate (text.rtakeWhile (· == ' ')).length ' ' :=
    List.eq_replicate_iff.mpr ⟨rfl, fun c hc =>
      eq_of_beq (List.mem_rtakeWhile_imp (p := (· == ' ')) hc)⟩
  unfold dropEndSpaces
  rw [← hspaces, dropEndWhile_eq_rdropWhile, List.rdropWhile_append_rtakeWhile]

theorem length_dropEndSpaces_le (text : List Char) :
    (dropEndSpaces text).length ≤ text.length := by
  obtain ⟨n, hn⟩ := exists_dropEndSpaces_append text
  have hlen := congrArg List.length hn
  rw [List.length_append] at hlen
  omega

theorem isSpace_of_mem_replicate {n : Nat} (h : c ∈ List.replicate n ' ') : (c == ' ') = true :=
  beq_iff_eq.mpr (List.eq_of_mem_replicate h)

theorem dropEndSpaces_append_spaces (text : List Char) (n : Nat) :
    dropEndSpaces (text ++ List.replicate n ' ') = dropEndSpaces text := by
  unfold dropEndSpaces dropEndWhile
  rw [dropWhile_reverse_append fun _ => isSpace_of_mem_replicate]

theorem dropEndSpaces_eq_self (h : text.getLast? ≠ some ' ') : dropEndSpaces text = text :=
  dropEndWhile_eq_self fun c hc => by
    have hne : c ≠ ' ' := by
      rintro rfl
      exact h hc
    simpa using hne

theorem dropWhile_reverse_eq_self (h : text.getLast? ≠ some ' ') :
    text.reverse.dropWhile (· == ' ') = text.reverse := by
  rw [← List.reverse_inj, List.reverse_reverse]
  exact dropEndSpaces_eq_self h

theorem EndsPlain.getLast?_ne (h : EndsPlain text) : text.getLast? ≠ some ' ' := fun hc =>
  (h ' ' hc).1 rfl

theorem stripSeparator_append_spaces (text : List Char) (n : Nat) :
    stripSeparator (text ++ List.replicate n ' ') = stripSeparator text := by
  unfold stripSeparator stripSeparatorBackwards
  rw [dropWhile_reverse_append fun _ => isSpace_of_mem_replicate]

theorem ne_space_of_isSeparator (hc : isSeparator c = true) : c ≠ ' ' := by
  rintro rfl
  exact absurd hc (by decide)

theorem stripSeparator_concat (hc : isSeparator c = true) (text : List Char) :
    stripSeparator (text ++ [c]) = dropEndSpaces text := by
  have hdrop : (c :: text.reverse).dropWhile (· == ' ') = c :: text.reverse :=
    List.dropWhile_cons_of_neg (by simpa using ne_space_of_isSeparator hc)
  unfold stripSeparator stripSeparatorBackwards
  rw [List.reverse_concat, hdrop]
  simp only [hc, if_true]
  rfl

/-- The first step takes a trailer off as a whole. -/
theorem stripSeparator_append (h : EndsPlain text) (hq : IsTrailer q) :
    stripSeparator (text ++ q) = text := by
  obtain ⟨m, n, mark, hmark, rfl⟩ := hq
  rw [← List.append_assoc, ← List.append_assoc, stripSeparator_append_spaces]
  cases mark with
  | none =>
    rw [Option.toList_none, List.append_nil, stripSeparator_append_spaces, stripSeparator_eq_self h]
  | some c =>
    rw [Option.toList_some, stripSeparator_concat (hmark c rfl), dropEndSpaces_append_spaces,
      dropEndSpaces_eq_self h.getLast?_ne]

theorem getLast?_dropEndSpaces (text : List Char) : (dropEndSpaces text).getLast? ≠ some ' ' := by
  intro h
  exact absurd (getLast_dropEndWhile h) (by simp)

/-- The first step takes off nothing but a trailer, and leaves no space at the end. -/
theorem exists_trailer (text : List Char) :
    ∃ q, IsTrailer q ∧ text = stripSeparator text ++ q ∧
      (stripSeparator text).getLast? ≠ some ' ' := by
  obtain ⟨n, hn⟩ := exists_dropEndSpaces_append text
  have hlast := getLast?_dropEndSpaces text
  generalize dropEndSpaces text = front at hn hlast
  subst hn
  rw [stripSeparator_append_spaces]
  by_cases hplain : EndsPlain front
  · rw [stripSeparator_eq_self hplain]
    exact ⟨List.replicate n ' ', ⟨0, n, none, by simp, by simp⟩, rfl, hlast⟩
  · -- what ends neither plain nor in a space ends in a separator
    obtain ⟨c, hc, hsep⟩ : ∃ c, front.getLast? = some c ∧ isSeparator c = true := by
      unfold EndsPlain at hplain
      push Not at hplain
      obtain ⟨c, hc, hcs⟩ := hplain
      have hne : c ≠ ' ' := by
        rintro rfl
        exact hlast hc
      exact ⟨c, hc, by simpa using hcs hne⟩
    obtain ⟨inner, rfl⟩ := List.getLast?_eq_some_iff.mp hc
    obtain ⟨m, hm⟩ := exists_dropEndSpaces_append inner
    rw [stripSeparator_concat hsep]
    refine ⟨List.replicate m ' ' ++ [c] ++ List.replicate n ' ',
      ⟨m, n, some c, by simpa using hsep, rfl⟩, ?_, getLast?_dropEndSpaces inner⟩
    rw [← List.append_assoc, ← List.append_assoc, ← hm]

theorem getLast?_stripSeparator (text : List Char) :
    (stripSeparator text).getLast? ≠ some ' ' := by
  obtain ⟨_, _, _, hlast⟩ := exists_trailer text
  exact hlast

theorem stripSeparator_sublist (text : List Char) : (stripSeparator text).Sublist text := by
  obtain ⟨q, -, heq, -⟩ := exists_trailer text
  calc
    (stripSeparator text).Sublist (stripSeparator text ++ q) := List.sublist_append_left _ _
    _ = text := heq.symm

theorem stripSeparator_eq_self_iff : stripSeparator text = text ↔ EndsPlain text := by
  refine ⟨fun h c hc => ⟨?_, ?_⟩, fun h => stripSeparator_eq_self h⟩
  · rintro rfl
    rw [← h] at hc
    exact getLast?_stripSeparator text hc
  · obtain ⟨front, rfl⟩ := List.getLast?_eq_some_iff.mp hc
    by_contra hsep
    rw [stripSeparator_concat (by simpa using hsep)] at h
    have hlen := length_dropEndSpaces_le front
    rw [h, List.length_append, List.length_singleton] at hlen
    omega

/-! ## The period -/

/-- The second step takes the period off that follows a word. -/
theorem stripPeriod_concat (h : EndsInWord text) : stripPeriod (text ++ ['.']) = text := by
  obtain ⟨front, a, b, c, rfl, ha, hb, hc⟩ := endsInWord_iff.mp h
  simp [stripPeriod, stripPeriodBackwards, ha, hb, hc]

/-- The second step leaves a text alone that does not end in a word and a period. -/
theorem stripPeriod_eq_self (hs : text.getLast? ≠ some ' ') (hp : ¬ EndsInPeriod text) :
    stripPeriod text = text := by
  unfold stripPeriod stripPeriodBackwards
  rw [dropWhile_reverse_eq_self hs]
  split
  · rename_i a b c rest hrev
    split
    · rename_i hword
      simp only [Bool.and_eq_true] at hword
      refine absurd ⟨rest.reverse ++ [c, b, a], ?_, ?_⟩ hp
      · rw [← List.reverse_reverse text, hrev]
        simp
      · exact endsInWord_iff.mpr ⟨rest.reverse, c, b, a, rfl, hword.2, hword.1.2, hword.1.1⟩
    · exact List.reverse_reverse text
  · exact List.reverse_reverse text

/-- The second step takes off nothing but a period. -/
theorem stripPeriod_cases (hs : text.getLast? ≠ some ' ') :
    stripPeriod text = text ∨
      text = stripPeriod text ++ ['.'] ∧ EndsInWord (stripPeriod text) := by
  by_cases hp : EndsInPeriod text
  · obtain ⟨front, rfl, hword⟩ := hp
    rw [stripPeriod_concat hword]
    exact .inr ⟨rfl, hword⟩
  · exact .inl (stripPeriod_eq_self hs hp)

theorem stripPeriod_sublist (hs : text.getLast? ≠ some ' ') :
    (stripPeriod text).Sublist text := by
  rcases stripPeriod_cases hs with heq | ⟨heq, -⟩
  · rw [heq]
  · calc
      (stripPeriod text).Sublist (stripPeriod text ++ ['.']) := List.sublist_append_left _ _
      _ = text := heq.symm

theorem stripPeriod_eq_self_iff (hs : text.getLast? ≠ some ' ') :
    stripPeriod text = text ↔ ¬ EndsInPeriod text := by
  refine ⟨?_, stripPeriod_eq_self hs⟩
  rintro h ⟨front, rfl, hword⟩
  rw [stripPeriod_concat hword] at h
  simpa using congrArg List.length h

/-! ## The brackets -/

theorem dropOpening_eq_self (h : text.head? ≠ some '[') : dropOpening text = text := by
  unfold dropOpening
  split
  · exact absurd rfl h
  · rfl

theorem dropClosing_eq_self (h : ∀ c ∈ text, isBracket c = false) : dropClosing text = text := by
  unfold dropClosing
  split
  · rename_i hlast
    exact absurd (h ']' (List.mem_of_getLast? hlast)) (by decide)
  · rfl

theorem dropClosing_concat (text : List Char) : dropClosing (text ++ [']']) = text := by
  unfold dropClosing
  simp

theorem Encloses.bracketed_eq (h : Encloses text core) : bracketed text = core := by
  unfold bracketed
  rcases h.ends with rfl | rfl | rfl
  · exact dropClosing_eq_self h.plain
  · have hopen : dropOpening (core ++ [']']) = core ++ [']'] := by
      refine dropOpening_eq_self fun hhead => ?_
      -- the core is not empty, so its first character would be the bracket
      rw [List.head?_append_of_ne_nil core h.ne_nil] at hhead
      exact absurd (h.plain '[' (List.mem_of_head? hhead)) (by decide)
    rw [hopen, dropClosing_concat]
  · exact dropClosing_concat core

/-- The third step takes off the brackets around a text. -/
theorem Encloses.stripBrackets_eq (h : Encloses text core) : stripBrackets text = core := by
  have hplain : core.any isBracket = false := List.any_eq_false.mpr fun c hc => by
    simp [h.plain c hc]
  unfold stripBrackets
  rw [h.bracketed_eq, hplain]
  simp [h.ne_nil]

theorem Encloses.sublist (h : Encloses text core) : core.Sublist text := by
  rcases h.ends with rfl | rfl | rfl
  · exact List.sublist_cons_self _ _
  · exact List.sublist_append_left _ _
  · exact (List.sublist_cons_self _ _).trans (List.sublist_append_left _ _)

theorem Encloses.ne (h : Encloses text core) : core ≠ text := by
  intro heq
  have hlen := congrArg List.length heq
  rcases h.ends with rfl | rfl | rfl
  · simp at hlen
  · simp at hlen
  · simp only [List.length_append, List.length_cons, List.length_nil] at hlen
    omega

/-- A text without brackets is not one with brackets around. -/
theorem not_encloses (h : ∀ c ∈ text, isBracket c = false) : ¬ Encloses text core := by
  intro henc
  have hbracket : ∃ c ∈ text, isBracket c = true := by
    rcases henc.ends with rfl | rfl | rfl
    · exact ⟨'[', by simp, by decide⟩
    · exact ⟨']', by simp, by decide⟩
    · exact ⟨']', by simp, by decide⟩
  obtain ⟨c, hc, hb⟩ := hbracket
  exact absurd hb (by simp [h c hc])

theorem dropOpening_cases (text : List Char) :
    dropOpening text = text ∨ text = '[' :: dropOpening text := by
  unfold dropOpening
  split
  · exact .inr rfl
  · exact .inl rfl

theorem dropClosing_cases (text : List Char) :
    dropClosing text = text ∨ text = dropClosing text ++ [']'] := by
  unfold dropClosing
  split
  · rename_i h
    obtain ⟨front, rfl⟩ := List.getLast?_eq_some_iff.mp h
    rw [List.dropLast_concat]
    exact .inr rfl
  · exact .inl rfl

/-- The third step takes off nothing but brackets around a text. -/
theorem stripBrackets_or_encloses (text : List Char) :
    stripBrackets text = text ∨ Encloses text (stripBrackets text) := by
  unfold stripBrackets
  split
  · exact .inl rfl
  · rename_i h
    simp only [Bool.or_eq_true, List.isEmpty_iff, not_or, List.any_eq_true, not_exists,
      not_and, Bool.not_eq_true] at h
    obtain ⟨hne, hplain⟩ := h
    unfold bracketed at hne hplain ⊢
    have hopen := dropOpening_cases text
    generalize dropOpening text = inner at hne hplain hopen ⊢
    have hclose := dropClosing_cases inner
    generalize dropClosing inner = core at hne hplain hclose ⊢
    rcases hopen with rfl | rfl <;> rcases hclose with rfl | rfl
    · exact .inl rfl
    · exact .inr ⟨hne, hplain, .inr (.inl rfl)⟩
    · exact .inr ⟨hne, hplain, .inl rfl⟩
    · exact .inr ⟨hne, hplain, .inr (.inr rfl)⟩

theorem stripBrackets_eq_self_iff : stripBrackets text = text ↔ ∀ core, ¬ Encloses text core := by
  constructor
  · intro h core henc
    exact henc.ne (by rw [← henc.stripBrackets_eq, h])
  · intro h
    rcases stripBrackets_or_encloses text with heq | henc
    · exact heq
    · exact absurd henc (h _)

theorem stripBrackets_sublist (text : List Char) : (stripBrackets text).Sublist text := by
  rcases stripBrackets_or_encloses text with heq | henc
  · rw [heq]
  · exact henc.sublist

/-- The third step leaves no text with brackets around. -/
theorem not_encloses_stripBrackets (text core : List Char) :
    ¬ Encloses (stripBrackets text) core := by
  rcases stripBrackets_or_encloses text with heq | henc
  · rw [heq]
    exact stripBrackets_eq_self_iff.mp heq core
  · exact not_encloses henc.plain

end Marc.Text
