import Marc.Proofs.Text.Steps

/-!
# What stripping leaves

Stripping (`trim_punctuation`) takes at most four things off a text: a trailer, then a period after
a word, and a bracket at either end. The steps come one after the other, and a later one can expose
work for an earlier one, so stripping again may go on: `[abc.]` is stripped to `abc.`, and that to
`abc`.

Results:
* `stripPunctuation_eq_self_steps`: stripping leaves a text alone exactly when every step does.
* `unpunctuated_fixed`: **which strings are left alone**, and when a second stripping changes
  nothing more.
* `exists_cut`: **what is taken off** a string.
* `unpunctuated_spellings`: **all spellings of a text**, with trailers, brackets and a period, are
  stripped to it.
-/

namespace Marc.Text

variable {text core q : List Char} {c : Char}

/-! ## All three steps -/

theorem stripPunctuation_sublist (text : List Char) : (stripPunctuation text).Sublist text :=
  calc
    (stripPunctuation text).Sublist (stripPeriod (stripSeparator text)) := stripBrackets_sublist _
    List.Sublist _ (stripSeparator text) := stripPeriod_sublist (getLast?_stripSeparator text)
    List.Sublist _ text := stripSeparator_sublist text

/-- Stripping leaves a text alone exactly when each of the steps does: none of them can give back
what another one took. -/
theorem stripPunctuation_eq_self_steps : stripPunctuation text = text ↔
    stripSeparator text = text ∧ stripPeriod text = text ∧ stripBrackets text = text := by
  constructor
  · intro h
    have hsub := stripSeparator_sublist text
    have hsub' := stripPeriod_sublist (getLast?_stripSeparator text)
    have hsub'' := stripBrackets_sublist (stripPeriod (stripSeparator text))
    have hlen : (stripBrackets (stripPeriod (stripSeparator text))).length = text.length :=
      congrArg List.length h
    have hle := hsub.length_le
    have hle' := hsub'.length_le
    have hle'' := hsub''.length_le
    have hsep := hsub.eq_of_length_le (by omega)
    have hper := hsub'.eq_of_length_le (by omega)
    have hbr := hsub''.eq_of_length_le (by omega)
    rw [hper, hsep] at hbr
    rw [hsep] at hper
    exact ⟨hsep, hper, hbr⟩
  · rintro ⟨hsep, hper, hbr⟩
    unfold stripPunctuation
    rw [hsep, hper, hbr]

theorem stripPunctuation_eq_self_iff : stripPunctuation text = text ↔
    EndsPlain text ∧ ¬ EndsInPeriod text ∧ ∀ core, ¬ Encloses text core := by
  rw [stripPunctuation_eq_self_steps, stripSeparator_eq_self_iff, stripBrackets_eq_self_iff]
  exact and_congr_right fun h => and_congr_left' (stripPeriod_eq_self_iff h.getLast?_ne)

/-! ## What is taken off -/

/-- The text is cut into an opening, a core, a closing and a trailer, as stripping cuts it. -/
structure Cut (text opening core closing trailer : List Char) : Prop where
  eq : text = opening ++ core ++ closing ++ trailer
  opens : opening = [] ∨ opening = ['[']
  closes : closing = [] ∨ closing = ['.'] ∨ closing = [']']
  trails : IsTrailer trailer
  /-- All the spaces at the end belong to the trailer. -/
  last : (opening ++ core ++ closing).getLast? ≠ some ' '
  word : closing = ['.'] → EndsInWord core
  enclosed : opening = ['['] ∨ closing = [']'] → core ≠ [] ∧ ∀ c ∈ core, isBracket c = false

/-- A character that stripping may take off. -/
def isMark (c : Char) : Bool := c == ' ' || isSeparator c || c == '.' || isBracket c

theorem IsTrailer.isMark (h : IsTrailer q) (hc : c ∈ q) : isMark c = true := by
  obtain ⟨m, n, mark, hmark, rfl⟩ := h
  simp only [List.mem_append, List.mem_replicate, Option.mem_toList] at hc
  rcases hc with (⟨-, rfl⟩ | hc) | ⟨-, rfl⟩
  · rfl
  · simp [Text.isMark, hmark c hc]
  · rfl

theorem Cut.isMark {opening closing trailer : List Char}
    (h : Cut text opening core closing trailer) (hc : c ∈ opening ++ closing ++ trailer) :
    isMark c = true := by
  rw [List.mem_append, List.mem_append] at hc
  rcases hc with (hc | hc) | hc
  · rcases h.opens with rfl | rfl
    · exact absurd hc List.not_mem_nil
    · rw [List.mem_singleton.mp hc]
      rfl
  · rcases h.closes with rfl | rfl | rfl
    · exact absurd hc List.not_mem_nil
    · rw [List.mem_singleton.mp hc]
      rfl
    · rw [List.mem_singleton.mp hc]
      rfl
  · exact h.trails.isMark hc

theorem EndsInWord.of_cons (hc : isWordChar c = false) (h : EndsInWord (c :: text)) :
    EndsInWord text := by
  obtain ⟨front, x, y, z, heq, hx, hy, hz⟩ := endsInWord_iff.mp h
  cases front with
  | nil =>
    rw [List.head_eq_of_cons_eq heq, hx] at hc
    exact absurd hc (by decide)
  | cons d front =>
    exact endsInWord_iff.mpr ⟨front, x, y, z, List.tail_eq_of_cons_eq heq, hx, hy, hz⟩

theorem not_endsInWord_concat (hc : isWordChar c = false) : ¬ EndsInWord (text ++ [c]) := by
  intro h
  obtain ⟨front, x, y, z, heq, -, -, hz⟩ := endsInWord_iff.mp h
  have hlast : c = z := by simpa using congrArg List.getLast? heq
  rw [← hlast, hc] at hz
  exact absurd hz (by decide)

/-- A word at the end of a text with brackets around is one at the end of the core. -/
theorem Encloses.endsInWord (h : Encloses text core) (hw : EndsInWord text) :
    text = '[' :: core ∧ EndsInWord core := by
  rcases h.ends with rfl | rfl | rfl
  · exact ⟨rfl, hw.of_cons (by decide)⟩
  · exact absurd hw (not_endsInWord_concat (by decide))
  · exact absurd hw (not_endsInWord_concat (by decide))

/-- What the second and the third step take off a text. -/
theorem exists_opening_closing (hs : text.getLast? ≠ some ' ') :
    ∃ opening closing, text = opening ++ stripBrackets (stripPeriod text) ++ closing ∧
      (opening = [] ∨ opening = ['[']) ∧ (closing = [] ∨ closing = ['.'] ∨ closing = [']']) ∧
      (closing = ['.'] → EndsInWord (stripBrackets (stripPeriod text))) ∧
      (opening = ['['] ∨ closing = [']'] →
        Encloses (stripPeriod text) (stripBrackets (stripPeriod text))) := by
  have hper := stripPeriod_cases hs
  generalize stripPeriod text = front at hper ⊢
  have hbr := stripBrackets_or_encloses front
  generalize stripBrackets front = core at hbr ⊢
  rcases hbr with rfl | henc
  · rcases hper with rfl | ⟨rfl, hword⟩
    · exact ⟨[], [], by simp, .inl rfl, .inl rfl, nofun, by simp⟩
    · exact ⟨[], ['.'], rfl, .inl rfl, .inr (.inl rfl), fun _ => hword, by simp⟩
  · rcases hper with rfl | ⟨rfl, hword⟩
    · rcases henc.ends with heq | heq | heq
      · exact ⟨['['], [], by simpa using heq, .inr rfl, .inl rfl, nofun, fun _ => henc⟩
      · exact ⟨[], [']'], heq, .inl rfl, .inr (.inr rfl), nofun, fun _ => henc⟩
      · exact ⟨['['], [']'], heq, .inr rfl, .inr (.inr rfl), nofun, fun _ => henc⟩
    · -- a period comes off before the brackets only where no bracket closes
      obtain ⟨heq, hcore⟩ := henc.endsInWord hword
      exact ⟨['['], ['.'], by rw [heq]; rfl, .inr rfl, .inr (.inl rfl), fun _ => hcore,
        fun _ => henc⟩

/-- Stripping cuts every text. -/
theorem exists_cut_stripPunctuation (text : List Char) :
    ∃ opening closing trailer, Cut text opening (stripPunctuation text) closing trailer := by
  obtain ⟨trailer, hq, htext, hlast⟩ := exists_trailer text
  obtain ⟨opening, closing, hkept, ho, hc, hword, henc⟩ := exists_opening_closing hlast
  refine ⟨opening, closing, trailer, ?_, ho, hc, hq, ?_, hword, fun h => ?_⟩
  · unfold stripPunctuation
    rw [← hkept, ← htext]
  · unfold stripPunctuation
    rw [← hkept]
    exact hlast
  · exact ⟨(henc h).ne_nil, (henc h).plain⟩

/-! ## Spellings of a text -/

/-- A text that stripping has nothing to take off of, whatever brackets and trailers come around
it: it is not empty, holds no bracket and ends in no space, separator or period. -/
structure IsCore (text : List Char) : Prop where
  ne_nil : text ≠ []
  plain : ∀ c ∈ text, isBracket c = false
  ends : EndsPlain text
  no_period : text.getLast? ≠ some '.'

theorem not_endsInPeriod (h : text.getLast? ≠ some '.') : ¬ EndsInPeriod text := by
  rintro ⟨front, rfl, -⟩
  exact h List.getLast?_concat

theorem stripPunctuation_append (h : EndsPlain text) (hq : IsTrailer q) :
    stripPunctuation (text ++ q) = stripBrackets (stripPeriod text) := by
  unfold stripPunctuation
  rw [stripSeparator_append h hq]

/-- Nothing is left of a text exactly if it is a trailer. -/
theorem stripPunctuation_eq_nil_iff : stripPunctuation text = [] ↔ IsTrailer text := by
  constructor
  · intro h
    obtain ⟨opening, closing, trailer, hcut⟩ := exists_cut_stripPunctuation text
    rw [h] at hcut
    have hopening : opening = [] := hcut.opens.resolve_right fun ho =>
      (hcut.enclosed (.inl ho)).1 rfl
    have hclosing : closing = [] := by
      rcases hcut.closes with rfl | rfl | rfl
      · rfl
      · exact absurd (hcut.word rfl).1 (by decide)
      · exact absurd rfl (hcut.enclosed (.inr rfl)).1
    rw [hcut.eq, hopening, hclosing]
    exact hcut.trails
  · intro h
    have hends : EndsPlain [] := fun c hc => nomatch hc
    have hleft := stripPunctuation_append hends h
    rw [List.nil_append] at hleft
    rw [hleft]
    rfl

theorem getLast?_append_core {opening : List Char} (h : IsCore core) :
    (opening ++ core).getLast? = core.getLast? := List.getLast?_append_of_ne_nil _ h.ne_nil

/-- A text that is not empty and holds no bracket is what stripping leaves of it with an opening
bracket, a closing one, both or none around it and a trailer after it, if the trailer takes nothing
of the rest along. -/
theorem stripPunctuation_framed {opening closing : List Char} (hne : core ≠ [])
    (hplain : ∀ c ∈ core, isBracket c = false) (ho : opening = [] ∨ opening = ['['])
    (hc : closing = [] ∨ closing = [']']) (hends : EndsPlain (opening ++ core ++ closing))
    (hp : (opening ++ core ++ closing).getLast? ≠ some '.') (hq : IsTrailer q) :
    stripPunctuation (opening ++ core ++ closing ++ q) = core := by
  have hper := stripPeriod_eq_self hends.getLast?_ne (not_endsInPeriod hp)
  rw [stripPunctuation_append hends hq, hper]
  rcases ho with rfl | rfl <;> rcases hc with rfl | rfl
  · rw [List.nil_append, List.append_nil]
    exact stripBrackets_eq_self_iff.mpr fun _ => not_encloses hplain
  · exact Encloses.stripBrackets_eq ⟨hne, hplain, .inr (.inl rfl)⟩
  · exact Encloses.stripBrackets_eq ⟨hne, hplain, .inl (List.append_nil _)⟩
  · exact Encloses.stripBrackets_eq ⟨hne, hplain, .inr (.inr rfl)⟩

/-- A core is what stripping leaves of all that. -/
theorem IsCore.stripPunctuation_eq {opening closing : List Char} (h : IsCore core)
    (ho : opening = [] ∨ opening = ['[']) (hc : closing = [] ∨ closing = [']'])
    (hq : IsTrailer q) : stripPunctuation (opening ++ core ++ closing ++ q) = core := by
  have hends : EndsPlain (opening ++ core ++ closing) ∧
      (opening ++ core ++ closing).getLast? ≠ some '.' := by
    rcases hc with rfl | rfl
    · unfold EndsPlain
      rw [List.append_nil, getLast?_append_core h]
      exact ⟨h.ends, h.no_period⟩
    · exact ⟨endsPlain_concat.mpr (by decide), by simp⟩
  exact stripPunctuation_framed h.ne_nil h.plain ho hc hends.1 hends.2 hq

/-- A period after a core is taken off if the core ends in a word, and otherwise stays. -/
theorem IsCore.stripPunctuation_period (h : IsCore core) (hq : IsTrailer q) :
    stripPunctuation (core ++ ['.'] ++ q) = if EndsInWord core then core else core ++ ['.'] := by
  have hends : EndsPlain (core ++ ['.']) := endsPlain_concat.mpr (by decide)
  rw [stripPunctuation_append hends hq]
  split
  · rename_i hword
    rw [stripPeriod_concat hword]
    exact stripBrackets_eq_self_iff.mpr fun _ => not_encloses h.plain
  · rename_i hword
    have hper : ¬ EndsInPeriod (core ++ ['.']) := by
      rintro ⟨front, heq, hfront⟩
      rw [List.append_cancel_right heq] at hword
      exact hword hfront
    rw [stripPeriod_eq_self hends.getLast?_ne hper]
    refine stripBrackets_eq_self_iff.mpr fun _ => not_encloses fun c hc => ?_
    rcases List.mem_append.mp hc with hc | hc
    · exact h.plain c hc
    · rw [List.mem_singleton.mp hc]
      rfl

/-! ## Strings -/

theorem toList_unpunctuated (s : String) :
    (unpunctuated s).toList = stripPunctuation s.toList := String.toList_ofList

theorem unpunctuated_eq_iff {s t : String} :
    unpunctuated s = t ↔ stripPunctuation s.toList = t.toList := by
  rw [← String.toList_inj, toList_unpunctuated]

/-- **Which strings stripping leaves alone**: those that end neither in a space or separator nor in
a word and a period, and have no brackets around a text without others. A stripped string has no
such brackets, so it is left alone by a second stripping if it ends well; and whatever stripping
changes gets shorter. -/
theorem unpunctuated_fixed (s : String) :
    (unpunctuated s = s ↔
      EndsPlain s.toList ∧ ¬ EndsInPeriod s.toList ∧ ∀ core, ¬ Encloses s.toList core) ∧
    (∀ core, ¬ Encloses (unpunctuated s).toList core) ∧
    (unpunctuated (unpunctuated s) = unpunctuated s ↔
      EndsPlain (unpunctuated s).toList ∧ ¬ EndsInPeriod (unpunctuated s).toList) ∧
    (unpunctuated s = s ∨ (unpunctuated s).length < s.length) := by
  have hclear : ∀ core, ¬ Encloses (unpunctuated s).toList core := by
    rw [toList_unpunctuated]
    exact not_encloses_stripBrackets _
  refine ⟨?_, hclear, ?_, ?_⟩
  · rw [unpunctuated_eq_iff, stripPunctuation_eq_self_iff]
  · rw [unpunctuated_eq_iff, stripPunctuation_eq_self_iff]
    exact and_congr_right fun _ => and_iff_left hclear
  · have hsub := stripPunctuation_sublist s.toList
    rw [unpunctuated_eq_iff, ← String.length_toList, ← String.length_toList, toList_unpunctuated]
    rcases Nat.lt_or_ge (stripPunctuation s.toList).length s.toList.length with hlt | hge
    · exact .inr hlt
    · exact .inl (hsub.eq_of_length_le hge)

/-- The brackets go after the period, so the period inside of them has to wait. -/
example : unpunctuated "[abc.]" = "abc." ∧ unpunctuated "abc." = "abc" := by decide

/-- **What is taken off**: every string is cut into an opening bracket or nothing, what stripping
leaves, a period or a closing bracket or nothing, and a trailer. Nothing inside is changed, and
nothing but marks goes. -/
theorem exists_cut (s : String) :
    ∃ opening closing trailer : List Char,
      Cut s.toList opening (unpunctuated s).toList closing trailer ∧
        ∀ c ∈ opening ++ closing ++ trailer, isMark c = true := by
  obtain ⟨opening, closing, trailer, hcut⟩ := exists_cut_stripPunctuation s.toList
  rw [toList_unpunctuated]
  exact ⟨opening, closing, trailer, hcut, fun c hc => hcut.isMark hc⟩

/-- **All spellings of a core** are stripped to it: with brackets or without, and whatever the
trailer. A period after it is taken off if three word characters stand before it. -/
theorem unpunctuated_spellings {w q : String} (hw : IsCore w.toList) (hq : IsTrailer q.toList) :
    unpunctuated (w ++ q) = w ∧ unpunctuated ("[" ++ w ++ q) = w ∧
      unpunctuated (w ++ "]" ++ q) = w ∧ unpunctuated ("[" ++ w ++ "]" ++ q) = w ∧
      unpunctuated (w ++ "." ++ q) = if EndsInWord w.toList then w else w ++ "." := by
  have hnone := hw.stripPunctuation_eq (.inl rfl) (.inl rfl) hq
  have hopen := hw.stripPunctuation_eq (.inr rfl) (.inl rfl) hq
  have hclose := hw.stripPunctuation_eq (.inl rfl) (.inr rfl) hq
  have hboth := hw.stripPunctuation_eq (.inr rfl) (.inr rfl) hq
  rw [List.append_nil] at hnone hopen
  have hperiod := hw.stripPunctuation_period hq
  simp only [unpunctuated_eq_iff, String.toList_append]
  refine ⟨hnone, hopen, hclose, hboth, hperiod.trans ?_⟩
  split
  · rfl
  · rw [String.toList_append]
    rfl

/-- A word that ends in a letter outside of ASCII keeps its period. -/
theorem unpunctuated_spellings_tokyo :
    IsCore "Tōkyō".toList ∧ IsTrailer "  ; ".toList ∧
      unpunctuated ("[" ++ "Tōkyō" ++ "]" ++ "  ; ") = "Tōkyō" ∧
      unpunctuated ("Tōkyō" ++ "." ++ "  ; ") = "Tōkyō" ++ "." := by
  have hplain : ∀ c ∈ "Tōkyō".toList, isBracket c = false := by simp [isBracket]
  have hends : EndsPlain ("Tōky".toList ++ ['ō']) := endsPlain_concat.mpr (by decide)
  have hcore : IsCore "Tōkyō".toList := ⟨by decide, hplain, hends, by decide⟩
  have hmark : ∀ c ∈ some ';', isSeparator c = true := by simp [isSeparator]
  have htrailer : IsTrailer "  ; ".toList := ⟨2, 1, some ';', hmark, rfl⟩
  obtain ⟨-, -, -, hboth, hperiod⟩ := unpunctuated_spellings hcore htrailer
  exact ⟨hcore, htrailer, hboth, hperiod.trans (if_neg (by decide))⟩

end Marc.Text
