import Marc.Proofs.Text.Punctuation
import Marc.Proofs.Text.Stripping

/-!
# White space and punctuation at the ends

An index string is stripped of its punctuation first and of white space after that. Stripping knows
no white space but the space at the end of a text, so white space of any other kind, or at the
start, keeps it from the punctuation behind; and it may lay white space bare.

Results:
* `framesBlank_iff`: **of which texts stripping leaves white space**, and nothing else.
* `trim_append_of_not_blank`, `trim_cons_of_not_blank`: trimming stops at a character that is not
  white space.
* `stripPunctuation_eq_self_of_trim`: white space around a text is not in the way if the text
  itself has nothing to take off.
* `forall_spelling_iff`: **whatever white space is around**, stripping takes nothing off a text but
  spaces, or everything, exactly when the text has nothing to take off and is no lone bracket.
-/

namespace Marc.Text

variable {text core : List Char} {c : Char}

/-! ## White space laid bare -/

/-- The visible characters of ASCII are not white space. -/
theorem not_isBlank_of_visible (hlo : 33 ≤ c.toNat) (hhi : c.toNat ≤ 126) : isBlank c = false := by
  rw [Bool.eq_false_iff]
  intro hb
  obtain ⟨range, hr, hmin, hmax⟩ := CharTable.has_iff.mp hb
  simp only [whiteSpace, List.mem_cons, List.not_mem_nil, or_false] at hr
  rcases hr with rfl | rfl | rfl | rfl | rfl | rfl | rfl | rfl | rfl | rfl <;>
    simp only at hmin hmax <;> omega

theorem not_isBlank_of_isWordChar (h : isWordChar c = true) : isBlank c = false := by
  have hrange {lo hi : Nat} (hlo : lo ≤ c.toNat) (hhi : c.toNat ≤ hi) (hmin : 33 ≤ lo)
      (hmax : hi ≤ 126) : isBlank c = false :=
    not_isBlank_of_visible (Nat.le_trans hmin hlo) (Nat.le_trans hhi hmax)
  rcases Bool.or_eq_true_iff.mp h with h | h
  · rcases Bool.or_eq_true_iff.mp h with h | h
    · rcases Bool.or_eq_true_iff.mp h with hupper | hlower
      · obtain ⟨hlo, hhi⟩ := of_decide_eq_true hupper
        exact hrange hlo hhi (by decide) (by decide)
      · obtain ⟨hlo, hhi⟩ := Bool.and_eq_true_iff.mp hlower
        exact hrange (of_decide_eq_true hlo) (of_decide_eq_true hhi) (by decide) (by decide)
    · obtain ⟨hlo, hhi⟩ := Bool.and_eq_true_iff.mp h
      exact hrange (of_decide_eq_true hlo) (of_decide_eq_true hhi) (by decide) (by decide)
  · rw [eq_of_beq h]
    decide

theorem not_isBlank_of_isBracket (h : isBracket c = true) : isBlank c = false := by
  simp only [isBracket, Bool.or_eq_true, beq_iff_eq] at h
  rcases h with rfl | rfl <;> decide

/-- White space is none of the marks that stripping looks for, but for the space. -/
theorem plain_of_isBlank (h : isBlank c = true) :
    isSeparator c = false ∧ isBracket c = false ∧ c ≠ '.' := by
  refine ⟨?_, ?_, ?_⟩
  · exact Bool.eq_false_iff.mpr fun hs => by simp [isBlank_of_isSeparator hs] at h
  · exact Bool.eq_false_iff.mpr fun hb => by simp [not_isBlank_of_isBracket hb] at h
  · rintro rfl
    exact absurd h (by decide)

/-- The text is white space, with an opening bracket, a closing one, both or none around it, and a
trailer after it. -/
def FramesBlank (text : List Char) : Prop :=
  ∃ opening core closing trailer : List Char, text = opening ++ core ++ closing ++ trailer ∧
    (opening = [] ∨ opening = ['[']) ∧ (closing = [] ∨ closing = [']']) ∧
    core ≠ [] ∧ (∀ c ∈ core, isBlank c = true) ∧
    (opening ++ core ++ closing).getLast? ≠ some ' ' ∧ IsTrailer trailer

/-- **Of which texts stripping leaves white space**, and nothing else. -/
theorem framesBlank_iff : FramesBlank text ↔
    stripPunctuation text ≠ [] ∧ ∀ c ∈ stripPunctuation text, isBlank c = true := by
  constructor
  · rintro ⟨opening, core, closing, trailer, rfl, ho, hc, hne, hblank, hlast, hq⟩
    have hends : ∀ c ∈ (opening ++ core ++ closing).getLast?, isSeparator c = false ∧ c ≠ '.' := by
      intro c hm
      rcases hc with rfl | rfl
      · rw [List.append_nil, List.getLast?_append_of_ne_nil _ hne] at hm
        obtain ⟨hsep, -, hdot⟩ := plain_of_isBlank (hblank c (List.mem_of_getLast? hm))
        exact ⟨hsep, hdot⟩
      · rw [List.getLast?_concat] at hm
        obtain rfl := Option.some.inj hm
        decide
    have hcore : stripPunctuation (opening ++ core ++ closing ++ trailer) = core := by
      refine stripPunctuation_framed hne (fun c hm => (plain_of_isBlank (hblank c hm)).2.1) ho hc
        (fun c hm => ⟨?_, (hends c hm).1⟩) (fun hm => (hends _ hm).2 rfl) hq
      rintro rfl
      exact hlast hm
    rw [hcore]
    exact ⟨hne, hblank⟩
  · rintro ⟨hne, hblank⟩
    obtain ⟨opening, closing, trailer, hcut⟩ := exists_cut_stripPunctuation text
    refine ⟨opening, _, closing, trailer, hcut.eq, hcut.opens, ?_, hne, hblank, hcut.last,
      hcut.trails⟩
    rcases hcut.closes with hnil | hperiod | hbracket
    · exact .inl hnil
    · -- a period comes off behind a word, and white space is no word
      obtain ⟨front, x, y, z, heq, -, -, hz⟩ := endsInWord_iff.mp (hcut.word hperiod)
      have hb := hblank z (by rw [heq]; simp)
      rw [not_isBlank_of_isWordChar hz] at hb
      exact absurd hb (by decide)
    · exact .inr hbracket

/-! ## Trimming up to a visible character -/

variable {rest : List Char}

/-- Trimming stops in front of a run at the end that is not white space. -/
theorem trim_append_of_not_blank (hne : rest ≠ []) (h : ∀ c ∈ rest, isBlank c = false)
    (text : List Char) : trim (text ++ rest) = text.dropWhile isBlank ++ rest := by
  have hfront : (text ++ rest).dropWhile isBlank = text.dropWhile isBlank ++ rest := by
    rw [List.dropWhile_append]
    split
    · rename_i hnil
      rw [List.isEmpty_iff.mp hnil, List.nil_append]
      cases rest with
      | nil => exact absurd rfl hne
      | cons c rest => exact List.dropWhile_cons_of_neg (by simp [h c List.mem_cons_self])
    · rfl
  unfold trim
  rw [hfront]
  refine dropEndWhile_eq_self fun c hc => ?_
  rw [List.getLast?_append_of_ne_nil _ hne] at hc
  exact h c (List.mem_of_getLast? hc)

theorem trim_concat_of_not_blank (hc : isBlank c = false) (text : List Char) :
    trim (text ++ [c]) = text.dropWhile isBlank ++ [c] :=
  trim_append_of_not_blank (List.cons_ne_nil _ _) (List.forall_mem_singleton.mpr hc) text

/-- Trimming stops behind a character at the start that is not white space. -/
theorem trim_cons_of_not_blank (hc : isBlank c = false) (text : List Char) :
    trim (c :: text) = c :: dropEndWhile isBlank text := by
  unfold trim
  rw [List.dropWhile_cons_of_neg (by simp [hc]), dropEndWhile_cons_of_neg hc]

/-! ## White space around a text -/

theorem stripPunctuation_dropEndSpaces (text : List Char) :
    stripPunctuation (dropEndSpaces text) = stripPunctuation text := by
  obtain ⟨n, hn⟩ := exists_dropEndSpaces_append text
  unfold stripPunctuation
  conv => rhs; rw [hn]
  rw [stripSeparator_append_spaces]

/-- With brackets around it, what is left of a text after trimming still has brackets around it,
unless it is a lone bracket. -/
theorem Encloses.trim (h : Encloses text core) :
    trim text = ['['] ∨ trim text = [']'] ∨ ∃ inner, Encloses (trim text) inner := by
  rcases h.ends with rfl | rfl | rfl
  · rw [trim_cons_of_not_blank (by decide)]
    by_cases hnil : dropEndWhile isBlank core = []
    · rw [hnil]
      exact .inl rfl
    · have hfront : dropEndWhile isBlank core <+: core := List.rdropWhile_prefix isBlank core
      exact .inr (.inr ⟨_, hnil, fun c hm => h.plain c (hfront.subset hm), .inl rfl⟩)
  · rw [trim_concat_of_not_blank (by decide)]
    by_cases hnil : core.dropWhile isBlank = []
    · rw [hnil]
      exact .inr (.inl rfl)
    · exact .inr (.inr ⟨_, hnil, fun c hm => h.plain c ((List.dropWhile_sublist _).subset hm),
        .inr (.inl rfl)⟩)
  · rw [trim_concat_of_not_blank (by decide), List.dropWhile_cons_of_neg (by decide)]
    exact .inr (.inr ⟨core, h.ne_nil, h.plain, .inr (.inr rfl)⟩)

/-- White space around a text is not in the way if the text itself has nothing to take off, and is
no lone bracket. -/
theorem stripPunctuation_eq_self_of_trim (hs : text.getLast? ≠ some ' ')
    (h : stripPunctuation (trim text) = trim text) (ho : trim text ≠ ['['])
    (hc : trim text ≠ [']']) : stripPunctuation text = text := by
  obtain ⟨hends, hperiod, hbrackets⟩ := stripPunctuation_eq_self_iff.mp h
  refine stripPunctuation_eq_self_iff.mpr ⟨fun c hm => ⟨?_, ?_⟩, ?_, fun core henc => ?_⟩
  · rintro rfl
    exact hs hm
  · by_contra hsep
    have hb := isBlank_of_isSeparator (by simpa using hsep)
    obtain ⟨front, rfl⟩ := List.getLast?_eq_some_iff.mp hm
    rw [trim_concat_of_not_blank (by simpa using hb)] at hends
    exact hsep (endsPlain_concat.mp hends).2
  · rintro ⟨front, rfl, hword⟩
    obtain ⟨inner, x, y, z, rfl, hx, hy, hz⟩ := endsInWord_iff.mp hword
    have hvisible : ∀ c ∈ [x, y, z] ++ ['.'], isBlank c = false := by
      simp only [List.cons_append, List.nil_append, List.forall_mem_cons]
      exact ⟨not_isBlank_of_isWordChar hx, not_isBlank_of_isWordChar hy,
        not_isBlank_of_isWordChar hz, by decide, nofun⟩
    refine hperiod ⟨inner.dropWhile isBlank ++ [x, y, z], ?_, endsInWord_iff.mpr
      ⟨_, x, y, z, rfl, hx, hy, hz⟩⟩
    rw [List.append_assoc, trim_append_of_not_blank (by simp) hvisible, List.append_assoc]
  · rcases henc.trim with heq | heq | ⟨inner, hinner⟩
    · exact ho heq
    · exact hc heq
    · exact hbrackets inner hinner

/-- A trailer is taken off behind any text, so also behind white space that stays. -/
theorem stripPunctuation_tab_cons {q : List Char} (hq : IsTrailer q) :
    stripPunctuation ('\t' :: q) = ['\t'] := by
  have hends : EndsPlain ['\t'] := by simp [EndsPlain, isSeparator]
  have hstrip := stripPunctuation_append hends hq
  rw [List.singleton_append] at hstrip
  rw [hstrip]
  decide

/-- Between two tabs nothing is taken off. -/
theorem stripPunctuation_between_tabs (text : List Char) :
    stripPunctuation ('\t' :: text ++ ['\t']) = '\t' :: text ++ ['\t'] := by
  refine stripPunctuation_eq_self_iff.mpr ⟨endsPlain_concat.mpr (by decide), ?_, fun core henc => ?_⟩
  · exact not_endsInPeriod (by rw [List.getLast?_concat]; decide)
  · rcases henc.ends with heq | heq | heq
    · exact absurd (List.head_eq_of_cons_eq heq) (by decide)
    · exact absurd (List.head_eq_of_cons_eq (List.append_inj' heq rfl).2) (by decide)
    · exact absurd (List.head_eq_of_cons_eq heq) (by decide)

theorem trim_between_tabs (text : List Char) : trim ('\t' :: text ++ ['\t']) = trim text :=
  trim_append (List.forall_mem_singleton.mpr (by decide)) ('\t' :: text)

/-- **Whatever white space is around a text**, stripping takes off nothing but spaces at the end, or
everything, exactly when the text itself has nothing to take off and is no lone bracket. -/
theorem forall_spelling_iff (ht : trim core = core) :
    (∀ text, trim text = core →
      stripPunctuation text = [] ∨ stripPunctuation text = dropEndSpaces text) ↔
    stripPunctuation core = core ∧ core ≠ ['['] ∧ core ≠ [']'] := by
  constructor
  · intro h
    refine ⟨?_, ?_, ?_⟩
    · have hlast : core.getLast? ≠ some ' ' := by
        intro hc
        rw [← ht] at hc
        exact absurd (getLast_dropEndWhile hc) (by decide)
      have hself := h core ht
      rw [dropEndSpaces_eq_self hlast] at hself
      by_cases hcore : core = []
      · rw [hcore]
        rfl
      refine hself.resolve_left fun hnil => ?_
      -- a trailer goes also behind a tab, and then the tab is left of the two
      have hends : ('\t' :: core).getLast? ≠ some ' ' := by
        rwa [List.getLast?_cons_of_ne_nil hcore]
      have htab := h ('\t' :: core) ht
      rw [stripPunctuation_tab_cons (stripPunctuation_eq_nil_iff.mp hnil),
        dropEndSpaces_eq_self hends] at htab
      exact htab.elim nofun fun heq => hcore (List.tail_eq_of_cons_eq heq).symm
    · rintro rfl
      exact absurd (h ['[', '\t'] (by decide)) (by decide)
    · rintro rfl
      exact absurd (h ['\t', ']'] (by decide)) (by decide)
  · rintro ⟨hself, ho, hc⟩ text rfl
    right
    rw [← trim_dropEndSpaces] at hself ho hc
    rw [← stripPunctuation_dropEndSpaces]
    exact stripPunctuation_eq_self_of_trim (getLast?_dropEndSpaces text) hself ho hc

end Marc.Text
