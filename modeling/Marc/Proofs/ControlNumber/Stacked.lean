import Marc.Proofs.ControlNumber

/-!
# Numbers that can be cleaned again

A number is cleaned (`clean_oclc_number`) in one pass, and what the pass leaves is not read again.
If a mark was stacked on another one, then only the inner mark is dropped, and the outer one comes
to stand in front of the digit. Apart from that, vendors' numbers are looked for before white space
is cut off, so one behind white space is found no sooner than when it is cleaned again.

Results:
* `marked_unmark_iff`: **the pass leaves a mark with a digit behind it** exactly where two marks are
  stacked.
* `vendor_unmark_iff`: the pass neither makes nor breaks a vendor's mark.
* `clean_clean_iff`: **cleaning once is enough** exactly for these strings. `stackedMarks_left`: a
  number can keep a mark that cleaning drops.
-/

namespace Marc.ControlNumber

open Text

variable {text rest tail space mark outer : List Char} {c : Char}

/-! ## Stacked marks -/

/-- A mark in the text has another mark behind it, and that one a digit. White space may come
between the marks. -/
def Stacked (text : List Char) : Prop :=
  ∃ outer ∈ marks, ∃ rest, Opened rest ∧ outer ++ rest <:+ text

theorem Opened.not_digitFirst (h : Opened text) : ¬ DigitFirst text := by
  intro hdigit
  obtain ⟨c, tail, rfl, hc⟩ := hdigit.exists_cons
  exact not_opened_of_digit hc tail h

/-- The mark that is dropped at the start of a text is no part of a mark further on. -/
theorem Opens.suffix_of_mark (h : Opens text space mark rest) (hm : outer ∈ marks)
    (ht : ¬ DigitFirst tail) (hs : outer ++ tail <:+ text) : outer ++ tail <:+ rest := by
  refine (List.suffix_or_suffix_of_suffix hs h.suffix).resolve_right fun hlonger => ?_
  obtain ⟨part, hpart⟩ := hlonger
  obtain ⟨front, hfront⟩ := hs
  have hends : front ++ part = space ++ mark := by
    rw [← hpart, h.eq, ← List.append_assoc, ← List.append_assoc] at hfront
    exact List.append_cancel_right hfront
  have hne : part ≠ [] := by
    rintro rfl
    exact not_digitFirst_mark_append hm tail (hpart ▸ h.digit)
  have hpartMark : part <:+ mark := by
    rcases List.append_eq_append_iff.mp hends with ⟨inner, hspace, rfl⟩ | ⟨inner, -, hmark⟩
    · -- the part begins with the first character of a mark, so no white space belongs to it
      cases inner with
      | nil => exact List.suffix_rfl
      | cons c inner =>
        have hc : c ∈ (outer ++ tail).head? := by
          rw [← hpart]
          rfl
        have hblank := h.blank c (by rw [hspace]; simp)
        simp [not_isBlank_of_head?_mark hm tail c hc] at hblank
    · exact ⟨inner, hmark.symm⟩
  have hcomparable := List.prefix_or_prefix_of_prefix (List.prefix_append part rest)
    (hpart ▸ List.prefix_append outer tail)
  obtain rfl := marks_apart mark h.mem part ((List.mem_tails part mark).mpr hpartMark) hne outer hm
    hcomparable
  exact ht (List.append_cancel_left hpart ▸ h.digit)

/-- **The pass leaves a mark with a digit behind it** exactly where two marks are stacked. -/
theorem marked_unmark_iff : Marked (unmark text) ↔ Stacked text := by
  constructor
  · rintro ⟨mark, hm, c, hc, front, back, heq⟩
    rw [List.append_assoc, List.append_assoc] at heq
    obtain ⟨tail, htail, hout⟩ := exists_suffix_of_unmark_eq_append heq.symm
    obtain ⟨rest, rfl, hrest⟩ :=
      exists_of_unmark_eq_append hout (not_isDecimalDigit_of_mem_mark mark hm)
    refine ⟨mark, hm, rest, ?_, htail⟩
    -- if the digit stood behind the mark, then the mark would have been dropped
    by_contra hopened
    have hdigit : DigitFirst rest := by
      cases rest with
      | nil => exact nomatch hrest
      | cons d rest =>
        rw [unmark_cons hopened] at hrest
        exact digitFirst_cons.mpr (List.head_eq_of_cons_eq hrest ▸ hc)
    have hfirst := hdigit.unmark
    rw [← unmark_mark_append_digit hm hdigit, hout] at hfirst
    exact not_digitFirst_mark_append hm _ hfirst
  · rintro ⟨outer, hm, rest, hrest, hs⟩
    have hdigit := hrest.not_digitFirst
    induction text using unmark_ind with
    | nil =>
      have hnil : outer ++ rest = [] := List.suffix_nil.mp hs
      exact absurd (List.append_eq_nil_iff.mp hnil).1 (mark_ne_nil outer hm)
    | drop text space mark rest' hopens ih =>
      rw [hopens.unmark_eq]
      exact ih (hopens.suffix_of_mark hm hdigit hs)
    | copy c tail hopened ih =>
      rcases List.suffix_cons_iff.mp hs with heq | hs
      · obtain ⟨space, inner, digits, hinner⟩ := hrest
        obtain ⟨d, back, hcons, hd⟩ := hinner.digit.exists_cons
        refine ⟨outer, hm, d, hd, [], unmark back, ?_⟩
        rw [← heq, unmark_mark_append hm hdigit, hinner.unmark_eq, hcons, unmark_cons_of_digit hd]
        simp
      · obtain ⟨mark, hmark, d, hd, hheld⟩ := ih hs
        rw [unmark_cons hopened]
        exact ⟨mark, hmark, d, hd, hheld.trans (List.suffix_cons c _).isInfix⟩

/-! ## Vendors' numbers -/

theorem not_opened_cons (hb : isBlank c = false) (hc : ∀ mark ∈ marks, mark.head? ≠ some c)
    (tail : List Char) : ¬ Opened (c :: tail) := by
  rintro ⟨space, mark, rest, hopens⟩
  obtain rfl := hopens.space_eq_nil fun d hd => Option.some.inj hd ▸ hb
  have heq : c :: tail = mark ++ rest := hopens.eq
  refine hc mark hopens.mem ?_
  rw [← List.head?_append_of_ne_nil mark (mark_ne_nil mark hopens.mem), ← heq]
  rfl

/-- The pass neither makes nor breaks a vendor's mark. -/
theorem vendor_unmark_iff : vendorMark <+: unmark text ↔ vendorMark <+: text := by
  constructor
  · rintro ⟨out, hout⟩
    have hnone : vendorMark.any isDecimalDigit = false := by decide
    obtain ⟨tail, rfl, -⟩ := exists_of_unmark_eq_append hout.symm fun c hc =>
      Bool.eq_false_iff.mpr (List.any_eq_false.mp hnone c hc)
    exact List.prefix_append vendorMark tail
  · rintro ⟨tail, rfl⟩
    have hcopy : unmark (vendorMark ++ tail) = vendorMark ++ unmark tail := by
      show unmark ('s' :: 's' :: 'j' :: tail) = _
      rw [unmark_cons (not_opened_cons (by decide) (by decide) _),
        unmark_cons (not_opened_cons (by decide) (by decide) _),
        unmark_cons (not_opened_cons (by decide) (by decide) _)]
      rfl
    rw [hcopy]
    exact List.prefix_append vendorMark _

/-! ## Cleaning twice -/

/-- **Cleaning once is enough** exactly for a vendor's number, and for a string that is none behind
white space either and holds no stacked marks. -/
theorem clean_clean_iff (s : String) :
    clean (clean s) = clean s ↔
      vendorMark <+: s.toList ∨ ¬ vendorMark <+: trim s.toList ∧ ¬ Stacked s.toList := by
  by_cases hs : vendorMark <+: s.toList
  · rw [clean_of_vendor hs]
    exact iff_of_true rfl (.inl hs)
  rw [or_iff_right hs]
  have htext := toList_clean hs
  by_cases hv : vendorMark <+: trim s.toList
  · have hagain : vendorMark <+: (clean s).toList := by
      rw [htext]
      exact vendor_unmark_iff.mpr hv
    refine iff_of_false (fun heq => ?_) fun h => h.1 hv
    rw [clean_of_vendor hagain] at heq
    rw [← heq] at hagain
    exact absurd hagain (by decide)
  · have hagain : ¬ vendorMark <+: (clean s).toList := by
      rw [htext]
      exact fun h => hv (vendor_unmark_iff.mp h)
    rw [and_iff_right hv, ← String.toList_inj, toList_clean hagain, htext, unmark_trim s.toList,
      trim_trim, unmark_eq_self_iff, marked_trim_iff, marked_unmark_iff]

/-- A number with two marks in front keeps the first, which would be dropped if it stood alone. -/
theorem stackedMarks_left : ¬ ∀ s : String, clean (clean s) = clean s := fun h =>
  absurd (h "(OCoLC)ocm00123456") (by decide)

end Marc.ControlNumber
