import Marc.Proofs.Text.Punctuation
import Marc.Text.LowerCase

/-!
# Searching between white space

White space around a text hides nothing from a search for what has no white space at its own ends.
Nor does it change the lower-case form of what stands between: the form of a capital sigma depends
on the letters around it, but white space ends a word as the end of the text does.

Results:
* `trim_between_blanks`: trimming leaves what stands between white space.
* `infix_trim_iff`: **trimming hides nothing** from a search.
* `toLower_between_blanks`: white space and what stands between are lower-cased on their own.
* `infix_toLower_trim_iff`: trimming hides nothing from a search **in any case**.
-/

namespace Marc.Text

variable {part text before after : List Char} {c : Char}

/-! ## Trimming and searching -/

/-- The text is not empty and has no white space at its ends. -/
structure Solid (text : List Char) : Prop where
  ne_nil : text ≠ []
  first : ∀ c ∈ text.head?, isBlank c = false
  last : ∀ c ∈ text.getLast?, isBlank c = false

theorem solid_iff : Solid text ↔ text ≠ [] ∧ text.head?.all (fun c => !isBlank c) = true ∧
    text.getLast?.all (fun c => !isBlank c) = true := by
  simp only [Option.all_eq_true, Bool.not_eq_true']
  exact ⟨fun h => ⟨h.ne_nil, h.first, h.last⟩, fun ⟨hne, hfirst, hlast⟩ => ⟨hne, hfirst, hlast⟩⟩

instance : DecidablePred Solid := fun _ => decidable_of_iff _ solid_iff.symm

theorem Solid.reverse (h : Solid part) : Solid part.reverse where
  ne_nil := fun hnil => h.ne_nil (List.reverse_eq_nil_iff.mp hnil)
  first := by
    rw [List.head?_reverse]
    exact h.last
  last := by
    rw [List.getLast?_reverse]
    exact h.first

theorem infix_blanks_append_iff (hp : Solid part) (hb : ∀ c ∈ before, isBlank c = true)
    (text : List Char) : part <:+: before ++ text ↔ part <:+: text := by
  induction before with
  | nil => exact Iff.rfl
  | cons c before ih =>
    have hc : isBlank c = true := hb c List.mem_cons_self
    rw [List.cons_append, List.infix_cons_iff, ih fun d hd => hb d (List.mem_cons_of_mem c hd)]
    refine or_iff_right fun hstart => ?_
    obtain ⟨d, part, rfl⟩ := List.exists_cons_of_ne_nil hp.ne_nil
    obtain rfl := (List.cons_prefix_cons.mp hstart).1
    exact absurd hc (by simp [hp.first d rfl])

theorem infix_append_blanks_iff (hp : Solid part) (ha : ∀ c ∈ after, isBlank c = true)
    (text : List Char) : part <:+: text ++ after ↔ part <:+: text := by
  rw [← List.reverse_infix, List.reverse_append,
    infix_blanks_append_iff hp.reverse fun c hc => ha c (List.mem_reverse.mp hc),
    List.reverse_infix]

/-- Trimming leaves what stands between white space. -/
theorem trim_between_blanks (hp : Solid part) (hb : ∀ c ∈ before, isBlank c = true)
    (ha : ∀ c ∈ after, isBlank c = true) : trim (before ++ (part ++ after)) = part := by
  have hbefore : trim (before ++ (part ++ after)) = trim (part ++ after) := by
    unfold trim
    rw [List.dropWhile_append_of_pos hb]
  rw [hbefore, trim_append ha, trim_eq_self hp.first hp.last]

/-- **Trimming hides nothing** from a search for what has no white space at its ends. -/
theorem infix_trim_iff (hp : Solid part) (text : List Char) :
    part <:+: trim text ↔ part <:+: text := by
  obtain ⟨before, after, heq, hb, ha⟩ := exists_trim_append text
  conv => rhs; rw [heq]
  rw [infix_blanks_append_iff hp hb, infix_append_blanks_iff hp ha]

/-! ## Lower-casing and white space -/

theorem not_caseIgnorable_of_isBlank (h : isBlank c = true) : caseIgnorable.has c = false :=
  CharTable.not_has_of_apart (by decide +kernel) h

theorem not_cased_of_isBlank (h : isBlank c = true) : cased.has c = false :=
  CharTable.not_has_of_apart (by decide +kernel) h

theorem casedAhead_cons (c : Char) (text : List Char) :
    casedAhead (c :: text) = if caseIgnorable.has c then casedAhead text else cased.has c := by
  unfold casedAhead
  rw [List.dropWhile_cons]
  cases caseIgnorable.has c <;> rfl

/-- White space ends a word as the end of the text does. -/
theorem casedAhead_append (h : ∀ c ∈ after.head?, isBlank c = true) (text : List Char) :
    casedAhead (text ++ after) = casedAhead text := by
  induction text with
  | nil =>
    cases after with
    | nil => rfl
    | cons c after =>
      have hc : isBlank c = true := h c rfl
      rw [List.nil_append, casedAhead_cons, not_caseIgnorable_of_isBlank hc,
        not_cased_of_isBlank hc]
      rfl
  | cons c text ih => rw [List.cons_append, casedAhead_cons, casedAhead_cons, ih]

theorem lowerChar_of_isBlank (h : isBlank c = true) : lowerChar c = c := by
  have hapart : ∀ range ∈ whiteSpace, ∀ run ∈ caseRuns,
      range.2 < run.first ∨ run.last < range.1 := by decide +kernel
  have hnone : caseRuns.find? (fun run => run.has c.toNat) = none := by
    rw [List.find?_eq_none]
    intro run hrun hhas
    obtain ⟨range, hrange, hlo, hhi⟩ := CharTable.has_iff.mp h
    simp only [CaseRun.has, Bool.and_eq_true, decide_eq_true_eq] at hhas
    have := hapart range hrange run hrun
    omega
  unfold lowerChar
  rw [hnone]

theorem lowerBetween_of_isBlank (h : isBlank c = true) (before after : List Char) :
    lowerBetween before c after = [c] := by
  have hsigma : c ≠ 'Σ' := by
    rintro rfl
    exact absurd h (by decide)
  have hdotted : c ≠ 'İ' := by
    rintro rfl
    exact absurd h (by decide)
  unfold lowerBetween
  rw [if_neg hsigma, if_neg hdotted, lowerChar_of_isBlank h]

theorem lowerAfter_blanks_append (hb : ∀ c ∈ before, isBlank c = true) (front text : List Char) :
    lowerAfter front (before ++ text) = before ++ lowerAfter (before.reverse ++ front) text := by
  induction before generalizing front with
  | nil => rfl
  | cons c before ih =>
    rw [List.cons_append, lowerAfter, lowerBetween_of_isBlank (hb c List.mem_cons_self),
      ih fun d hd => hb d (List.mem_cons_of_mem c hd)]
    simp

/-- What stands between white space is lower-cased as if it stood alone. -/
theorem lowerAfter_append_blanks {front : List Char} (hf : ∀ c ∈ front.head?, isBlank c = true)
    (ha : ∀ c ∈ after, isBlank c = true) (before text : List Char) :
    lowerAfter (before ++ front) (text ++ after) = lowerAfter before text ++ after := by
  induction text generalizing before with
  | nil =>
    have hblank := lowerAfter_blanks_append ha (before ++ front) []
    rw [List.append_nil] at hblank
    rw [List.nil_append, hblank]
    exact List.append_nil after
  | cons c text ih =>
    have hend : endsWord (before ++ front) (text ++ after) = endsWord before text := by
      unfold endsWord
      rw [casedAhead_append hf, casedAhead_append fun d hd => ha d (List.mem_of_mem_head? hd)]
    have hlower : lowerBetween (before ++ front) c (text ++ after) = lowerBetween before c text := by
      unfold lowerBetween
      rw [hend]
    rw [List.cons_append, lowerAfter, lowerAfter, hlower, List.append_assoc]
    exact congrArg (lowerBetween before c text ++ ·) (ih (c :: before))

/-- White space and what stands between are lower-cased on their own. -/
theorem toLower_between_blanks (hb : ∀ c ∈ before, isBlank c = true)
    (ha : ∀ c ∈ after, isBlank c = true) (text : List Char) :
    toLower (before ++ (text ++ after)) = before ++ (toLower text ++ after) := by
  have hfront : ∀ c ∈ (before.reverse ++ []).head?, isBlank c = true := fun c hc => by
    rw [List.append_nil] at hc
    exact hb c (List.mem_reverse.mp (List.mem_of_mem_head? hc))
  unfold toLower
  rw [lowerAfter_blanks_append hb]
  exact congrArg (before ++ ·) (lowerAfter_append_blanks hfront ha [] text)

/-- The sigma ends its word, with white space behind it as without. -/
example : toLower " ΟΔΟΣ\u3000".toList = " οδος\u3000".toList := by decide +kernel

/-- Trimming hides nothing from a search **in any case**. -/
theorem infix_toLower_trim_iff (hp : Solid part) (text : List Char) :
    part <:+: toLower (trim text) ↔ part <:+: toLower text := by
  obtain ⟨before, after, heq, hb, ha⟩ := exists_trim_append text
  conv => rhs; rw [heq]
  rw [toLower_between_blanks hb ha, infix_blanks_append_iff hp hb, infix_append_blanks_iff hp ha]

end Marc.Text
