import Marc.Proofs.ControlNumber

/-!
# Marks inside of a number

The marks of a control number belong in front of it, but the pass that drops them, the replacement
of `OCLC_PREFIX` in `clean_oclc_number`, looks for them everywhere. So a string that has a mark with
a digit behind it further on loses that one too, and the digits around it come together.

Results:
* `eq_mark_append_unmark_iff`: of which texts the pass drops one mark that they begin with, and
  nothing else.
* `clean_strips_one_mark_iff`: **when cleaning takes off the mark in front and nothing else**, and
  when it takes off nothing at all. `innerMark_dropped`: digits that stood apart can come together.
-/

namespace Marc.ControlNumber

open Text

variable {text rest mark : List Char}

/-- The text is one and the same mark, once or several times, and then a digit and what follows; no
mark in that has a digit behind it. -/
def LeadsWith (mark text : List Char) : Prop :=
  ∃ n rest, text = (List.replicate (n + 1) mark).flatten ++ rest ∧ DigitFirst rest ∧ ¬ Marked rest

theorem leadsWith_mark_append (hd : DigitFirst rest) (hp : ¬ Marked rest) :
    LeadsWith mark (mark ++ rest) :=
  ⟨0, rest, by simp, hd, hp⟩

theorem LeadsWith.mark_append (h : LeadsWith mark text) : LeadsWith mark (mark ++ text) := by
  obtain ⟨n, rest, rfl, hd, hp⟩ := h
  refine ⟨n + 1, rest, ?_, hd, hp⟩
  conv => rhs; rw [List.replicate_succ, List.flatten_cons, List.append_assoc]

/-- Of marks in a row the pass drops the last, which is as good as the first. -/
theorem unmark_replicate_append (hm : mark ∈ marks) (hd : DigitFirst rest) (hp : ¬ Marked rest) :
    ∀ n, unmark ((List.replicate (n + 1) mark).flatten ++ rest) =
      (List.replicate n mark).flatten ++ rest
  | 0 => by
    rw [List.replicate_one, List.flatten_singleton, unmark_mark_append_digit hm hd,
      unmark_eq_self_iff.mpr hp]
    rfl
  | n + 1 => by
    have hnext : ¬ DigitFirst ((List.replicate (n + 1) mark).flatten ++ rest) := by
      rw [List.replicate_succ, List.flatten_cons, List.append_assoc]
      exact not_digitFirst_mark_append hm _
    rw [List.replicate_succ, List.flatten_cons, List.append_assoc, unmark_mark_append hm hnext,
      unmark_replicate_append hm hd hp n, ← List.append_assoc, ← List.flatten_cons,
      ← List.replicate_succ]

/-- Of which texts the pass drops one mark that they begin with, and nothing else. -/
theorem eq_mark_append_unmark_iff (hm : mark ∈ marks) :
    text = mark ++ unmark text ↔ LeadsWith mark text := by
  constructor
  · induction hn : text.length using Nat.strongRecOn generalizing text with
    | ind n ih =>
      intro heq
      generalize hrest : unmark text = rest at heq
      subst heq
      by_cases hd : DigitFirst rest
      · rw [unmark_mark_append_digit hm hd] at hrest
        exact leadsWith_mark_append hd (unmark_eq_self_iff.mp hrest)
      · -- the mark is copied, so what follows it has the same property
        rw [unmark_mark_append hm hd] at hrest
        have hshorter : rest.length < n := by
          have hpos := List.length_pos_iff.mpr (mark_ne_nil mark hm)
          rw [← hn, List.length_append]
          omega
        exact (ih rest.length hshorter rfl hrest.symm).mark_append
  · rintro ⟨n, rest, rfl, hd, hp⟩
    rw [unmark_replicate_append hm hd hp, List.replicate_succ, List.flatten_cons, List.append_assoc]

/-- **When cleaning takes off the mark in front and nothing else**: of a string that is no vendor's
number, exactly if no mark in it has a digit behind it, or only a mark in front, which may stand
there several times. And when it takes off nothing but white space. -/
theorem clean_strips_one_mark_iff {s : String} (hs : ¬ vendorMark <+: s.toList) :
    ((∃ front, trim s.toList = front ++ (clean s).toList ∧ (front = [] ∨ front ∈ marks)) ↔
      ¬ Marked s.toList ∨ ∃ mark ∈ marks, LeadsWith mark (trim s.toList)) ∧
    (clean s = trimmed s ↔ ¬ Marked s.toList) := by
  have hself : unmark (trim s.toList) = trim s.toList ↔ ¬ Marked s.toList := by
    rw [unmark_eq_self_iff, marked_trim_iff]
  refine ⟨?_, ?_⟩
  · rw [toList_clean hs]
    constructor
    · rintro ⟨front, heq, rfl | hm⟩
      · exact .inl (hself.mp heq.symm)
      · have hfront : trim s.toList = front ++ unmark (trim s.toList) := heq
        exact .inr ⟨front, hm, (eq_mark_append_unmark_iff hm).mp hfront⟩
    · rintro (hplain | ⟨mark, hm, hleads⟩)
      · exact ⟨[], (hself.mpr hplain).symm, .inl rfl⟩
      · exact ⟨mark, (eq_mark_append_unmark_iff hm).mpr hleads, .inr hm⟩
  · rw [← String.toList_inj, toList_clean hs, toList_trimmed, hself]

/-- The mark in front goes, and the word behind the number keeps its last letters, as no digit
follows them. -/
theorem clean_strips_one_mark_iff_boston :
    ¬ vendorMark <+: "\u3000ocn12 Boston ".toList ∧
      (∃ mark ∈ marks, LeadsWith mark (trim "\u3000ocn12 Boston ".toList)) ∧
      ∃ front, trim "\u3000ocn12 Boston ".toList = front ++ (clean "\u3000ocn12 Boston ").toList ∧
        (front = [] ∨ front ∈ marks) := by
  have hs : ¬ vendorMark <+: "\u3000ocn12 Boston ".toList := by decide
  have htrim : trim "\u3000ocn12 Boston ".toList = "ocn".toList ++ "12 Boston".toList := by decide
  have hleads : LeadsWith "ocn".toList (trim "\u3000ocn12 Boston ".toList) := by
    rw [htrim]
    exact leadsWith_mark_append (digitFirst_cons.mpr (by decide)) (unmark_eq_self_iff.mp (by decide))
  have hmark : ∃ mark ∈ marks, LeadsWith mark (trim "\u3000ocn12 Boston ".toList) :=
    ⟨"ocn".toList, by decide, hleads⟩
  exact ⟨hs, hmark, (clean_strips_one_mark_iff hs).1.mpr (.inr hmark)⟩

/-- Digits that stood apart can come together, because a mark between them is dropped. -/
theorem innerMark_dropped :
    ¬ ∀ s : String, ¬ vendorMark <+: s.toList →
      ∃ front, trim s.toList = front ++ (clean s).toList ∧ (front = [] ∨ front ∈ marks) := by
  intro h
  have hs : ¬ vendorMark <+: "12 on34".toList := by decide
  obtain ⟨front, heq, rfl | hm⟩ := h "12 on34" hs
  · exact absurd heq (by decide)
  · simp only [marks, List.mem_cons, List.not_mem_nil, or_false] at hm
    rcases hm with rfl | rfl | rfl | rfl <;> exact absurd heq (by decide)

end Marc.ControlNumber
