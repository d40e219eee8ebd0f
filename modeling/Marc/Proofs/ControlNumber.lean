import Marc.Bibliographic
import Marc.Proofs.Text.Search
import Mathlib.Data.List.Infix

/-!
# Marks in front of digits

A control number is cleaned (`clean_oclc_number`) in one pass over the text. Wherever a mark with a
digit behind it comes up, the pass goes on at the digit; every other character is copied.

Results:
* `marks_apart`: no mark begins inside of another one.
* `Opens.unmark_eq`, `unmark_cons`: one step of the pass; `unmark_ind`: induction along it.
* `unmark_eq_self_iff`: the pass leaves a text alone exactly if no mark in it has a digit behind.
* `unmark_mark_append`: a mark without a digit behind it is copied.
* `exists_of_unmark_eq_append`: what the pass copied that is no digit stood in one piece.
* `unmark_trim`: **trimming first or last** makes no difference.
-/

namespace Marc.ControlNumber

open Text

variable {text rest tail after out space mark part : List Char} {c : Char}

/-! ## The marks -/

/-- No mark begins inside of another one, nor in front of it. -/
theorem marks_apart : ∀ mark ∈ marks, ∀ part ∈ mark.tails, part ≠ [] → ∀ other ∈ marks,
    part <+: other ∨ other <+: part → part = other := by decide

theorem mark_ne_nil : ∀ mark ∈ marks, mark ≠ [] := by decide

theorem not_isBlank_of_mem_mark : ∀ mark ∈ marks, ∀ c ∈ mark, isBlank c = false := by
  have hnone : ∀ mark ∈ marks, mark.any isBlank = false := by decide
  exact fun mark hm c hc => Bool.eq_false_iff.mpr (List.any_eq_false.mp (hnone mark hm) c hc)

theorem not_isDecimalDigit_of_mem_mark : ∀ mark ∈ marks, ∀ c ∈ mark, isDecimalDigit c = false := by
  have hnone : ∀ mark ∈ marks, mark.any isDecimalDigit = false := by decide
  exact fun mark hm c hc => Bool.eq_false_iff.mpr (List.any_eq_false.mp (hnone mark hm) c hc)

/-- The text begins with a digit. -/
def DigitFirst (text : List Char) : Prop := ∃ c ∈ text.head?, isDecimalDigit c = true

theorem digitFirst_cons : DigitFirst (c :: tail) ↔ isDecimalDigit c = true := by
  simp [DigitFirst]

theorem DigitFirst.exists_cons (h : DigitFirst text) :
    ∃ c tail, text = c :: tail ∧ isDecimalDigit c = true := by
  obtain ⟨c, hc, hdigit⟩ := h
  obtain ⟨tail, rfl⟩ := List.head?_eq_some_iff.mp hc
  exact ⟨c, tail, rfl, hdigit⟩

theorem not_isBlank_of_isDecimalDigit (hc : isDecimalDigit c = true) : isBlank c = false :=
  Bool.eq_false_iff.mpr fun hb => by simp [not_isDecimalDigit_of_isBlank hb] at hc

theorem DigitFirst.dropWhile_eq (h : DigitFirst text) : text.dropWhile isBlank = text := by
  obtain ⟨c, tail, rfl, hc⟩ := h.exists_cons
  exact List.dropWhile_cons_of_neg (by simp [not_isBlank_of_isDecimalDigit hc])

theorem not_digitFirst_mark_append (hm : mark ∈ marks) (rest : List Char) :
    ¬ DigitFirst (mark ++ rest) := by
  obtain ⟨c, tail, rfl⟩ := List.exists_cons_of_ne_nil (mark_ne_nil mark hm)
  rw [List.cons_append, digitFirst_cons,
    not_isDecimalDigit_of_mem_mark _ hm c List.mem_cons_self]
  exact Bool.false_ne_true

/-- The text begins with a mark that has a digit behind it; white space may come before the mark. -/
structure Opens (text space mark rest : List Char) : Prop where
  eq : text = space ++ (mark ++ rest)
  blank : ∀ c ∈ space, isBlank c = true
  mem : mark ∈ marks
  digit : DigitFirst rest

/-- A mark is dropped at the start of the text. -/
def Opened (text : List Char) : Prop := ∃ space mark rest, Opens text space mark rest

theorem Opens.space_eq_nil (h : Opens text space mark rest)
    (hc : ∀ c ∈ text.head?, isBlank c = false) : space = [] := by
  cases space with
  | nil => rfl
  | cons d space =>
    have hhead : d ∈ text.head? := by
      rw [h.eq]
      rfl
    exact absurd (h.blank d List.mem_cons_self) (by simp [hc d hhead])

theorem Opens.length_lt (h : Opens text space mark rest) : rest.length < text.length := by
  have hmark := List.length_pos_iff.mpr (mark_ne_nil mark h.mem)
  rw [h.eq, List.length_append, List.length_append]
  omega

theorem Opens.suffix (h : Opens text space mark rest) : rest <:+ text := by
  rw [h.eq]
  exact (List.suffix_append mark rest).trans (List.suffix_append space (mark ++ rest))

theorem Opens.append (h : Opens text space mark rest) (after : List Char) :
    Opens (text ++ after) space mark (rest ++ after) := by
  obtain ⟨c, tail, rfl, hc⟩ := h.digit.exists_cons
  refine ⟨?_, h.blank, h.mem, digitFirst_cons.mpr hc⟩
  rw [h.eq, List.append_assoc, List.append_assoc]

/-! ## One step -/

theorem not_isBlank_of_head?_mark (hm : mark ∈ marks) (rest : List Char) :
    ∀ c ∈ (mark ++ rest).head?, isBlank c = false := by
  intro c hc
  rw [List.head?_append_of_ne_nil mark (mark_ne_nil mark hm)] at hc
  exact not_isBlank_of_mem_mark mark hm c (List.mem_of_mem_head? hc)

/-- The white space in front of the mark is all that there is. -/
theorem Opens.span (h : Opens text space mark rest) :
    text.takeWhile isBlank = space ∧ text.dropWhile isBlank = mark ++ rest := by
  obtain ⟨c, tail, hcons⟩ := List.exists_cons_of_ne_nil
    (List.append_ne_nil_of_left_ne_nil (mark_ne_nil mark h.mem) rest)
  have hc : ¬ isBlank c = true := by
    simp [not_isBlank_of_head?_mark h.mem rest c (by rw [hcons]; rfl)]
  rw [h.eq, hcons, List.takeWhile_append_of_pos h.blank, List.dropWhile_append_of_pos h.blank,
    List.takeWhile_cons_of_neg hc, List.dropWhile_cons_of_neg hc, List.append_nil]
  exact ⟨rfl, rfl⟩

theorem beginsWith_iff :
    beginsWith text mark = true ↔ ∃ rest, text = mark ++ rest ∧ DigitFirst rest := by
  unfold beginsWith DigitFirst
  rw [Bool.and_eq_true, List.isPrefixOf_iff_prefix, Option.any_eq_true]
  constructor
  · rintro ⟨⟨rest, rfl⟩, hdigit⟩
    rw [List.drop_left] at hdigit
    exact ⟨rest, rfl, hdigit⟩
  · rintro ⟨rest, rfl, hdigit⟩
    rw [List.drop_left]
    exact ⟨List.prefix_append mark rest, hdigit⟩

theorem exists_opens {n : Nat} (h : markLength? text = some n) :
    ∃ space mark rest, Opens text space mark rest ∧ n = space.length + mark.length := by
  obtain ⟨mark, hfind, rfl⟩ := Option.map_eq_some_iff.mp h
  obtain ⟨rest, heq, hdigit⟩ := beginsWith_iff.mp (List.find?_some hfind)
  refine ⟨text.takeWhile isBlank, mark, rest,
    ⟨?_, ?_, List.mem_of_find?_eq_some hfind, hdigit⟩, rfl⟩
  · rw [← heq, List.takeWhile_append_dropWhile]
  · exact fun _ hc => List.mem_takeWhile_imp hc

theorem Opens.markLength?_eq (h : Opens text space mark rest) :
    markLength? text = some (space.length + mark.length) := by
  obtain ⟨htake, hdrop⟩ := h.span
  have hbegins : beginsWith (mark ++ rest) mark = true := beginsWith_iff.mpr ⟨rest, rfl, h.digit⟩
  have hfind : marks.find? (beginsWith (mark ++ rest)) = some mark := by
    obtain ⟨other, hother⟩ := Option.isSome_iff_exists.mp
      (List.find?_isSome.mpr ⟨mark, h.mem, hbegins⟩)
    obtain ⟨rest', heq, -⟩ := beginsWith_iff.mp (List.find?_some hother)
    -- of the marks that begin the same text, each is the start of another one
    have hcomparable := List.prefix_or_prefix_of_prefix (List.prefix_append mark rest)
      (heq ▸ List.prefix_append other rest')
    rw [hother, marks_apart mark h.mem mark ((List.mem_tails mark mark).mpr List.suffix_rfl)
      (mark_ne_nil mark h.mem) other (List.mem_of_find?_eq_some hother) hcomparable]
  unfold markLength?
  rw [htake, hdrop, hfind]
  rfl

theorem unmarkAfter_eq : ∀ (n : Nat) (text : List Char), unmarkAfter n text = unmark (text.drop n)
  | 0, text => rfl
  | n + 1, [] => by simp [unmarkAfter, unmark]
  | n + 1, c :: rest => by rw [unmarkAfter, unmarkAfter_eq, List.drop_succ_cons]

/-- Where the text begins with a mark, the pass goes on behind it. -/
theorem Opens.unmark_eq (h : Opens text space mark rest) : unmark text = unmark rest := by
  have hlength := h.markLength?_eq
  have hpos := List.length_pos_iff.mpr (mark_ne_nil mark h.mem)
  have hdrop : text.drop (space.length + mark.length) = rest := by
    rw [h.eq, ← List.append_assoc, ← List.length_append, List.drop_left]
  cases text with
  | nil => exact absurd h.length_lt (Nat.not_lt_zero _)
  | cons c tail =>
    have hstep : unmark (c :: tail) = unmarkAfter (space.length + mark.length - 1) tail := by
      rw [unmark, unmarkAfter, hlength]
    rw [hstep, unmarkAfter_eq, ← hdrop]
    congr 1
    rw [show space.length + mark.length = space.length + mark.length - 1 + 1 by omega,
      List.drop_succ_cons, Nat.add_sub_cancel]

theorem unmark_mark_append_digit (hm : mark ∈ marks) (hd : DigitFirst rest) :
    unmark (mark ++ rest) = unmark rest := by
  have hopens : Opens (mark ++ rest) [] mark rest := ⟨rfl, nofun, hm, hd⟩
  exact hopens.unmark_eq

/-- Any other character is copied. -/
theorem unmark_cons (h : ¬ Opened (c :: tail)) : unmark (c :: tail) = c :: unmark tail := by
  have hnone : markLength? (c :: tail) = none := by
    rw [Option.eq_none_iff_forall_ne_some]
    intro n hn
    obtain ⟨space, mark, rest, hopens, -⟩ := exists_opens hn
    exact h ⟨space, mark, rest, hopens⟩
  rw [unmark, unmarkAfter, hnone]
  rfl

/-- Induction along the pass: a mark is passed over as a whole. -/
theorem unmark_ind {P : List Char → Prop} (nil : P [])
    (drop : ∀ text space mark rest, Opens text space mark rest → P rest → P text)
    (copy : ∀ c tail, ¬ Opened (c :: tail) → P tail → P (c :: tail)) (text : List Char) :
    P text := by
  induction hn : text.length using Nat.strongRecOn generalizing text with
  | ind n ih =>
    subst hn
    by_cases hopened : Opened text
    · obtain ⟨space, mark, rest, hopens⟩ := hopened
      exact drop text space mark rest hopens (ih rest.length hopens.length_lt rest rfl)
    · cases text with
      | nil => exact nil
      | cons c tail => exact copy c tail hopened (ih tail.length (Nat.lt_succ_self _) tail rfl)

/-! ## Digits -/

theorem not_opened_of_digit (hc : isDecimalDigit c = true) (tail : List Char) :
    ¬ Opened (c :: tail) := by
  rintro ⟨space, mark, rest, hopens⟩
  have hblank := not_isBlank_of_isDecimalDigit hc
  obtain rfl := hopens.space_eq_nil fun d hd => Option.some.inj hd ▸ hblank
  have heq : c :: tail = mark ++ rest := hopens.eq
  exact not_digitFirst_mark_append hopens.mem rest (heq ▸ digitFirst_cons.mpr hc)

theorem unmark_cons_of_digit (hc : isDecimalDigit c = true) (tail : List Char) :
    unmark (c :: tail) = c :: unmark tail := unmark_cons (not_opened_of_digit hc tail)

theorem DigitFirst.unmark (h : DigitFirst text) : DigitFirst (unmark text) := by
  obtain ⟨c, tail, rfl, hc⟩ := h.exists_cons
  rw [unmark_cons_of_digit hc]
  exact digitFirst_cons.mpr hc

/-- Marks are dropped in front of digits, so what is not a digit was copied from the start. -/
theorem exists_of_unmark_eq_cons (h : unmark text = c :: out) (hc : isDecimalDigit c = false) :
    ∃ tail, text = c :: tail ∧ unmark tail = out := by
  by_cases hopened : Opened text
  · obtain ⟨space, mark, rest, hopens⟩ := hopened
    have hdigit := hopens.digit.unmark
    rw [← hopens.unmark_eq, h, digitFirst_cons, hc] at hdigit
    exact absurd hdigit Bool.false_ne_true
  · cases text with
    | nil => exact nomatch h
    | cons d tail =>
      rw [unmark_cons hopened, List.cons.injEq] at h
      obtain ⟨rfl, hout⟩ := h
      exact ⟨tail, rfl, hout⟩

/-- What the pass copied that is no digit stood in the text in one piece. -/
theorem exists_of_unmark_eq_append (h : unmark text = part ++ out)
    (hp : ∀ c ∈ part, isDecimalDigit c = false) :
    ∃ tail, text = part ++ tail ∧ unmark tail = out := by
  induction part generalizing text with
  | nil => exact ⟨text, rfl, h⟩
  | cons c part ih =>
    obtain ⟨tail, rfl, htail⟩ := exists_of_unmark_eq_cons h (hp c List.mem_cons_self)
    obtain ⟨rest, rfl, hrest⟩ := ih htail fun d hd => hp d (List.mem_cons_of_mem c hd)
    exact ⟨rest, rfl, hrest⟩

/-- Where the result is cut, the text can be cut. -/
theorem exists_suffix_of_unmark_eq_append (h : unmark text = part ++ out) :
    ∃ tail, tail <:+ text ∧ unmark tail = out := by
  induction text using unmark_ind generalizing part with
  | nil =>
    obtain ⟨rfl, rfl⟩ := List.append_eq_nil_iff.mp h.symm
    exact ⟨[], List.suffix_rfl, rfl⟩
  | drop text space mark rest hopens ih =>
    rw [hopens.unmark_eq] at h
    obtain ⟨tail, htail, hout⟩ := ih h
    exact ⟨tail, htail.trans hopens.suffix, hout⟩
  | copy c tail hopened ih =>
    cases part with
    | nil => exact ⟨c :: tail, List.suffix_rfl, h⟩
    | cons d part =>
      rw [unmark_cons hopened] at h
      obtain ⟨rest, hrest, hout⟩ := ih (List.tail_eq_of_cons_eq h)
      exact ⟨rest, hrest.trans (List.suffix_cons c tail), hout⟩

/-! ## Marks in front of digits -/

/-- A mark in the text has a digit behind it. -/
def Marked (text : List Char) : Prop :=
  ∃ mark ∈ marks, ∃ c, isDecimalDigit c = true ∧ mark ++ [c] <:+: text

theorem solid_mark_concat (hm : mark ∈ marks) (hc : isDecimalDigit c = true) :
    Solid (mark ++ [c]) where
  ne_nil := by simp
  first := not_isBlank_of_head?_mark hm [c]
  last := by
    intro d hd
    rw [List.getLast?_concat] at hd
    exact Option.some.inj hd ▸ not_isBlank_of_isDecimalDigit hc

theorem marked_trim_iff (text : List Char) : Marked (trim text) ↔ Marked text := by
  unfold Marked
  refine exists_congr fun mark => and_congr_right fun hm => exists_congr fun c =>
    and_congr_right fun hc => ?_
  exact infix_trim_iff (solid_mark_concat hm hc) text

theorem Opens.marked (h : Opens text space mark rest) : Marked text := by
  obtain ⟨c, tail, rfl, hc⟩ := h.digit.exists_cons
  refine ⟨mark, h.mem, c, hc, space, tail, ?_⟩
  rw [h.eq]
  simp

theorem marked_cons (h : ¬ Opened (c :: tail)) : Marked (c :: tail) ↔ Marked tail := by
  unfold Marked
  refine exists_congr fun mark => and_congr_right fun hm => exists_congr fun d =>
    and_congr_right fun hd => ?_
  rw [List.infix_cons_iff]
  refine or_iff_right fun hstart => h ?_
  obtain ⟨rest, heq⟩ := hstart
  refine ⟨[], mark, d :: rest, ?_, nofun, hm, digitFirst_cons.mpr hd⟩
  rw [← heq]
  simp

theorem length_unmark_le (text : List Char) : (unmark text).length ≤ text.length := by
  induction text using unmark_ind with
  | nil => exact Nat.le_refl _
  | drop text space mark rest hopens ih =>
    rw [hopens.unmark_eq]
    exact Nat.le_trans ih (Nat.le_of_lt hopens.length_lt)
  | copy c tail hopened ih =>
    rw [unmark_cons hopened]
    exact Nat.succ_le_succ ih

/-- The pass leaves a text alone exactly if no mark in it has a digit behind. -/
theorem unmark_eq_self_iff : unmark text = text ↔ ¬ Marked text := by
  induction text using unmark_ind with
  | nil => exact iff_of_true rfl fun ⟨mark, _, c, _, hheld⟩ => by simp at hheld
  | drop text space mark rest hopens ih =>
    refine iff_of_false (fun heq => ?_) fun hplain => hplain hopens.marked
    have hle := length_unmark_le rest
    rw [← hopens.unmark_eq, heq] at hle
    exact absurd hopens.length_lt (Nat.not_lt.mpr hle)
  | copy c tail hopened ih =>
    rw [unmark_cons hopened, marked_cons hopened, ← ih, List.cons_inj_right]

/-! ## Marks without a digit behind -/

theorem not_opened_of_suffix (hm : mark ∈ marks) (hs : part <:+ mark) (hne : part ≠ [])
    (hr : ¬ DigitFirst rest) : ¬ Opened (part ++ rest) := by
  rintro ⟨space, other, tail, hopens⟩
  have hvisible : ∀ c ∈ (part ++ rest).head?, isBlank c = false := by
    intro c hc
    rw [List.head?_append_of_ne_nil part hne] at hc
    exact not_isBlank_of_mem_mark mark hm c (hs.subset (List.mem_of_mem_head? hc))
  obtain rfl := hopens.space_eq_nil hvisible
  have heq : part ++ rest = other ++ tail := hopens.eq
  have hcomparable := List.prefix_or_prefix_of_prefix (List.prefix_append part rest)
    (heq ▸ List.prefix_append other tail)
  obtain rfl := marks_apart mark hm part ((List.mem_tails part mark).mpr hs) hne other hopens.mem
    hcomparable
  exact hr (List.append_cancel_left heq ▸ hopens.digit)

/-- A mark without a digit behind it is copied. -/
theorem unmark_mark_append (hm : mark ∈ marks) (hr : ¬ DigitFirst rest) :
    unmark (mark ++ rest) = mark ++ unmark rest := by
  suffices ∀ part, part <:+ mark → unmark (part ++ rest) = part ++ unmark rest from
    this mark List.suffix_rfl
  intro part
  induction part with
  | nil => exact fun _ => rfl
  | cons c part ih =>
    intro hs
    have hopened : ¬ Opened (c :: (part ++ rest)) :=
      not_opened_of_suffix hm hs (List.cons_ne_nil c part) hr
    rw [List.cons_append, unmark_cons hopened, ih ((List.suffix_cons c part).trans hs)]
    rfl

/-! ## White space -/

theorem unmark_dropWhile (text : List Char) :
    unmark (text.dropWhile isBlank) = (unmark text).dropWhile isBlank := by
  induction text using unmark_ind with
  | nil => rfl
  | drop text space mark rest hopens ih =>
    rw [hopens.span.2, unmark_mark_append_digit hopens.mem hopens.digit, hopens.unmark_eq,
      hopens.digit.unmark.dropWhile_eq]
  | copy c tail hopened ih =>
    rw [unmark_cons hopened]
    by_cases hc : isBlank c = true
    · rw [List.dropWhile_cons_of_pos hc, List.dropWhile_cons_of_pos hc, ih]
    · rw [List.dropWhile_cons_of_neg hc, List.dropWhile_cons_of_neg hc, unmark_cons hopened]

/-- White space at the end brings no digit behind a mark. -/
theorem Opened.of_append_blanks (h : Opened (text ++ after)) (ha : ∀ c ∈ after, isBlank c = true) :
    Opened text := by
  obtain ⟨space, mark, rest, hopens⟩ := h
  obtain ⟨c, tail, rfl, hc⟩ := hopens.digit.exists_cons
  have heq : text ++ after = (space ++ (mark ++ [c])) ++ tail := by
    rw [hopens.eq]
    simp
  rcases List.append_eq_append_iff.mp heq with ⟨inner, hinner, rfl⟩ | ⟨inner, rfl, -⟩
  · have hnil : inner = [] := by
      by_contra hne
      have hlast : c ∈ inner.getLast? := by
        rw [← List.getLast?_append_of_ne_nil text hne, ← hinner]
        simp
      have hblank := ha c (List.mem_append_left tail (List.mem_of_mem_getLast? hlast))
      simp [not_isBlank_of_isDecimalDigit hc] at hblank
    rw [hnil, List.append_nil] at hinner
    exact ⟨space, mark, [c], hinner.symm, hopens.blank, hopens.mem, digitFirst_cons.mpr hc⟩
  · refine ⟨space, mark, c :: inner, ?_, hopens.blank, hopens.mem, digitFirst_cons.mpr hc⟩
    simp

theorem unmark_append_blanks (ha : ∀ c ∈ after, isBlank c = true) (text : List Char) :
    unmark (text ++ after) = unmark text ++ after := by
  induction text using unmark_ind with
  | nil =>
    refine unmark_eq_self_iff.mpr ?_
    rintro ⟨mark, -, c, hc, hheld⟩
    have hblank := ha c (hheld.subset (by simp))
    simp [not_isBlank_of_isDecimalDigit hc] at hblank
  | drop text space mark rest hopens ih =>
    rw [(hopens.append after).unmark_eq, hopens.unmark_eq, ih]
  | copy c tail hopened ih =>
    have hnone : ¬ Opened (c :: (tail ++ after)) := fun h => hopened (h.of_append_blanks ha)
    rw [unmark_cons hopened, List.cons_append, unmark_cons hnone, ih]
    rfl

/-- Marks stand before digits, so the pass copies the last character. -/
theorem getLast?_unmark (text : List Char) : (unmark text).getLast? = text.getLast? := by
  induction text using unmark_ind with
  | nil => rfl
  | drop text space mark rest hopens ih =>
    obtain ⟨c, tail, hcons, -⟩ := hopens.digit.exists_cons
    have hne : rest ≠ [] := hcons ▸ List.cons_ne_nil c tail
    rw [hopens.unmark_eq, ih, hopens.eq,
      List.getLast?_append_of_ne_nil _ (List.append_ne_nil_of_right_ne_nil mark hne),
      List.getLast?_append_of_ne_nil mark hne]
  | copy c tail hopened ih => rw [unmark_cons hopened, List.getLast?_cons, List.getLast?_cons, ih]

theorem unmark_dropEndWhile (text : List Char) :
    unmark (dropEndWhile isBlank text) = dropEndWhile isBlank (unmark text) := by
  have hrun : ∀ c ∈ text.rtakeWhile isBlank, isBlank c = true :=
    fun _ hc => List.mem_rtakeWhile_imp hc
  calc
    unmark (dropEndWhile isBlank text)
      = dropEndWhile isBlank (unmark (dropEndWhile isBlank text)) := by
        refine (dropEndWhile_eq_self fun c hc => ?_).symm
        rw [getLast?_unmark] at hc
        exact getLast_dropEndWhile hc
    _ = dropEndWhile isBlank (unmark (dropEndWhile isBlank text) ++ text.rtakeWhile isBlank) :=
        (congrArg List.reverse (dropWhile_reverse_append hrun _)).symm
    _ = dropEndWhile isBlank (unmark text) := by
        rw [← unmark_append_blanks hrun, dropEndWhile_eq_rdropWhile isBlank text,
          List.rdropWhile_append_rtakeWhile]

/-- **Trimming first or last** makes no difference to the pass. -/
theorem unmark_trim (text : List Char) : unmark (trim text) = trim (unmark text) := by
  unfold trim
  rw [unmark_dropEndWhile, unmark_dropWhile]

/-! ## Cleaning -/

theorem clean_of_vendor {s : String} (h : vendorMark <+: s.toList) : clean s = "" :=
  if_pos (List.isPrefixOf_iff_prefix.mpr h)

theorem toList_clean {s : String} (h : ¬ vendorMark <+: s.toList) :
    (clean s).toList = unmark (trim s.toList) := by
  have hnone : ¬ vendorMark.isPrefixOf s.toList = true := fun hp =>
    h (List.isPrefixOf_iff_prefix.mp hp)
  unfold clean
  rw [if_neg hnone, String.toList_ofList, unmark_trim]

end Marc.ControlNumber
