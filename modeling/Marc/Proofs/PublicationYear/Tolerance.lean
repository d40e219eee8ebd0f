import Marc.Proofs.PublicationYear
import Mathlib.Data.List.Pairwise

/-!
# How wide a range the tolerance lets through

The tolerance of `infer_year` is meant as the widest range of years that is replaced by its middle.
For two dates of type `q` the range is measured. For a single date the unknown digits are counted
instead, and ten to their number is the width of the range only if they stand at the end: `19uu`
means a hundred years in a row, but `19u5` means ten years that spread over ninety.

Results:
* `spread_of_unknownLast`, `choices_le_spread_of_not_unknownLast`: the width of the range against
  the number of years.
* `forall_spread_le_iff`: **which dates the tolerance bounds**.
* `width_le_tolerance_iff`: the same of field 008. `unknownDecade_exceeds_tolerance`: a range six
  times as wide as the tolerance can be let through.
* `year_kept_of_le`: **a wider tolerance keeps the year** that a narrower one gives.
-/

namespace Marc.Dates

open Text

variable {dates : Dates} {field008 : String} {date first second : List Char}
  {tolerance wider year : Int}

/-! ## Unknown digits at the end -/

/-- No known digit stands behind an unknown one. -/
def UnknownLast (date : List Char) : Prop :=
  date.Pairwise fun c d => c = unknown → d = unknown

instance : DecidablePred UnknownLast := fun date =>
  inferInstanceAs (Decidable (date.Pairwise fun c d => c = unknown → d = unknown))

theorem unknownLast_cons {c : Char} {rest : List Char} :
    UnknownLast (c :: rest) ↔ (c = unknown → ∀ d ∈ rest, d = unknown) ∧ UnknownLast rest := by
  unfold UnknownLast
  rw [List.pairwise_cons]
  exact and_congr_left fun _ => ⟨fun h hc d hd => h d hd hc, fun h d hd hc => h hc d hd⟩

theorem unknownLast_of_not_mem (h : unknown ∉ date) : UnknownLast date :=
  List.pairwise_of_forall_mem_list fun _ hc _ _ heq => absurd (heq ▸ hc) h

theorem unknownLast_of_forall (h : ∀ c ∈ date, c = unknown) : UnknownLast date :=
  List.pairwise_of_forall_mem_list fun _ _ d hd _ => h d hd

theorem choices_of_forall (h : ∀ c ∈ date, c = unknown) : choices date = 10 ^ date.length := by
  rw [choices_eq_pow, List.count_eq_length.mpr fun c hc => (h c hc).symm]

/-- If the unknown digits stand at the end, the years that a date may mean follow one another. -/
theorem spread_of_unknownLast (h : UnknownLast date) : (spread date : Int) + 1 = choices date := by
  induction date with
  | nil => rfl
  | cons c rest ih =>
    rw [unknownLast_cons] at h
    have hrest := ih h.2
    rw [spread, choices]
    split
    · rename_i hc
      have hall := choices_of_forall (h.1 hc)
      push_cast
      omega
    · exact hrest

/-- If they do not, there are gaps between the years: the range is nine times as wide at least. -/
theorem choices_le_spread_of_not_unknownLast (h : ¬ UnknownLast date) :
    9 * choices date ≤ spread date := by
  induction date with
  | nil => exact absurd List.Pairwise.nil h
  | cons c rest ih =>
    rw [unknownLast_cons] at h
    rw [spread, choices]
    split
    · rename_i hc
      -- a known digit stands behind this unknown one, since all unknown would be at the end
      obtain ⟨d, hd, hne⟩ : ∃ d ∈ rest, d ≠ unknown := by
        by_contra hall
        push Not at hall
        exact h ⟨fun _ => hall, unknownLast_of_forall hall⟩
      have hplaces := choices_of_known hd hne
      push_cast
      omega
    · rename_i hc
      exact ih fun hrest => h ⟨fun heq => absurd heq hc, hrest⟩

/-! ## What the tolerance bounds -/

/-- **Which dates the tolerance bounds**: those that give no year at all, and those whose unknown
digits stand at the end. -/
theorem forall_spread_le_iff :
    (∀ tolerance year : Int, 0 ≤ tolerance → yearOf? tolerance date = some year →
        (spread date : Int) ≤ tolerance) ↔
      earliest date = 0 ∨ UnknownLast date := by
  constructor
  · intro h
    by_contra hneither
    push Not at hneither
    obtain ⟨hdated, hnot⟩ := hneither
    have hmem : unknown ∈ date := by
      by_contra hknown
      exact hnot (unknownLast_of_not_mem hknown)
    have hpos := choices_pos date
    have hwide := choices_le_spread_of_not_unknownLast hnot
    -- the least tolerance that lets the date through is too small for its range
    have hle := h (choices date) _ hpos.le
      (yearOf?_eq_some_iff.mpr ⟨hdated, .inr ⟨hmem, le_refl _, rfl⟩⟩)
    omega
  · rintro (hzero | hlast) tolerance year hnonneg hyear
    · exact absurd hzero (yearOf?_eq_some_iff.mp hyear).1
    · have hspread := spread_of_unknownLast hlast
      obtain ⟨-, ⟨hknown, -⟩ | ⟨-, hclose, -⟩⟩ := yearOf?_eq_some_iff.mp hyear
      · rw [choices_eq_one_iff.mpr hknown] at hspread
        omega
      · omega

/-- How far apart the latest and the earliest year are that the dates leave open. -/
def width (dates : Dates) : Int :=
  if dates.kind = 'q' then latest dates.second - earliest dates.first
  else latest dates.chosen - earliest dates.chosen

/-- **When the tolerance bounds the range that is replaced by its middle.** Of two dates of type `q`
it always does. Of other types it does exactly if the date that counts gives no year, or has its
unknown digits at the end. -/
theorem width_le_tolerance_iff (hin : dates.StandsIn field008) (hfirst : Legible dates.first)
    (hsecond : Legible dates.second) (hkind : dates.kind ≠ 'n') :
    (∀ tolerance year : Int, 0 ≤ tolerance → yearOf008? field008 tolerance = some year →
        dates.width ≤ tolerance) ↔
      dates.kind = 'q' ∨ earliest dates.chosen = 0 ∨ UnknownLast dates.chosen := by
  unfold width
  simp only [hin.yearOf008?_eq, year?_eq_some_iff]
  by_cases hq : dates.kind = 'q'
  · simp only [hq, if_true, true_or, iff_true, ne_eq]
    rintro tolerance year - ⟨-, hmiddle, -⟩
    exact (middle?_eq_some_iff.mp (hmiddle trivial)).2.1
  · have hspread := (chosen_ind hfirst hsecond : Legible dates.chosen).latest_eq
    simp only [hq, if_false, false_or, false_implies, true_and, ne_eq, not_false_eq_true, hkind,
      true_implies]
    rw [← forall_spread_le_iff, hspread, add_sub_cancel_left]

/-- A century of which no decade is known: a hundred years in a row. -/
theorem width_le_tolerance_century :
    Dates.StandsIn ⟨'s', "19uu".toList, "9999".toList⟩ "061108s19uu9999nyuar" ∧
      Legible "19uu".toList ∧ Legible "9999".toList ∧ 's' ≠ 'n' ∧
      yearOf008? "061108s19uu9999nyuar" 100 = some 1950 ∧
      width ⟨'s', "19uu".toList, "9999".toList⟩ ≤ 100 := by
  have hin : Dates.StandsIn ⟨'s', "19uu".toList, "9999".toList⟩ "061108s19uu9999nyuar" :=
    ⟨"061108".toList, "nyuar".toList, by decide⟩
  have hfirst : Legible "19uu".toList := by decide
  have hsecond : Legible "9999".toList := by decide
  have hyear : yearOf008? "061108s19uu9999nyuar" 100 = some 1950 := by decide
  have hlast : UnknownLast "19uu".toList := by decide
  have hbound := (width_le_tolerance_iff hin hfirst hsecond (by decide)).mpr (.inr (.inr hlast))
  exact ⟨hin, hfirst, hsecond, by decide, hyear, hbound 100 1950 (by decide) hyear⟩

/-- The tolerance does not bound the range of every date: `19u5` is one of ten years, and the first
and the last of them are ninety years apart. -/
theorem unknownDecade_exceeds_tolerance :
    ¬ ∀ (field008 : String) (dates : Dates) (tolerance year : Int), dates.StandsIn field008 →
      Legible dates.first → Legible dates.second → dates.kind ≠ 'n' → 0 ≤ tolerance →
      yearOf008? field008 tolerance = some year → dates.width ≤ tolerance := by
  intro h
  have hin : Dates.StandsIn ⟨'s', "19u5".toList, "1999".toList⟩ "061108s19u51999" :=
    ⟨"061108".toList, [], by decide⟩
  have hbound := h _ _ 15 1910 hin (by decide) (by decide) (by decide) (by decide) (by decide)
  exact absurd hbound (by decide)

/-! ## A wider tolerance

Each rule compares the tolerance with what the dates leave open, and makes the year of the dates
alone. -/

theorem middle?_of_le (hle : tolerance ≤ wider)
    (h : middle? tolerance first second = some year) :
    middle? wider first second = some year := by
  obtain ⟨hapart, hclose, hyear⟩ := middle?_eq_some_iff.mp h
  exact middle?_eq_some_iff.mpr ⟨hapart, hclose.trans hle, hyear⟩

theorem yearOf?_of_le (hle : tolerance ≤ wider) (h : yearOf? tolerance date = some year) :
    yearOf? wider date = some year := by
  obtain ⟨hdated, hyear⟩ := yearOf?_eq_some_iff.mp h
  refine yearOf?_eq_some_iff.mpr ⟨hdated, ?_⟩
  rcases hyear with hknown | ⟨hguess, hclose, hyear⟩
  · exact .inl hknown
  · exact .inr ⟨hguess, hclose.trans hle, hyear⟩

theorem year?_of_le (hle : tolerance ≤ wider) (h : dates.year? tolerance = some year) :
    dates.year? wider = some year := by
  obtain ⟨hn, hmiddle, hsingle⟩ := year?_eq_some_iff.mp h
  exact year?_eq_some_iff.mpr
    ⟨hn, fun hq => middle?_of_le hle (hmiddle hq), fun hq => yearOf?_of_le hle (hsingle hq)⟩

/-- **A wider tolerance keeps the year** that a narrower one gives, for any text. -/
theorem year_kept_of_le (hle : tolerance ≤ wider)
    (h : yearOf008? field008 tolerance = some year) : yearOf008? field008 wider = some year := by
  obtain ⟨dates, hread, hyear⟩ := yearOf008?_eq_some_iff.mp h
  exact yearOf008?_eq_some_iff.mpr ⟨dates, hread, year?_of_le hle hyear⟩

/-- Two dates of type `q` that are thirty years apart. -/
theorem year_kept_of_le_thirty :
    (30 : Int) ≤ 100 ∧ yearOf008? "061108q19501980nyuar" 30 = some 1965 ∧
      yearOf008? "061108q19501980nyuar" 100 = some 1965 := by
  have hyear : yearOf008? "061108q19501980nyuar" 30 = some 1965 := by decide
  exact ⟨by decide, hyear, year_kept_of_le (by decide) hyear⟩

end Marc.Dates
