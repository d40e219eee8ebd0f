import Marc.Proofs.Text.Basic
import Marc.PublicationYear
import Mathlib.Algebra.Order.Ring.Int
import Mathlib.Tactic.SplitIfs

/-!
# The years that a date may mean

A date in which some digits are not known means any year between the one with zeros and the one with
nines in the unknown places. How far these two are apart depends on the places (`spread`); how many
years the date may mean depends only on how many digits are unknown (`choices`). The year that
`infer_year` makes of a date is found by their number, so that it lies inside of the range is a fact
about places.

Results:
* `StandsIn.yearOf008?_eq`: field 008 is read where its dates stand; `exists_standsIn`: a field
  whose first fifteen bytes are ASCII has dates. `byteLength_of_read?`: dates that are read have
  four bytes.
* `yearOf?_eq_some_iff`, `middle?_eq_some_iff`, `year?_eq_some_iff`: when a year is made of dates.
* `Legible.latest_eq`, `choices_le_spread`: the range of a date, and the number of its years.
* `year_within`: **the year lies inside the range that the dates describe**.
-/

namespace Marc.Dates

open Text

variable {dates : Dates} {field008 : String} {date first second : List Char} {tolerance year : Int}

/-! ## Where the dates stand -/

/-- The dates stand in the first fifteen bytes of the field: six bytes of something else, the type
of the date in one byte, and the two dates in four bytes each. -/
def StandsIn (dates : Dates) (field008 : String) : Prop :=
  ∃ front rest : List Char,
    field008.toList = front ++ (dates.kind :: (dates.first ++ (dates.second ++ rest))) ∧
      byteLength front = 6 ∧ dates.kind.utf8Size = 1 ∧
      byteLength dates.first = 4 ∧ byteLength dates.second = 4

theorem StandsIn.read?_eq (h : dates.StandsIn field008) : read? field008.toList = some dates := by
  obtain ⟨front, rest, htext, hfront, hkind, hfirst, hsecond⟩ := h
  have hone : byteLength [dates.kind] = 1 := by rw [byteLength, hkind, byteLength]
  have hseven : byteLength (front ++ [dates.kind]) = 7 := by rw [byteLength_append, hfront, hone]
  have heleven : byteLength (front ++ [dates.kind] ++ dates.first) = 11 := by
    rw [byteLength_append, hseven, hfirst]
  have skind : byteSlice 6 7 field008.toList = some [dates.kind] := by
    rw [htext, ← List.singleton_append]
    exact byteSlice_append hfront (by rw [hone]) _
  have sfirst : byteSlice 7 11 field008.toList = some dates.first := by
    rw [htext, List.append_cons]
    exact byteSlice_append hseven (by rw [hfirst]) _
  have ssecond : byteSlice 11 15 field008.toList = some dates.second := by
    rw [htext, List.append_cons, ← List.append_assoc]
    exact byteSlice_append heleven (by rw [hsecond]) _
  unfold read?
  rw [skind, sfirst, ssecond]
  rfl

theorem StandsIn.yearOf008?_eq (h : dates.StandsIn field008) (tolerance : Int) :
    yearOf008? field008 tolerance = dates.year? tolerance := by
  unfold yearOf008?
  rw [h.read?_eq]
  rfl

/-- A field whose first fifteen bytes are ASCII has dates in them. -/
theorem exists_standsIn {front rest : List Char} (hfield : field008.toList = front ++ rest)
    (hlen : front.length = 15) (hascii : ∀ c ∈ front, c.utf8Size = 1) :
    ∃ dates : Dates, dates.StandsIn field008 := by
  match front, hlen with
  | [a, b, c, d, e, f, kind, g, h, i, j, k, l, m, n], _ =>
    simp only [List.forall_mem_cons] at hascii
    refine ⟨⟨kind, [g, h, i, j], [k, l, m, n]⟩, [a, b, c, d, e, f], rest, hfield, ?_⟩
    simp [byteLength, hascii]

/-- The dates that are read have four bytes each. -/
theorem byteLength_of_read? {text : List Char} (h : read? text = some dates) :
    byteLength dates.first = 4 ∧ byteLength dates.second = 4 := by
  unfold read? at h
  split at h
  · rename_i kind rest first hkind hslice
    obtain rfl := Option.some.inj h
    have hfirst : byteLength first = 4 := byteLength_of_byteSlice hslice
    refine ⟨hfirst, ?_⟩
    cases hsecond : byteSlice 11 15 text with
    | none => exact hfirst
    | some second => exact byteLength_of_byteSlice hsecond
  · exact absurd h (by simp)

/-! ## When a year is made -/

theorem yearOf008?_eq_some_iff :
    yearOf008? field008 tolerance = some year ↔
      ∃ dates, read? field008.toList = some dates ∧ dates.year? tolerance = some year :=
  Option.bind_eq_some_iff

theorem yearOf?_eq_some_iff :
    yearOf? tolerance date = some year ↔
      earliest date ≠ 0 ∧
        (unknown ∉ date ∧ year = earliest date ∨
          unknown ∈ date ∧ choices date ≤ tolerance ∧ year = earliest date + choices date / 2) := by
  unfold yearOf?
  by_cases hzero : earliest date = 0
  · simp [hzero]
  by_cases hknown : unknown ∈ date
  · by_cases hclose : choices date ≤ tolerance <;> simp [hzero, hknown, hclose, eq_comm]
  · simp [hzero, hknown, eq_comm]

theorem middle?_eq_some_iff :
    middle? tolerance first second = some year ↔
      earliest first < latest second ∧ latest second - earliest first ≤ tolerance ∧
        year = (earliest first + latest second).tdiv 2 := by
  unfold middle?
  split
  · rename_i h
    simp [h, eq_comm]
  · rename_i h
    simp only [reduceCtorEq, false_iff]
    exact fun g => h ⟨g.1, g.2.1⟩

/-- Halving toward zero does not leave the range. -/
theorem half_between {low high : Int} (h : low < high) :
    low ≤ (low + high).tdiv 2 ∧ (low + high).tdiv 2 ≤ high := by
  rcases Int.le_total 0 (low + high) with hpos | hneg
  · rw [Int.tdiv_eq_ediv_of_nonneg hpos]
    omega
  · rw [← Int.neg_neg (low + high), Int.neg_tdiv, Int.tdiv_eq_ediv_of_nonneg (by omega)]
    omega

theorem year?_eq_some_iff :
    dates.year? tolerance = some year ↔
      dates.kind ≠ 'n' ∧
        (dates.kind = 'q' → middle? tolerance dates.first dates.second = some year) ∧
        (dates.kind ≠ 'q' → yearOf? tolerance dates.chosen = some year) := by
  unfold year?
  by_cases hn : dates.kind = 'n'
  · simp [hn]
  by_cases hq : dates.kind = 'q' <;> simp [hn, hq]

theorem chosen_eq_or (dates : Dates) :
    dates.chosen = dates.first ∨ dates.chosen = dates.second := by
  unfold chosen
  split_ifs <;> simp

/-- What holds of both dates holds of the one that counts. -/
theorem chosen_ind {P : List Char → Prop} (hfirst : P dates.first) (hsecond : P dates.second) :
    P dates.chosen := by
  rcases dates.chosen_eq_or with h | h <;> rw [h]
  exacts [hfirst, hsecond]

/-! ## The places of unknown digits -/

/-- The date is written in digits and unknown digits. -/
def Legible (date : List Char) : Prop := ∀ c ∈ date, c = unknown ∨ c.isDigit = true

instance : DecidablePred Legible := List.decidableBAll fun c => c = unknown ∨ c.isDigit = true

@[simp] theorem length_fill (digit : Char) (date : List Char) :
    (fill digit date).length = date.length := List.length_map _

theorem fill_cons (digit c : Char) (rest : List Char) :
    fill digit (c :: rest) = (if c = unknown then digit else c) :: fill digit rest := rfl

/-- A date without unknown digits is complete as it stands. -/
theorem fill_of_not_mem (h : unknown ∉ date) (digit : Char) : fill digit date = date :=
  (List.map_congr_left fun _ hc => if_neg (ne_of_mem_of_not_mem hc h)).trans (List.map_id _)

theorem earliest_of_not_mem (h : unknown ∉ date) : earliest date = number date := by
  unfold earliest
  rw [fill_of_not_mem h]

theorem Legible.isDigit_of_mem_fill (h : Legible date) {digit : Char}
    (hdigit : digit.isDigit = true) : ∀ c ∈ fill digit date, c.isDigit = true := by
  intro c hc
  obtain ⟨d, hd, rfl⟩ := List.mem_map.mp hc
  split
  · exact hdigit
  · rename_i hne
    exact (h d hd).resolve_left hne

theorem legible_of_fill (h : ∀ c ∈ fill '0' date, c.isDigit = true) : Legible date := by
  intro c hc
  by_cases hu : c = unknown
  · exact .inl hu
  · have hmem := h _ (List.mem_map_of_mem hc)
    rw [if_neg hu] at hmem
    exact .inr hmem

theorem number_eq_digitsValue (h : ∀ c ∈ date, c.isDigit = true) :
    number date = (digitsValue date : Int) := by
  cases date with
  | nil => rfl
  | cons c rest =>
    unfold number
    rw [readInt_digits (List.cons_ne_nil c rest) h]
    rfl

/-- How far the latest year of a date is from the earliest: nine times the place of each unknown
digit. -/
def spread : List Char → Nat
  | [] => 0
  | c :: rest => if c = unknown then 9 * 10 ^ rest.length + spread rest else spread rest

theorem digitsValue_fill_nine (date : List Char) :
    digitsValue (fill '9' date) = digitsValue (fill '0' date) + spread date := by
  induction date with
  | nil => rfl
  | cons c rest ih =>
    rw [fill_cons, fill_cons, digitsValue_cons, digitsValue_cons, ih, length_fill, length_fill,
      spread]
    split
    · rw [show '9'.toNat - '0'.toNat = 9 by decide, show '0'.toNat - '0'.toNat = 0 by decide]
      omega
    · omega

theorem Legible.earliest_eq (h : Legible date) :
    earliest date = (digitsValue (fill '0' date) : Int) :=
  number_eq_digitsValue (h.isDigit_of_mem_fill (by decide))

theorem Legible.latest_eq (h : Legible date) :
    latest date = earliest date + (spread date : Int) := by
  rw [h.earliest_eq, ← Int.natCast_add, ← digitsValue_fill_nine]
  exact number_eq_digitsValue (h.isDigit_of_mem_fill (by decide))

theorem choices_eq_pow (date : List Char) : choices date = 10 ^ date.count unknown := by
  induction date with
  | nil => rfl
  | cons c rest ih =>
    rw [choices, ih]
    split
    · rename_i h
      rw [h, List.count_cons_self, pow_succ']
    · rename_i h
      rw [List.count_cons_of_ne h]

theorem choices_le_pow_length (date : List Char) : choices date ≤ 10 ^ date.length := by
  rw [choices_eq_pow]
  exact pow_le_pow_right₀ (by decide) List.count_le_length

/-- A known digit, or any other character, leaves one place less open. -/
theorem choices_of_known {c : Char} (hc : c ∈ date) (hne : c ≠ unknown) :
    10 * choices date ≤ 10 ^ date.length := by
  have hlt : date.count unknown < date.length :=
    lt_of_le_of_ne List.count_le_length fun heq => hne (List.count_eq_length.mp heq c hc).symm
  rw [choices_eq_pow, ← pow_succ']
  exact pow_le_pow_right₀ (by decide) hlt

/-- A date means at most as many years as there are between the earliest and the latest. -/
theorem choices_le_spread (date : List Char) : choices date ≤ spread date + 1 := by
  induction date with
  | nil => decide
  | cons c rest ih =>
    have hlen := choices_le_pow_length rest
    rw [choices, spread]
    split
    · push_cast
      omega
    · exact ih

/-- The middle that is counted off from the earliest year does not pass the latest. -/
theorem half_choices_le_spread (h : unknown ∈ date) : choices date / 2 ≤ spread date := by
  have hpos := choices_pos date
  have hone : choices date ≠ 1 := fun heq => choices_eq_one_iff.mp heq h
  have hle := choices_le_spread date
  omega

/-! ## The year inside the range -/

/-- The year is the middle of two dates. It is not before the earliest year of the first nor after
the latest of the second, and these are apart, but no more than the tolerance. -/
structure BetweenDates (first second : List Char) (tolerance year : Int) : Prop where
  earliest_le : earliest first ≤ year
  le_latest : year ≤ latest second
  apart : 0 < latest second - earliest first
  close : latest second - earliest first ≤ tolerance
  middle : year = (earliest first + latest second) / 2

/-- The year is one that the date may mean: the date itself if it is known, otherwise as far behind
the earliest year as half of the years that the date may mean. -/
structure WithinDate (date : List Char) (tolerance year : Int) : Prop where
  earliest_le : earliest date ≤ year
  le_latest : year ≤ latest date
  dated : earliest date ≠ 0
  known : unknown ∉ date → year = number date
  guessed : unknown ∈ date → 10 ^ date.count unknown ≤ tolerance ∧
    year = earliest date + 10 ^ date.count unknown / 2

theorem middle?_eq_some_iff_between (hfirst : Legible first) :
    middle? tolerance first second = some year ↔ BetweenDates first second tolerance year := by
  have hpos : 0 ≤ earliest first := by rw [hfirst.earliest_eq]; exact Int.natCast_nonneg _
  rw [middle?_eq_some_iff]
  constructor
  · rintro ⟨hlt, hclose, rfl⟩
    rw [Int.tdiv_eq_ediv_of_nonneg (by omega)]
    exact ⟨by omega, by omega, by omega, hclose, rfl⟩
  · rintro ⟨-, -, hapart, hclose, rfl⟩
    rw [Int.tdiv_eq_ediv_of_nonneg (by omega)]
    exact ⟨by omega, hclose, rfl⟩

theorem yearOf?_eq_some_iff_within (hdate : Legible date) :
    yearOf? tolerance date = some year ↔ WithinDate date tolerance year := by
  rw [yearOf?_eq_some_iff, choices_eq_pow]
  constructor
  · rintro ⟨hdated, ⟨hknown, rfl⟩ | ⟨hguess, hclose, rfl⟩⟩
    · have hlatest := hdate.latest_eq
      exact ⟨le_refl _, by omega, hdated, fun _ => earliest_of_not_mem hknown,
        fun h => absurd h hknown⟩
    · have hhalf := half_choices_le_spread hguess
      have hpos := choices_pos date
      have hlatest := hdate.latest_eq
      rw [choices_eq_pow] at hhalf hpos
      exact ⟨by omega, by omega, hdated, fun h => absurd hguess h, fun _ => ⟨hclose, rfl⟩⟩
  · rintro ⟨-, -, hdated, hknown, hguessed⟩
    by_cases hmem : unknown ∈ date
    · exact ⟨hdated, .inr ⟨hmem, hguessed hmem⟩⟩
    · exact ⟨hdated, .inl ⟨hmem, by rw [hknown hmem, earliest_of_not_mem hmem]⟩⟩

/-- **The year lies inside the range that the dates describe.** Of two dates of type `q` it is the
middle; otherwise it is a year that one of the dates may mean, and which of them that is does not
depend on the tolerance. Where there is such a year, it is given. -/
theorem year_within (hin : dates.StandsIn field008)
    (hfirst : Legible dates.first) (hsecond : Legible dates.second) (tolerance year : Int) :
    yearOf008? field008 tolerance = some year ↔
      dates.kind ≠ 'n' ∧
        (dates.kind = 'q' → BetweenDates dates.first dates.second tolerance year) ∧
        (dates.kind ≠ 'q' → (dates.chosen = dates.first ∨ dates.chosen = dates.second) ∧
          WithinDate dates.chosen tolerance year) := by
  rw [hin.yearOf008?_eq, year?_eq_some_iff, middle?_eq_some_iff_between hfirst,
    yearOf?_eq_some_iff_within (chosen_ind hfirst hsecond)]
  simp only [dates.chosen_eq_or, true_and]

/-- Of a field of type `p` the date that sorts first, with a digit behind the unknown one. -/
theorem year_within_unknownDecade :
    Dates.StandsIn ⟨'p', "19u8".toList, "200u".toList⟩ "061108p19u8200unyuar" ∧
      Legible "19u8".toList ∧ Legible "200u".toList ∧
      yearOf008? "061108p19u8200unyuar" 15 = some 1913 ∧
      WithinDate "19u8".toList 15 1913 := by
  have hin : Dates.StandsIn ⟨'p', "19u8".toList, "200u".toList⟩ "061108p19u8200unyuar" :=
    ⟨"061108".toList, "nyuar".toList, by decide⟩
  have hfirst : Legible "19u8".toList := by decide
  have hsecond : Legible "200u".toList := by decide
  have hyear : yearOf008? "061108p19u8200unyuar" 15 = some 1913 := by decide
  obtain ⟨-, -, hwithin⟩ := (year_within hin hfirst hsecond 15 1913).mp hyear
  exact ⟨hin, hfirst, hsecond, hyear, (hwithin (by decide)).2⟩

end Marc.Dates
