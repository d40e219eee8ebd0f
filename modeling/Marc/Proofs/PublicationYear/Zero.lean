import Marc.Proofs.PublicationYear
import Mathlib.Data.List.Basic

/-!
# Fields whose year comes out as zero

Zero stands for a date that is no number (`to_int`), and a date that is zero gives no year. But only
the date is looked at, and a year is made of it by a further step: two dates of type `q` are halved,
and half of the years that a date leaves open are added to it. A result of zero is passed on as a
year. For a single date that takes a sign: three dates are as far below zero as half of their years
reach.

Results:
* `middle?_eq_zero_iff`: which two dates have zero for their middle.
* `exists_of_earliest_neg`: a date below zero is a sign and three places.
* `yearOf?_eq_zero_iff`: **which dates give zero**: those in `cancelling`.
* `year_zero_iff`: the same of field 008. `blankDate_gives_zero`: a first date that is blank can
  give zero.
-/

namespace Marc.Dates

open Text

variable {date first second : List Char} {tolerance : Int} {a b c : Char}

/-! ## Two dates -/

theorem tdiv_two_eq_zero_iff (n : Int) : n.tdiv 2 = 0 ↔ -1 ≤ n ∧ n ≤ 1 := by
  rcases Int.le_total 0 n with hpos | hneg
  · rw [Int.tdiv_eq_ediv_of_nonneg hpos]
    omega
  · rw [← Int.neg_neg n, Int.neg_tdiv, Int.tdiv_eq_ediv_of_nonneg (by omega)]
    omega

/-- The two dates are a range that the tolerance lets through, and lie as far below zero as above
it, up to one year. -/
structure MeetAtZero (tolerance : Int) (first second : List Char) : Prop where
  apart : earliest first < latest second
  close : latest second - earliest first ≤ tolerance
  cancel : -1 ≤ earliest first + latest second ∧ earliest first + latest second ≤ 1

theorem middle?_eq_zero_iff :
    middle? tolerance first second = some 0 ↔ MeetAtZero tolerance first second := by
  rw [middle?_eq_some_iff, eq_comm (a := (0 : Int)), tdiv_two_eq_zero_iff]
  exact ⟨fun ⟨hapart, hclose, hcancel⟩ => ⟨hapart, hclose, hcancel⟩,
    fun ⟨hapart, hclose, hcancel⟩ => ⟨hapart, hclose, hcancel⟩⟩

/-! ## One date -/

theorem Legible.utf8Size_eq_one (h : Legible date) : ∀ c ∈ date, c.utf8Size = 1 := by
  intro c hc
  rcases h c hc with rfl | hdigit
  · decide
  · exact utf8Size_of_isDigit hdigit

/-- A date below zero is a sign and three places, each a digit or unknown. -/
theorem exists_of_earliest_neg (hlen : byteLength date = 4) (h : earliest date < 0) :
    ∃ a b c, date = ['-', a, b, c] ∧ Legible [a, b, c] ∧
      earliest date = -(digitsValue (fill '0' [a, b, c]) : Int) := by
  unfold earliest number at h ⊢
  cases hread : readInt (fill '0' date) with
  | none =>
    rw [hread] at h
    exact absurd h (by decide)
  | some n =>
    rw [hread, Option.getD_some] at h
    obtain ⟨digits, m, hm, ⟨htext, rfl⟩ | ⟨-, rfl⟩⟩ := readInt_eq_some hread
    · obtain ⟨-, hdigits, rfl⟩ := readNat_eq_some.mp hm
      cases date with
      | nil => exact nomatch htext
      | cons sign rest =>
        rw [fill_cons, List.cons.injEq] at htext
        obtain ⟨hsign, rfl⟩ := htext
        obtain rfl : sign = '-' := by
          split at hsign
          · exact absurd hsign (by decide)
          · exact hsign
        have hrest : Legible rest := legible_of_fill hdigits
        -- the sign takes one of the four bytes, and each place one
        rw [byteLength, byteLength_of_ascii hrest.utf8Size_eq_one,
          show '-'.utf8Size = 1 by decide] at hlen
        obtain ⟨a, b, c, rfl⟩ := List.length_eq_three.mp (show rest.length = 3 by omega)
        exact ⟨a, b, c, rfl, hrest, rfl⟩
    · exact absurd h (by omega)

/-- The dates that are as far below zero as half of the years that they leave open. -/
def cancelling : List (List Char) := ["-u05".toList, "-0u5".toList, "-u5u".toList]

theorem digitsValue_three (a b c : Char) :
    digitsValue [a, b, c] =
      (a.toNat - '0'.toNat) * 100 + (b.toNat - '0'.toNat) * 10 + (c.toNat - '0'.toNat) := by
  rw [digitsValue_cons, digitsValue_cons, digitsValue_cons]
  simp [digitsValue, Nat.add_assoc]

/-- A place is unknown, or a digit. -/
theorem place_cases (h : c = unknown ∨ c.isDigit = true) :
    c = unknown ∨ c ≠ unknown ∧ '0'.toNat ≤ c.toNat ∧ c.toNat ≤ '0'.toNat + 9 := by
  by_cases hc : c = unknown
  · exact .inl hc
  · exact .inr ⟨hc, toNat_of_isDigit (h.resolve_left hc)⟩

/-- Half of the years that three places leave open is what the known digits stand for only if one of
them is a five, and the digits before it are zeros or unknown. -/
theorem mem_cancelling (h : Legible [a, b, c]) (hmem : unknown ∈ [a, b, c])
    (hvalue : (digitsValue (fill '0' [a, b, c]) : Int) = choices [a, b, c] / 2) :
    ['-', a, b, c] ∈ cancelling := by
  have hzero : '0'.toNat = 48 := rfl
  have hfive {d : Char} (hd : d.toNat = 53) : d = '5' := Char.toNat_inj.mp hd
  have hnull {d : Char} (hd : d.toNat = 48) : d = '0' := Char.toNat_inj.mp hd
  have hfill : fill '0' [a, b, c] =
      [if a = unknown then '0' else a, if b = unknown then '0' else b,
        if c = unknown then '0' else c] := rfl
  rw [hfill, digitsValue_three] at hvalue
  simp only [choices] at hvalue
  -- which places are unknown decides how many years there are, and so the value of the others
  rcases place_cases (h a (by simp)) with rfl | ⟨ha, ha0, ha9⟩ <;>
    rcases place_cases (h b (by simp)) with rfl | ⟨hb, hb0, hb9⟩ <;>
      rcases place_cases (h c (by simp)) with rfl | ⟨hc, hc0, hc9⟩ <;>
        simp only [*, if_true, if_false] at hvalue
  · omega
  · omega
  · obtain rfl := hfive (d := b) (by omega)
    decide
  · obtain rfl := hnull (d := b) (by omega)
    obtain rfl := hfive (d := c) (by omega)
    decide
  · omega
  · obtain rfl := hnull (d := a) (by omega)
    obtain rfl := hfive (d := c) (by omega)
    decide
  · omega
  · exact absurd hmem (by simp [Ne.symm ha, Ne.symm hb, Ne.symm hc])

theorem cancels_of_mem (h : date ∈ cancelling) :
    earliest date ≠ 0 ∧ unknown ∈ date ∧ 0 = earliest date + choices date / 2 := by
  unfold cancelling at h
  simp only [List.mem_cons, List.not_mem_nil, or_false] at h
  rcases h with rfl | rfl | rfl <;> decide

/-- **Which dates give zero**: three of them, if the tolerance lets their years through. -/
theorem yearOf?_eq_zero_iff (hlen : byteLength date = 4) :
    yearOf? tolerance date = some 0 ↔ date ∈ cancelling ∧ choices date ≤ tolerance := by
  rw [yearOf?_eq_some_iff]
  constructor
  · rintro ⟨hdated, ⟨-, hzero⟩ | ⟨hguess, hclose, hzero⟩⟩
    · exact absurd hzero.symm hdated
    · have hpos := choices_pos date
      obtain ⟨a, b, c, rfl, hlegible, hvalue⟩ := exists_of_earliest_neg hlen (by omega)
      have hchoices : choices ['-', a, b, c] = choices [a, b, c] := if_neg (by decide)
      have hplaces : unknown ∈ [a, b, c] := (List.mem_cons.mp hguess).resolve_left (by decide)
      exact ⟨mem_cancelling hlegible hplaces (by omega), hclose⟩
  · rintro ⟨hmem, hclose⟩
    obtain ⟨hdated, hguess, hzero⟩ := cancels_of_mem hmem
    exact ⟨hdated, .inr ⟨hguess, hclose, hzero⟩⟩

/-! ## Field 008 -/

/-- **When the year of field 008 is zero**, for any text and any tolerance: two dates of type `q`
meet at zero, or the date that counts is one of three. -/
theorem year_zero_iff (field008 : String) (tolerance : Int) :
    yearOf008? field008 tolerance = some 0 ↔
      ∃ dates : Dates, read? field008.toList = some dates ∧ dates.kind ≠ 'n' ∧
        (dates.kind = 'q' → MeetAtZero tolerance dates.first dates.second) ∧
        (dates.kind ≠ 'q' → dates.chosen ∈ cancelling ∧ choices dates.chosen ≤ tolerance) := by
  rw [yearOf008?_eq_some_iff]
  refine exists_congr fun dates => and_congr_right fun hread => ?_
  obtain ⟨hfirst, hsecond⟩ := byteLength_of_read? hread
  have hchosen : byteLength dates.chosen = 4 :=
    chosen_ind (P := fun date => byteLength date = 4) hfirst hsecond
  rw [year?_eq_some_iff, middle?_eq_zero_iff, yearOf?_eq_zero_iff hchosen]

/-- Half of ten years makes up for five years below zero. -/
example : yearOf008? "061108s-u05    " 15 = some 0 := by decide

/-- Zero is given as a year: a first date that is blank counts as zero, and the middle between that
and the year one is zero. -/
theorem blankDate_gives_zero :
    ¬ ∀ (field008 : String) (tolerance : Int32),
      yearOf008? field008 tolerance.toInt ≠ some 0 := fun h =>
  h "061108q    0001" 15 (by decide)

end Marc.Dates
