import Marc.Proofs.PublicationYear

/-!
# Years in 32 bits

The year is made with integers of any size. Here the same is done in 32 bits, as in `infer_year`,
step by step, and a step whose result does not fit ends it with `Overflow`. No text leads there: the
dates are cut out of four bytes each, so that they are numbers of four places at most, and a sign
takes one of them.

Results:
* `number_bounds`: a number of four places, and `toInt_number`: in 32 bits it is the same.
* `agrees_middle?`, `agrees_yearOf?`, `agrees_year?`: what is made of such dates in 32 bits.
* `middle?_bounds`, `yearOf?_bounds`: the year has four places again.
* `year_fits`: **no step overflows**, for any text and any tolerance of 32 bits.
-/

namespace Marc

/-- A result that does not fit into 32 bits. -/
structure Overflow where
  result : Int

namespace Dates

open Text

variable {dates : Dates} {date first second : List Char} {tolerance year : Int}

/-! ## Numbers of four places -/

/-- What can be written in four places, one of which a sign takes. -/
def InFourPlaces (n : Int) : Prop := -999 ≤ n ∧ n ≤ 9999

theorem digitsValue_lt_pow {digits : List Char} {places : Nat}
    (h : ∀ c ∈ digits, c.isDigit = true) (hlen : digits.length ≤ places) :
    digitsValue digits < 10 ^ places :=
  (digitsValue_lt h).trans_le (Nat.pow_le_pow_right (by decide) hlen)

/-- **The dates are numbers of four places**, whatever stands in the field. -/
theorem number_bounds (hlen : date.length ≤ 4) : InFourPlaces (number date) := by
  unfold number InFourPlaces
  cases hread : readInt date with
  | none => decide
  | some n =>
    obtain ⟨digits, m, hm, ⟨rfl, rfl⟩ | ⟨htext, rfl⟩⟩ := readInt_eq_some hread <;>
      obtain ⟨-, hdigits, rfl⟩ := readNat_eq_some.mp hm
    · rw [List.length_cons] at hlen
      have hvalue : digitsValue digits < 10 ^ 3 := digitsValue_lt_pow hdigits (by omega)
      show -999 ≤ -(digitsValue digits : Int) ∧ -(digitsValue digits : Int) ≤ 9999
      omega
    · have hvalue : digitsValue digits < 10 ^ 4 := by
        refine digitsValue_lt_pow hdigits ?_
        rcases htext with rfl | rfl
        · exact Nat.le_of_succ_le hlen
        · exact hlen
      show -999 ≤ (digitsValue digits : Int) ∧ (digitsValue digits : Int) ≤ 9999
      omega

theorem earliest_bounds (hlen : date.length ≤ 4) : InFourPlaces (earliest date) :=
  number_bounds (by rw [length_fill]; exact hlen)

theorem latest_bounds (hlen : date.length ≤ 4) : InFourPlaces (latest date) :=
  number_bounds (by rw [length_fill]; exact hlen)

theorem choices_bounds (hlen : date.length ≤ 4) : 0 < choices date ∧ choices date ≤ 10000 :=
  ⟨choices_pos date, (choices_le_pow_length date).trans (pow_le_pow_right₀ (by decide) hlen)⟩

theorem length_of_read? {text : List Char} (h : read? text = some dates) :
    dates.first.length ≤ 4 ∧ dates.second.length ≤ 4 := by
  obtain ⟨hfirst, hsecond⟩ := byteLength_of_read? h
  exact ⟨hfirst ▸ length_le_byteLength _, hsecond ▸ length_le_byteLength _⟩

/-! ## The year has four places -/

theorem middle?_bounds (hfirst : first.length ≤ 4) (hsecond : second.length ≤ 4)
    (h : middle? tolerance first second = some year) : InFourPlaces year := by
  obtain ⟨hlt, -, rfl⟩ := middle?_eq_some_iff.mp h
  obtain ⟨hlow, hhigh⟩ := half_between hlt
  exact ⟨(earliest_bounds hfirst).1.trans hlow, hhigh.trans (latest_bounds hsecond).2⟩

/-- What is in a date after the unknown digits were filled in, was in it before. -/
theorem mem_of_mem_fill {digit c : Char} (h : c ∈ fill digit date) (hne : c ≠ digit) : c ∈ date := by
  obtain ⟨d, hd, rfl⟩ := List.mem_map.mp h
  split at hne
  · exact absurd rfl hne
  · rename_i hknown
    rw [if_neg hknown]
    exact hd

/-- A date with a sign has three places left for digits. -/
theorem earliest_add_half_of_sign {sign : Char} (hlen : date.length ≤ 4) (hsign : sign ∈ date)
    (hne : sign ≠ unknown) (hyear : earliest date ≤ 999) :
    InFourPlaces (earliest date + choices date / 2) := by
  have hplaces := choices_of_known hsign hne
  have hfour : (10 : Int) ^ date.length ≤ 10 ^ 4 := pow_le_pow_right₀ (by decide) hlen
  have hpos := choices_pos date
  have hlow := earliest_bounds hlen
  unfold InFourPlaces at *
  omega

theorem yearOf?_bounds (hlen : date.length ≤ 4) (h : yearOf? tolerance date = some year) :
    InFourPlaces year := by
  obtain ⟨hdated, ⟨-, rfl⟩ | ⟨hguess, -, rfl⟩⟩ := yearOf?_eq_some_iff.mp h
  · exact earliest_bounds hlen
  cases hread : readInt (fill '0' date) with
  | none =>
    -- a date that is no number counts as zero and gives no year
    unfold earliest number at hdated
    rw [hread] at hdated
    exact absurd rfl hdated
  | some n =>
    have hvalue : earliest date = n := by
      unfold earliest number
      rw [hread]
      rfl
    have hlen' : (fill '0' date).length ≤ 4 := by rw [length_fill]; exact hlen
    obtain ⟨digits, m, hm, ⟨htext, hn⟩ | ⟨htext | htext, hn⟩⟩ := readInt_eq_some hread <;>
      obtain ⟨-, hdigits, rfl⟩ := readNat_eq_some.mp hm
    · have hsign : '-' ∈ date := mem_of_mem_fill (htext ▸ List.mem_cons_self) (by decide)
      exact earliest_add_half_of_sign hlen hsign (by decide) (by omega)
    · have hsign : '+' ∈ date := mem_of_mem_fill (htext ▸ List.mem_cons_self) (by decide)
      rw [htext, List.length_cons] at hlen'
      have hthree : digitsValue digits < 10 ^ 3 := digitsValue_lt_pow hdigits (by omega)
      exact earliest_add_half_of_sign hlen hsign (by decide) (by omega)
    · have hlatest := (legible_of_fill (htext ▸ hdigits)).latest_eq
      have hhalf := half_choices_le_spread hguess
      have hpos := choices_pos date
      have hlow := earliest_bounds hlen
      have hhigh := latest_bounds hlen
      unfold InFourPlaces at *
      omega

/-! ## The same in 32 bits -/

namespace Checked

/-- The number in 32 bits, if it fits. -/
def fit (n : Int) : Except Overflow Int32 :=
  if -2 ^ 31 ≤ n ∧ n < 2 ^ 31 then .ok (Int32.ofInt n) else .error ⟨n⟩

/-- The number that a date is, in 32 bits; zero when it is no integer or does not fit. -/
def number (date : List Char) : Int32 :=
  ((readInt date).bind fun n => (fit n).toOption).getD 0

/-- The earliest year that a date may mean. -/
def earliest (date : List Char) : Int32 := number (fill '0' date)

/-- The latest year that a date may mean. -/
def latest (date : List Char) : Int32 := number (fill '9' date)

/-- The middle of two dates. The width of the range is looked at only if there is a range. -/
def middle? (tolerance : Int32) (first second : List Char) : Except Overflow (Option Int32) :=
  if earliest first < latest second then do
    let width ← fit ((latest second).toInt - (earliest first).toInt)
    if width ≤ tolerance then
      let sum ← fit ((earliest first).toInt + (latest second).toInt)
      let half ← fit (sum.toInt.tdiv 2)
      return some half
    else return none
  else return none

/-- The year of one date. -/
def yearOf? (tolerance : Int32) (date : List Char) : Except Overflow (Option Int32) :=
  if earliest date = 0 then return none
  else if unknown ∉ date then return some (earliest date)
  else do
    let choices ← fit (10 ^ date.count unknown)
    if choices ≤ tolerance then
      let half ← fit (choices.toInt / 2)
      let year ← fit ((earliest date).toInt + half.toInt)
      return some year
    else return none

/-- The date that counts. -/
def chosen (dates : Dates) : List Char :=
  if dates.kind = 'p' then
    if sortsFirst dates.first dates.second ∨ number dates.second = 0 then dates.first
    else dates.second
  else if dates.kind = 'r' then
    if number dates.second ≠ 0 then dates.second else dates.first
  else dates.first

/-- The year of the dates. -/
def year? (dates : Dates) (tolerance : Int32) : Except Overflow (Option Int32) :=
  if dates.kind = 'n' then return none
  else if dates.kind = 'q' then middle? tolerance dates.first dates.second
  else yearOf? tolerance (chosen dates)

/-- The year of field 008. -/
def yearOf008? (field008 : String) (tolerance : Int32) : Except Overflow (Option Int32) :=
  match read? field008.toList with
  | some dates => year? dates tolerance
  | none => return none

theorem exists_fit {n : Int} (hlow : -2 ^ 31 ≤ n) (hhigh : n < 2 ^ 31) :
    ∃ word, fit n = .ok word ∧ word.toInt = n :=
  ⟨Int32.ofInt n, if_pos ⟨hlow, hhigh⟩, Int32.toInt_ofInt_of_le hlow hhigh⟩

theorem toInt_number (hlen : date.length ≤ 4) : (number date).toInt = Dates.number date := by
  have hbounds := number_bounds hlen
  unfold InFourPlaces at hbounds
  unfold number
  unfold Dates.number at hbounds ⊢
  cases hread : readInt date with
  | none => rfl
  | some n =>
    rw [hread] at hbounds
    obtain ⟨hlow, hhigh⟩ : -999 ≤ n ∧ n ≤ 9999 := hbounds
    obtain ⟨word, hword, hvalue⟩ := exists_fit (n := n) (by omega) (by omega)
    rw [Option.bind_some, hword]
    exact hvalue

theorem toInt_earliest (hlen : date.length ≤ 4) :
    (earliest date).toInt = Dates.earliest date :=
  toInt_number (by rw [length_fill]; exact hlen)

theorem toInt_latest (hlen : date.length ≤ 4) : (latest date).toInt = Dates.latest date :=
  toInt_number (by rw [length_fill]; exact hlen)

theorem eq_zero_iff {word : Int32} {n : Int} (h : word.toInt = n) : word = 0 ↔ n = 0 := by
  rw [← h, ← Int32.toInt_inj]
  rfl

/-- The steps come to an end, with the given year. -/
def Agrees (steps : Except Overflow (Option Int32)) (year : Option Int) : Prop :=
  ∃ answer, steps = .ok answer ∧ answer.map Int32.toInt = year

theorem agrees_none : Agrees (return none) none := ⟨none, rfl, rfl⟩

theorem agrees_some {word : Int32} {n : Int} (h : word.toInt = n) :
    Agrees (return some word) (some n) := ⟨some word, rfl, congrArg some h⟩

/-- A step whose result fits goes on with it. -/
theorem agrees_fit {n : Int} {answer : Option Int} {next : Int32 → Except Overflow (Option Int32)}
    (hlow : -2 ^ 31 ≤ n) (hhigh : n < 2 ^ 31)
    (h : ∀ word : Int32, word.toInt = n → Agrees (next word) answer) :
    Agrees (fit n >>= next) answer := by
  obtain ⟨word, hword, hvalue⟩ := exists_fit hlow hhigh
  rw [hword]
  exact h word hvalue

theorem agrees_middle? (hfirst : first.length ≤ 4) (hsecond : second.length ≤ 4)
    (tolerance : Int32) :
    Agrees (middle? tolerance first second) (Dates.middle? tolerance.toInt first second) := by
  have hlow := toInt_earliest hfirst
  have hhigh := toInt_latest hsecond
  obtain ⟨blow, blow'⟩ := earliest_bounds hfirst
  obtain ⟨bhigh, bhigh'⟩ := latest_bounds hsecond
  unfold middle? Dates.middle?
  simp only [Int32.lt_iff_toInt_lt, Int32.le_iff_toInt_le, hlow, hhigh]
  by_cases hlt : Dates.earliest first < Dates.latest second
  · rw [if_pos hlt]
    refine agrees_fit (by omega) (by omega) fun width hwidth => ?_
    rw [hwidth]
    by_cases hclose : Dates.latest second - Dates.earliest first ≤ tolerance.toInt
    · rw [if_pos hclose, if_pos ⟨hlt, hclose⟩]
      refine agrees_fit (by omega) (by omega) fun sum hsum => ?_
      obtain ⟨hhalf, hhalf'⟩ := half_between hlt
      rw [hsum]
      exact agrees_fit (by omega) (by omega) fun half hvalue => agrees_some hvalue
    · rw [if_neg hclose, if_neg fun h => hclose h.2]
      exact agrees_none
  · rw [if_neg hlt, if_neg fun h => hlt h.1]
    exact agrees_none

theorem agrees_yearOf? (hlen : date.length ≤ 4) (tolerance : Int32) :
    Agrees (yearOf? tolerance date) (Dates.yearOf? tolerance.toInt date) := by
  have hyear := toInt_earliest hlen
  obtain ⟨blow, bhigh⟩ := earliest_bounds hlen
  obtain ⟨hpos, hfew⟩ := choices_bounds hlen
  unfold yearOf? Dates.yearOf?
  simp only [Int32.le_iff_toInt_le, eq_zero_iff hyear, hyear, ← choices_eq_pow]
  by_cases hzero : Dates.earliest date = 0
  · rw [if_pos hzero, if_pos hzero]
    exact agrees_none
  rw [if_neg hzero, if_neg hzero]
  by_cases hknown : unknown ∉ date
  · rw [if_pos hknown, if_pos hknown]
    exact agrees_some hyear
  rw [if_neg hknown, if_neg hknown]
  refine agrees_fit (by omega) (by omega) fun count hcount => ?_
  rw [hcount]
  by_cases hclose : choices date ≤ tolerance.toInt
  · rw [if_pos hclose, if_pos hclose]
    refine agrees_fit (by omega) (by omega) fun half hhalf => ?_
    rw [hhalf]
    exact agrees_fit (by omega) (by omega) fun year hsum => agrees_some hsum
  · rw [if_neg hclose, if_neg hclose]
    exact agrees_none

theorem agrees_year? (hfirst : dates.first.length ≤ 4) (hsecond : dates.second.length ≤ 4)
    (tolerance : Int32) : Agrees (year? dates tolerance) (dates.year? tolerance.toInt) := by
  have hchosen : chosen dates = dates.chosen := by
    unfold chosen Dates.chosen
    simp only [eq_zero_iff (toInt_number hsecond), ne_eq]
  unfold year? Dates.year?
  rw [hchosen]
  by_cases hn : dates.kind = 'n'
  · rw [if_pos hn, if_pos hn]
    exact agrees_none
  rw [if_neg hn, if_neg hn]
  by_cases hq : dates.kind = 'q'
  · rw [if_pos hq, if_pos hq]
    exact agrees_middle? hfirst hsecond tolerance
  · rw [if_neg hq, if_neg hq]
    exact agrees_yearOf? (chosen_ind (P := fun date => date.length ≤ 4) hfirst hsecond) tolerance

end Checked

/-- **No step overflows**, for any text and any tolerance of 32 bits, and the year is the one that
integers of any size give. What is read as a date is a number of four places at most, and so is the
year. -/
theorem year_fits (field008 : String) (tolerance : Int32) :
    (∃ answer : Option Int32, Checked.yearOf008? field008 tolerance = .ok answer ∧
        answer.map Int32.toInt = yearOf008? field008 tolerance.toInt) ∧
      (∀ dates : Dates, read? field008.toList = some dates →
        InFourPlaces (earliest dates.first) ∧ InFourPlaces (latest dates.second) ∧
          InFourPlaces (number dates.second) ∧ InFourPlaces (earliest dates.chosen)) ∧
      ∀ year : Int, yearOf008? field008 tolerance.toInt = some year → InFourPlaces year := by
  unfold Checked.yearOf008? yearOf008?
  cases hread : read? field008.toList with
  | none => exact ⟨Checked.agrees_none, by simp, by simp⟩
  | some dates =>
    obtain ⟨hfirst, hsecond⟩ := length_of_read? hread
    have hchosen : dates.chosen.length ≤ 4 :=
      chosen_ind (P := fun date => date.length ≤ 4) hfirst hsecond
    refine ⟨Checked.agrees_year? hfirst hsecond tolerance, ?_, fun year hyear => ?_⟩
    · intro other hother
      obtain rfl := Option.some.inj hother
      exact ⟨earliest_bounds hfirst, latest_bounds hsecond, number_bounds hsecond,
        earliest_bounds hchosen⟩
    · obtain ⟨-, hmiddle, hsingle⟩ := year?_eq_some_iff.mp hyear
      by_cases hq : dates.kind = 'q'
      · exact middle?_bounds hfirst hsecond (hmiddle hq)
      · exact yearOf?_bounds hchosen (hsingle hq)

/-- The widest range that can be written, with the greatest tolerance. -/
theorem year_fits_widest :
    Checked.yearOf008? "061108q-9999999" Int32.maxValue = .ok (some 4500) ∧
      read? "061108q-9999999".toList = some ⟨'q', "-999".toList, "9999".toList⟩ ∧
      InFourPlaces (earliest "-999".toList) ∧ InFourPlaces (latest "9999".toList) ∧
      yearOf008? "061108q-9999999" Int32.maxValue.toInt = some 4500 ∧ InFourPlaces 4500 := by
  have hsteps : Checked.yearOf008? "061108q-9999999" Int32.maxValue = .ok (some 4500) := by
    rfl
  have hread : read? "061108q-9999999".toList = some ⟨'q', "-999".toList, "9999".toList⟩ := by decide
  obtain ⟨⟨answer, hanswer, hagrees⟩, hdates, hyear⟩ :=
    year_fits "061108q-9999999" Int32.maxValue
  obtain rfl : some 4500 = answer := Except.ok.inj (hsteps.symm.trans hanswer)
  obtain ⟨hfirst, hsecond, -, -⟩ := hdates _ hread
  exact ⟨hsteps, hread, hfirst, hsecond, hagrees.symm, hyear 4500 hagrees.symm⟩

end Dates

end Marc
