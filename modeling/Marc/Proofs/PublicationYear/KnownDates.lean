import Marc.Proofs.PublicationYear

/-!
# Dates of which every digit is known

The rules of `infer_year` are written over texts: dates are compared as they sort, unknown digits
are filled in, and what is no number counts as zero. Where both dates consist of digits, nothing of
that shows, and the rules are a table over two numbers (`tableYear?`).

Results:
* `sortsFirst_iff_le`: **dates sort as their numbers do**.
* `digitsValue_chosen`: the date that counts, by its number.
* `known_dates_by_table`: **known dates give the year of the table**, and only for the type `q`
  the tolerance matters.
-/

namespace Marc.Dates

open Text

variable {dates : Dates} {field008 : String} {date first second : List Char}

/-! ## The table -/

/-- The number that counts, of two dates given as numbers. -/
def tableNumber (kind : Char) (first second : Nat) : Nat :=
  match kind with
  | 'p' => if second = 0 then first else min first second
  | 'r' => if second = 0 then first else second
  | _ => first

/-- The year of two dates given as numbers. Zero is no year, except as the start of a range. -/
def tableYear? (kind : Char) (first second : Nat) (tolerance : Int) : Option Int :=
  match kind with
  | 'n' => none
  | 'q' =>
    if 0 < (second : Int) - first ∧ (second : Int) - first ≤ tolerance then
      some (((first + second) / 2 : Nat) : Int)
    else none
  | _ =>
    if tableNumber kind first second = 0 then none
    else some (tableNumber kind first second : Int)

theorem tableNumber_else {kind : Char} (hp : kind ≠ 'p') (hr : kind ≠ 'r') (first second : Nat) :
    tableNumber kind first second = first := by
  unfold tableNumber
  split
  · exact absurd rfl hp
  · exact absurd rfl hr
  · rfl

theorem tableYear?_else {kind : Char} (hn : kind ≠ 'n') (hq : kind ≠ 'q') (first second : Nat)
    (tolerance : Int) :
    tableYear? kind first second tolerance =
      if tableNumber kind first second = 0 then none
      else some (tableNumber kind first second : Int) := by
  unfold tableYear?
  split
  · exact absurd rfl hn
  · exact absurd rfl hq
  · rfl

/-- Only for the type `q` the tolerance matters. -/
theorem tableYear?_tolerance {kind : Char} (h : kind ≠ 'q') (first second : Nat)
    (tolerance other : Int) :
    tableYear? kind first second other = tableYear? kind first second tolerance := by
  unfold tableYear?
  split
  · rfl
  · exact absurd rfl h
  · rfl

/-! ## Order of texts and order of numbers -/

/-- The first digit decides, whatever follows in equally many places. -/
theorem digitsValue_cons_lt {c d : Char} (hc : '0'.toNat ≤ c.toNat) (hlt : c.toNat < d.toNat)
    (hlen : first.length = second.length) (hfirst : ∀ c ∈ first, c.isDigit = true) :
    digitsValue (c :: first) < digitsValue (d :: second) := by
  calc
    digitsValue (c :: first)
      < (c.toNat - '0'.toNat + 1) * 10 ^ first.length :=
        digitsValue_cons_lt_next (digitsValue_lt hfirst) c
    _ ≤ (d.toNat - '0'.toNat) * 10 ^ first.length := Nat.mul_le_mul_right _ (by omega)
    _ ≤ (d.toNat - '0'.toNat) * 10 ^ second.length + digitsValue second :=
        hlen ▸ Nat.le_add_right _ _
    _ = digitsValue (d :: second) := (digitsValue_cons d second).symm

/-- **Dates sort as their numbers do**, if they consist of equally many digits. -/
theorem sortsFirst_iff_le : ∀ {first second : List Char}, first.length = second.length →
    (∀ c ∈ first, c.isDigit = true) → (∀ c ∈ second, c.isDigit = true) →
    (sortsFirst first second = true ↔ digitsValue first ≤ digitsValue second)
  | [], [], _, _, _ => by decide
  | c :: first, d :: second, hlen, hfirst, hsecond => by
    rw [List.forall_mem_cons] at hfirst hsecond
    have hlen' : first.length = second.length := Nat.succ.inj hlen
    have hzero := toNat_of_isDigit hfirst.1
    have hzero' := toNat_of_isDigit hsecond.1
    rw [sortsFirst, Bool.or_eq_true, decide_eq_true_eq, Bool.and_eq_true, beq_iff_eq]
    rcases Nat.lt_trichotomy c.toNat d.toNat with hlt | heq | hgt
    · have hvalue := digitsValue_cons_lt hzero.1 hlt hlen' hfirst.2
      exact ⟨fun _ => hvalue.le, fun _ => .inl hlt⟩
    · obtain rfl : c = d := Char.toNat_inj.mp heq
      rw [digitsValue_cons, digitsValue_cons, hlen', Nat.add_le_add_iff_left,
        sortsFirst_iff_le hlen' hfirst.2 hsecond.2]
      simp
    · have hvalue := digitsValue_cons_lt hzero'.1 hgt hlen'.symm hsecond.2
      have hne : c ≠ d := fun heq => absurd hgt (heq ▸ Nat.lt_irrefl _)
      refine ⟨fun h => ?_, fun h => absurd hvalue (Nat.not_lt.mpr h)⟩
      rcases h with hlt | ⟨heq, -⟩
      · exact absurd hlt (Nat.not_lt.mpr hgt.le)
      · exact absurd heq hne

/-! ## The year of known dates -/

theorem unknown_not_mem_digits (h : ∀ c ∈ date, c.isDigit = true) : unknown ∉ date := fun hmem =>
  absurd (h unknown hmem) (by decide)

theorem earliest_of_digits (h : ∀ c ∈ date, c.isDigit = true) :
    earliest date = (digitsValue date : Int) := by
  rw [earliest_of_not_mem (unknown_not_mem_digits h), number_eq_digitsValue h]

theorem latest_of_digits (h : ∀ c ∈ date, c.isDigit = true) :
    latest date = (digitsValue date : Int) := by
  unfold latest
  rw [fill_of_not_mem (unknown_not_mem_digits h), number_eq_digitsValue h]

theorem middle?_of_digits (hfirst : ∀ c ∈ first, c.isDigit = true)
    (hsecond : ∀ c ∈ second, c.isDigit = true) (tolerance : Int) :
    middle? tolerance first second =
      tableYear? 'q' (digitsValue first) (digitsValue second) tolerance := by
  unfold middle? tableYear?
  rw [earliest_of_digits hfirst, latest_of_digits hsecond,
    Int.tdiv_eq_ediv_of_nonneg (by omega)]
  refine ite_congr (propext (by omega)) (fun _ => ?_) fun _ => rfl
  push_cast
  rfl

theorem yearOf?_of_digits (h : ∀ c ∈ date, c.isDigit = true) (tolerance : Int) :
    yearOf? tolerance date =
      if digitsValue date = 0 then none else some (digitsValue date : Int) := by
  unfold yearOf?
  rw [earliest_of_digits h, if_pos (unknown_not_mem_digits h)]
  exact ite_congr (propext Int.natCast_eq_zero) (fun _ => rfl) fun _ => rfl

/-- **The date that counts**, of two known dates, has the number of the table. -/
theorem digitsValue_chosen (hlen : dates.first.length = dates.second.length)
    (hfirst : ∀ c ∈ dates.first, c.isDigit = true)
    (hsecond : ∀ c ∈ dates.second, c.isDigit = true) :
    digitsValue dates.chosen =
      tableNumber dates.kind (digitsValue dates.first) (digitsValue dates.second) := by
  have hsort := sortsFirst_iff_le hlen hfirst hsecond
  have hzero : number dates.second = 0 ↔ digitsValue dates.second = 0 := by
    rw [number_eq_digitsValue hsecond, Int.natCast_eq_zero]
  unfold chosen
  simp only [hsort, hzero, ne_eq]
  by_cases hp : dates.kind = 'p'
  · rw [if_pos hp, hp]
    show _ = if digitsValue dates.second = 0 then _ else min _ _
    by_cases hz : digitsValue dates.second = 0
    · rw [if_pos (.inr hz), if_pos hz]
    · by_cases hle : digitsValue dates.first ≤ digitsValue dates.second
      · rw [if_pos (.inl hle), if_neg hz, min_eq_left hle]
      · rw [if_neg (not_or.mpr ⟨hle, hz⟩), if_neg hz, min_eq_right (Nat.le_of_not_le hle)]
  by_cases hr : dates.kind = 'r'
  · rw [if_neg hp, if_pos hr, hr]
    show _ = if digitsValue dates.second = 0 then _ else _
    by_cases hz : digitsValue dates.second = 0
    · rw [if_neg (not_not.mpr hz), if_pos hz]
    · rw [if_pos hz, if_neg hz]
  · rw [if_neg hp, if_neg hr, tableNumber_else hp hr]

/-- The year of two known dates is that of the table. -/
theorem year?_of_digits (hlen : dates.first.length = dates.second.length)
    (hfirst : ∀ c ∈ dates.first, c.isDigit = true)
    (hsecond : ∀ c ∈ dates.second, c.isDigit = true) (tolerance : Int) :
    dates.year? tolerance =
      tableYear? dates.kind (digitsValue dates.first) (digitsValue dates.second) tolerance := by
  have hchosen : ∀ c ∈ dates.chosen, c.isDigit = true :=
    chosen_ind (P := fun date => ∀ c ∈ date, c.isDigit = true) hfirst hsecond
  unfold year?
  by_cases hn : dates.kind = 'n'
  · rw [if_pos hn, hn]
    rfl
  by_cases hq : dates.kind = 'q'
  · rw [if_neg hn, if_pos hq, middle?_of_digits hfirst hsecond, hq]
  · rw [if_neg hn, if_neg hq, yearOf?_of_digits hchosen, digitsValue_chosen hlen hfirst hsecond,
      tableYear?_else hn hq]

theorem StandsIn.length_eq (hin : dates.StandsIn field008)
    (hfirst : ∀ c ∈ dates.first, c.isDigit = true)
    (hsecond : ∀ c ∈ dates.second, c.isDigit = true) :
    dates.first.length = dates.second.length := by
  obtain ⟨-, -, -, -, -, hlen, hlen'⟩ := hin
  rw [byteLength_of_ascii fun c hc => utf8Size_of_isDigit (hfirst c hc)] at hlen
  rw [byteLength_of_ascii fun c hc => utf8Size_of_isDigit (hsecond c hc)] at hlen'
  rw [hlen, hlen']

/-- **Known dates give the year of the table**, whatever follows them in the field, and except for
the type `q` it does not depend on the tolerance. -/
theorem known_dates_by_table (hin : dates.StandsIn field008)
    (hfirst : ∀ c ∈ dates.first, c.isDigit = true)
    (hsecond : ∀ c ∈ dates.second, c.isDigit = true) (tolerance : Int) :
    yearOf008? field008 tolerance =
        tableYear? dates.kind (digitsValue dates.first) (digitsValue dates.second) tolerance ∧
      (dates.kind ≠ 'q' → ∀ other : Int,
        yearOf008? field008 other = yearOf008? field008 tolerance) := by
  have htable : ∀ t : Int, yearOf008? field008 t =
      tableYear? dates.kind (digitsValue dates.first) (digitsValue dates.second) t := fun t => by
    rw [hin.yearOf008?_eq, year?_of_digits (hin.length_eq hfirst hsecond) hfirst hsecond]
  refine ⟨htable tolerance, fun hq other => ?_⟩
  rw [htable, htable, tableYear?_tolerance hq]

/-- Of a field of type `p` whose second date is the earlier: leading zeros sort as they count. -/
theorem known_dates_by_table_oldest :
    Dates.StandsIn ⟨'p', "1016".toList, "0987".toList⟩ "061108p10160987né" ∧
      (∀ c ∈ "1016".toList, c.isDigit = true) ∧ (∀ c ∈ "0987".toList, c.isDigit = true) ∧
      yearOf008? "061108p10160987né" (-1) = tableYear? 'p' 1016 987 (-1) ∧
      tableYear? 'p' 1016 987 (-1) = some 987 ∧
      ∀ other : Int, yearOf008? "061108p10160987né" other = yearOf008? "061108p10160987né" (-1) := by
  have hin : Dates.StandsIn ⟨'p', "1016".toList, "0987".toList⟩ "061108p10160987né" :=
    ⟨"061108".toList, "né".toList, by decide⟩
  have hfirst : ∀ c ∈ "1016".toList, c.isDigit = true := List.all_eq_true.mp rfl
  have hsecond : ∀ c ∈ "0987".toList, c.isDigit = true := List.all_eq_true.mp rfl
  obtain ⟨htable, hsame⟩ := known_dates_by_table hin hfirst hsecond (-1)
  exact ⟨hin, hfirst, hsecond, htable, by decide, hsame (by decide)⟩

end Marc.Dates
