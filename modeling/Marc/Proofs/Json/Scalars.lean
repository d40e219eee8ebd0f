import Marc.Json.Reader

/-!
# Strings and whole numbers are read as they are printed

What `Json.compact` writes for a string or a whole number is read back by `readString` and
`readNumber`, whatever follows a string, and for a number in front of anything that can follow a
value inside of a text (`Delimits`).

* `readPieces_escape`: one printed character is read as that character.
* `readString_flatMap_escape`: **every string is read as it was printed**.
* `readNumber_toDigits`: **so is every whole number** of at most 64 bits, with its sign.
-/

namespace Marc.Json

open Text

/-! ## Strings -/

theorem hexValue?_digitChar : ∀ n, n < 16 → hexValue? (Nat.digitChar n) = some n := by decide

/-- The four digits of a control character stand for it. -/
theorem hexUnit?_control {c : Char} (h : c.toNat < 0x20) :
    hexUnit? '0' '0' (Nat.digitChar (c.toNat / 16)) (Nat.digitChar (c.toNat % 16)) =
      some c.toNat := by
  have h0 : hexValue? '0' = some 0 := by decide
  unfold hexUnit?
  rw [h0, hexValue?_digitChar _ (by omega), hexValue?_digitChar _ (by omega)]
  simp only [Option.some.injEq]
  omega

theorem ofUnit_toNat {c : Char} (h : c.toNat < 0x20) : Piece.ofUnit c.toNat = .char c := by
  unfold Piece.ofUnit
  rw [if_neg (by omega), if_neg (by omega), Char.ofNat_toNat]

theorem readPieces_plain {c : Char} (hq : c ≠ '"') (hb : c ≠ '\\') (h : ¬ c.toNat < 0x20)
    (rest : List Char) : readPieces (c :: rest) = push (.char c) (readPieces rest) := by
  rw [readPieces.eq_def]
  simp only
  rw [if_neg hq, if_neg hb, if_neg h]

theorem readPieces_escaped {e c : Char} (hu : e ≠ 'u') (h : escaped? e = some c)
    (rest : List Char) : readPieces ('\\' :: e :: rest) = push (.char c) (readPieces rest) := by
  rw [readPieces.eq_def]
  simp only
  rw [if_neg (by decide), if_true, if_neg hu, h]

theorem readPieces_unit {a b c d : Char} {unit : Nat} (h : hexUnit? a b c d = some unit)
    (rest : List Char) :
    readPieces ('\\' :: 'u' :: a :: b :: c :: d :: rest) =
      push (Piece.ofUnit unit) (readPieces rest) := by
  rw [readPieces.eq_def]
  simp only
  rw [if_neg (by decide), if_true, if_true, h]

/-- A printed character is read as that character. -/
theorem readPieces_escape (c : Char) (rest : List Char) :
    readPieces (escape c ++ rest) = push (.char c) (readPieces rest) := by
  unfold escape
  -- the seven characters with an escape of their own
  iterate 7
    split
    · subst c; exact readPieces_escaped (by decide) rfl rest
  split
  · rename_i h
    rw [← ofUnit_toNat h]
    exact readPieces_unit (hexUnit?_control h) rest
  · rename_i hq hb _ _ _ _ _ h
    exact readPieces_plain hq hb h rest

theorem readPieces_flatMap_escape (rest : List Char) : ∀ text : List Char,
    readPieces (text.flatMap escape ++ '"' :: rest) = (text.map Piece.char, .ok rest)
  | [] => by
    rw [readPieces.eq_def]
    rfl
  | c :: text => by
    rw [List.flatMap_cons, List.append_assoc, readPieces_escape,
      readPieces_flatMap_escape rest text]
    rfl

/-- **Every string is read as it was printed.** -/
theorem readString_flatMap_escape (s : String) (rest : List Char) :
    readString (s.toList.flatMap escape ++ '"' :: rest) = (text s, .ok rest) := by
  unfold readString
  rw [readPieces_flatMap_escape]
  simp only [decode?_chars, Option.map_some, String.ofList_toList]
  rfl

/-! ## Whole numbers -/

/-- What can follow a value inside of a text: nothing, or a sign between or after values. -/
def Delimits (rest : List Char) : Prop := ∀ c ∈ rest.head?, c = ',' ∨ c = ']' ∨ c = '\x7d'

/-- The digits of a number end where nothing but a delimiter follows. -/
theorem readDigits_append {digits rest : List Char} (hne : digits ≠ [])
    (hd : ∀ c ∈ digits, c.isDigit = true) (hr : Delimits rest)
    (next : List Char → List Char → Reading Json) :
    readDigits (digits ++ rest) next = next digits rest := by
  have hstop : rest.takeWhile Char.isDigit = [] ∧ rest.dropWhile Char.isDigit = rest := by
    cases rest with
    | nil => exact ⟨rfl, rfl⟩
    | cons c rest =>
      have hc : c.isDigit = false := by
        rcases hr c rfl with rfl | rfl | rfl <;> decide
      exact ⟨List.takeWhile_cons_of_neg (by simp [hc]), List.dropWhile_cons_of_neg (by simp [hc])⟩
  cases digits with
  | nil => exact absurd rfl hne
  | cons c digits =>
    have ht : ((c :: digits) ++ rest).takeWhile Char.isDigit = c :: digits := by
      rw [List.takeWhile_append_of_pos hd, hstop.1, List.append_nil]
    have hdrop : ((c :: digits) ++ rest).dropWhile Char.isDigit = rest := by
      rw [List.dropWhile_append_of_pos hd, hstop.2]
    rw [List.cons_append] at ht hdrop ⊢
    unfold readDigits
    simp only [ht, hdrop]
    rw [if_pos (hd c List.mem_cons_self)]

/-- No number but zero is printed with a zero in front. -/
theorem head?_toDigits {n : Nat} (h : 0 < n) : (Nat.toDigits 10 n).head? ≠ some '0' := by
  induction n using Nat.strongRecOn with
  | ind n ih =>
    by_cases hlt : n < 10
    · rw [Nat.toDigits_of_lt_base hlt, List.head?_cons]
      simp only [ne_eq, Option.some.injEq, Nat.digitChar_eq_zero]
      omega
    · have hq := ih (n / 10) (by omega) (by omega)
      rw [Nat.toDigits_of_base_le (by decide) (by omega)]
      cases hd : Nat.toDigits 10 (n / 10) with
      | nil => exact absurd hd Nat.toDigits_ne_nil
      | cons c rest => rw [hd] at hq; exact hq

theorem le_ofDigitChars : ∀ (digits : List Char) (n : Nat), n ≤ Nat.ofDigitChars 10 digits n
  | [], _ => Nat.le_of_eq Nat.ofDigitChars_nil.symm
  | c :: digits, n => by
    rw [Nat.ofDigitChars_cons]
    have := le_ofDigitChars digits (10 * n + (c.toNat - '0'.toNat))
    omega

/-- The leading digits of a number that fits are all its digits. -/
theorem ofWhole_of_fits : ∀ (digits : List Char) (n : Nat),
    Nat.ofDigitChars 10 digits n < 18446744073709551616 →
      Magnitude.ofWhole n digits = ⟨Nat.ofDigitChars 10 digits n, 0⟩
  | [], n, _ => by rw [Nat.ofDigitChars_nil]; rfl
  | c :: digits, n, h => by
    have hpush : Magnitude.push n c = 10 * n + (c.toNat - '0'.toNat) := by
      unfold Magnitude.push
      rw [Nat.mul_comm]
      rfl
    rw [Nat.ofDigitChars_cons] at h ⊢
    have hle := le_ofDigitChars digits (10 * n + (c.toNat - '0'.toNat))
    have hfits : Magnitude.fits (Magnitude.push n c) = true := by
      unfold Magnitude.fits
      rw [hpush]
      exact decide_eq_true (by omega)
    rw [Magnitude.ofWhole, if_pos hfits, hpush]
    exact ofWhole_of_fits digits _ h

/-- Rounding at most doubles a number. -/
theorem nearestDouble_le (n : Nat) : nearestDouble n ≤ 2 * n := by
  by_cases h0 : n = 0
  · subst h0; decide
  have hunit : 1 <<< (n.log2 - 52) ≤ n := by
    rw [Nat.one_shiftLeft]
    exact Nat.le_trans (Nat.pow_le_pow_right (by decide) (Nat.sub_le _ _)) (Nat.log2_self_le h0)
  have hdiv : n / (1 <<< (n.log2 - 52)) * (1 <<< (n.log2 - 52)) ≤ n := Nat.div_mul_le_self _ _
  unfold nearestDouble
  simp only
  split
  · omega
  · rw [Nat.add_mul, Nat.one_mul]
    omega

theorem overflows_of_fits {n : Nat} (h : n < 18446744073709551616) :
    Magnitude.overflows ⟨n, 0⟩ = false := by
  unfold Magnitude.overflows
  split
  · rfl
  · have hone : nearestDouble (Nat.pow 10 (0 : Int).toNat) = 1 := nearestDouble_eq_self (by decide)
    have hlimit : 36893488147419103232 ≤ doubleLimit := by decide +kernel
    have := nearestDouble_le n
    rw [if_neg (show ¬ (308 : Int) < 0 by decide)]
    simp only [hone, Nat.mul_one, decide_eq_false_iff_not, Nat.not_le]
    omega

/-- The digits of a number of 64 bits stand for it, after a sign that fits it. -/
theorem numeralOf_toDigits {n : Nat} (h : n < 18446744073709551616) {negative : Bool}
    (hneg : negative = true → n ≠ 0) :
    numeralOf negative (Nat.toDigits 10 n) [] true 0 =
      .whole (if negative then -(n : Int) else n) := by
  have hw : Magnitude.ofWhole 0 (Nat.toDigits 10 n) = ⟨n, 0⟩ := by
    rw [ofWhole_of_fits, Nat.ofDigitChars_ten_toDigits]
    rwa [Nat.ofDigitChars_ten_toDigits]
  have hs : ((Magnitude.mk n 0).withFraction []).scaled 0 = ⟨n, 0⟩ := rfl
  unfold numeralOf
  simp only [hw, hs, overflows_of_fits h, digitsValue_toDigits]
  cases negative with
  | false => simp
  | true => simp [hneg rfl]

/-- **Every whole number of 64 bits is read as it was printed**, after its sign. -/
theorem readNumber_toDigits {n : Nat} (h : n < 18446744073709551616) {negative : Bool}
    (hneg : negative = true → n ≠ 0) {rest : List Char} (hr : Delimits rest) :
    readNumber negative (Nat.toDigits 10 n ++ rest) =
      (int (if negative then -(n : Int) else n), .ok rest) := by
  have hzero : ¬ ((Nat.toDigits 10 n).head? = some '0' ∧ 1 < (Nat.toDigits 10 n).length) := by
    rintro ⟨hh, hl⟩
    by_cases h0 : 0 < n
    · exact head?_toDigits h0 hh
    · obtain rfl : n = 0 := by omega
      exact absurd hl (by decide)
  unfold readNumber
  rw [readDigits_append Nat.toDigits_ne_nil
    (fun c => Nat.isDigit_of_mem_toDigits (by decide) (by decide)) hr]
  simp only [if_neg hzero]
  cases rest with
  | nil =>
    unfold readFraction readExponent
    simp only [numeralOf_toDigits h hneg]
    rfl
  | cons c rest =>
    have hc : c ≠ '.' ∧ c ≠ 'e' ∧ c ≠ 'E' := by
      rcases hr c rfl with rfl | rfl | rfl <;> decide
    unfold readFraction
    split
    · rename_i heq
      exact absurd (List.cons.inj heq).1 hc.1
    · unfold readExponent
      simp only
      rw [if_neg (by simp [hc]), numeralOf_toDigits h hneg]
      rfl

end Marc.Json
