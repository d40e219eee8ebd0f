import Marc.Text.Basic
import Mathlib.Algebra.Ring.Nat
import Mathlib.Data.List.Basic
import Mathlib.Data.List.DropRight

/-!
# The ends of a text and the places of its digits

`dropEndWhile` is `List.rdropWhile`, and what it cuts off is `List.rtakeWhile`; what Mathlib knows
of the two is used by name. The lemmas on the last character are given with `List.getLast?`, in
which a text may be empty. From them follows what trimming does.

Then what a run of digits stands for, digit by digit, and from which texts an integer is read.

Results:
* `trim_eq_self`: a text with no white space at either end is left alone, and so is what is trimmed
  already (`trim_trim`).
* `exists_trim_append`: **a text is what trimming leaves of it, between white space.**
* `trim_eq_nil_iff`: nothing is left exactly of white space.
* `digitsValue_cons`: a digit counts by the number of digits behind it.
* `digitsValue_lt`: **the value is bounded by the number of places**.
* `readInt_digits`, `readInt_eq_some`: an integer is a run of digits, behind a sign or alone.
-/

namespace Marc.Text

/-! ## The end of a text -/

section Ends

variable {α : Type} {p : α → Bool} {text rest : List α} {c : α}

theorem dropEndWhile_eq_rdropWhile (p : α → Bool) (text : List α) :
    dropEndWhile p text = text.rdropWhile p := rfl

/-- What remains does not end in the class. -/
theorem getLast_dropEndWhile (h : (dropEndWhile p text).getLast? = some c) : p c = false := by
  obtain ⟨hne, rfl⟩ := List.mem_getLast?_eq_getLast h
  exact Bool.eq_false_iff.mpr (List.rdropWhile_last_not p text hne)

/-- A text that does not end in the class is left alone. -/
theorem dropEndWhile_eq_self (h : ∀ c, text.getLast? = some c → p c = false) :
    dropEndWhile p text = text :=
  List.rdropWhile_eq_self_iff.mpr fun hne =>
    Bool.eq_false_iff.mp (h _ (List.getLast?_eq_getLast_of_ne_nil hne))

/-- What stands at the start and is not in the class is never reached. -/
theorem dropEndWhile_cons_of_neg (hc : p c = false) (text : List α) :
    dropEndWhile p (c :: text) = c :: dropEndWhile p text := by
  rw [dropEndWhile, List.reverse_cons, List.dropWhile_append]
  split
  · rename_i hnil
    rw [List.dropWhile_cons_of_neg (by simp [hc]), dropEndWhile, List.isEmpty_iff.mp hnil]
    rfl
  · rw [List.reverse_concat]
    rfl

/-- Of a text that ends in a run of the class, the run is cut off first. -/
theorem dropWhile_reverse_append (h : ∀ c ∈ rest, p c = true) (text : List α) :
    (text ++ rest).reverse.dropWhile p = text.reverse.dropWhile p := by
  rw [List.reverse_append, List.dropWhile_append_of_pos fun c hc => h c (List.mem_reverse.mp hc)]

end Ends

/-! ## Trimming -/

theorem trim_eq_self {text : List Char} (hs : ∀ c, text.head? = some c → isBlank c = false)
    (he : ∀ c, text.getLast? = some c → isBlank c = false) : trim text = text := by
  have hd : text.dropWhile isBlank = text := by
    cases text with
    | nil => rfl
    | cons c rest => exact List.dropWhile_cons_of_neg (by simp [hs c rfl])
  rw [trim, hd, dropEndWhile_eq_self he]

/-- What is trimmed already is left alone. -/
theorem trim_trim (text : List Char) : trim (trim text) = trim text := by
  refine trim_eq_self (fun c hc => ?_) fun c hc => getLast_dropEndWhile hc
  -- what trimming leaves begins as the text does behind its white space
  have hhead : (text.dropWhile isBlank).head? = some c := by
    rw [← List.rdropWhile_append_rtakeWhile (p := isBlank) (l := text.dropWhile isBlank),
      List.head?_append]
    exact Option.or_eq_some_iff.mpr (.inl hc)
  have hblank := List.head?_dropWhile_not isBlank text
  rw [hhead] at hblank
  exact hblank

/-- White space at the end does not show in the trimmed text. -/
theorem trim_append {rest : List Char} (h : ∀ c ∈ rest, isBlank c = true) (text : List Char) :
    trim (text ++ rest) = trim text := by
  have hrest : rest.dropWhile isBlank = [] := List.dropWhile_eq_nil_iff.mpr h
  unfold trim
  rw [List.dropWhile_append]
  split
  · rename_i hnil
    rw [hrest, List.isEmpty_iff.mp hnil]
  · unfold dropEndWhile
    rw [dropWhile_reverse_append h]

/-- A text is what trimming leaves of it, between white space. -/
theorem exists_trim_append (text : List Char) :
    ∃ before after, text = before ++ (trim text ++ after) ∧
      (∀ c ∈ before, isBlank c = true) ∧ ∀ c ∈ after, isBlank c = true := by
  refine ⟨text.takeWhile isBlank, (text.dropWhile isBlank).rtakeWhile isBlank, ?_,
    fun _ hc => List.mem_takeWhile_imp hc, fun _ hc => List.mem_rtakeWhile_imp hc⟩
  unfold trim
  rw [dropEndWhile_eq_rdropWhile, List.rdropWhile_append_rtakeWhile,
    List.takeWhile_append_dropWhile]

/-- Nothing remains exactly of white space. -/
theorem trim_eq_nil_iff {text : List Char} : trim text = [] ↔ ∀ c ∈ text, isBlank c = true := by
  rw [trim, dropEndWhile_eq_rdropWhile, List.rdropWhile_eq_nil_iff, ← List.dropWhile_eq_nil_iff,
    List.dropWhile_idempotent, List.dropWhile_eq_nil_iff]

theorem trimmed_trimmed (s : String) : trimmed (trimmed s) = trimmed s := by
  rw [trimmed, trimmed, String.toList_ofList, trim_trim]

theorem toList_trimmed (s : String) : (trimmed s).toList = trim s.toList := String.toList_ofList

theorem trimmed_eq_empty_iff {s : String} : trimmed s = "" ↔ IsWhite s := by
  unfold IsWhite
  rw [← trim_eq_nil_iff, ← toList_trimmed, String.toList_eq_nil_iff]

/-! ## Digits -/

/-- The first digit counts by the number of digits behind it. -/
theorem digitsValue_cons (c : Char) (rest : List Char) :
    digitsValue (c :: rest) = (c.toNat - '0'.toNat) * 10 ^ rest.length + digitsValue rest := by
  unfold digitsValue
  rw [Nat.ofDigitChars_cons, Nat.ofDigitChars_eq_ofDigitChars_zero, Nat.mul_zero, Nat.zero_add,
    Nat.mul_comm]

theorem toNat_of_isDigit {c : Char} (h : c.isDigit = true) :
    '0'.toNat ≤ c.toNat ∧ c.toNat ≤ '0'.toNat + 9 := by
  simp only [Char.isDigit, Bool.and_eq_true, decide_eq_true_eq] at h
  exact h

theorem not_isDecimalDigit_of_isBlank {c : Char} (h : isBlank c = true) :
    isDecimalDigit c = false := CharTable.not_has_of_apart (by decide) h

theorem utf8Size_of_isDigit {c : Char} (h : c.isDigit = true) : c.utf8Size = 1 := by
  have hlast : c.toNat ≤ 57 := (toNat_of_isDigit h).2
  rw [Char.utf8Size_eq_one_iff, UInt32.le_iff_toNat_le]
  exact Nat.le_trans hlast (by decide)

/-- What follows a digit does not make up for one more of it. -/
theorem digitsValue_cons_lt_next {rest : List Char} (h : digitsValue rest < 10 ^ rest.length)
    (c : Char) :
    digitsValue (c :: rest) < (c.toNat - '0'.toNat + 1) * 10 ^ rest.length := by
  rw [digitsValue_cons, Nat.succ_mul]
  exact Nat.add_lt_add_left h _

/-- **The value is bounded by the number of places.** -/
theorem digitsValue_lt {digits : List Char} (h : ∀ c ∈ digits, c.isDigit = true) :
    digitsValue digits < 10 ^ digits.length := by
  induction digits with
  | nil => decide
  | cons c rest ih =>
    have hrest := ih fun d hd => h d (List.mem_cons_of_mem c hd)
    have hdigit := (toNat_of_isDigit (h c List.mem_cons_self)).2
    calc
      digitsValue (c :: rest)
        < (c.toNat - '0'.toNat + 1) * 10 ^ rest.length := digitsValue_cons_lt_next hrest c
      _ ≤ 10 * 10 ^ rest.length := Nat.mul_le_mul_right _ (by omega)
      _ = 10 ^ (rest.length + 1) := (Nat.pow_succ').symm

theorem readInt_digits {digits : List Char} (hne : digits ≠ [])
    (h : ∀ c ∈ digits, c.isDigit = true) : readInt digits = some (digitsValue digits : Int) := by
  have hnat : readNat digits = some (digitsValue digits) := readNat_eq_some.mpr ⟨hne, h, rfl⟩
  unfold readInt
  split
  · exact absurd (h '-' List.mem_cons_self) (by decide)
  · exact absurd (h '+' List.mem_cons_self) (by decide)
  · rw [hnat]
    rfl

/-- An integer that is read has digits, behind a sign or alone. -/
theorem readInt_eq_some {text : List Char} {n : Int} (h : readInt text = some n) :
    ∃ (digits : List Char) (m : Nat), readNat digits = some m ∧
      (text = '-' :: digits ∧ n = -(m : Int) ∨ (text = '+' :: digits ∨ text = digits) ∧ n = m) := by
  unfold readInt at h
  split at h
  · -- the number becomes an integer before the sign is put to it
    obtain ⟨k, hk, rfl⟩ := Option.map_eq_some_iff.mp h
    obtain ⟨m, hm, hmk⟩ := Option.bind_eq_some_iff.mp hk
    obtain rfl := Option.some.inj hmk
    exact ⟨_, m, hm, .inl ⟨rfl, rfl⟩⟩
  · obtain ⟨m, hm, rfl⟩ := Option.map_eq_some_iff.mp h
    exact ⟨_, m, hm, .inr ⟨.inl rfl, rfl⟩⟩
  · obtain ⟨m, hm, rfl⟩ := Option.map_eq_some_iff.mp h
    exact ⟨_, m, hm, .inr ⟨.inr rfl, rfl⟩⟩

end Marc.Text
