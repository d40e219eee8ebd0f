/-!
# Texts as lists of characters

What the rest of the library asks of a text: to which class a character belongs, what white space
stands at the ends, whether another text is in it, and which number its digits stand for.

* A class of characters is a table of inclusive ranges of code points (`CharTable`), and
  `CharTable.has` is the membership test.
* `isBlank` is the property White_Space of Unicode. `trim`, and `trimmed` on strings, is the `trim`
  of strings: it cuts white space off both ends.
* `holds` is the `contains` of strings.
* Two classes of digits are in use. A *decimal digit* is any character of the Unicode category Nd,
  the class `\d` of a pattern; it decides where a run of digits begins and ends. An integer is
  *read* from ASCII digits only (`Char.isDigit`), after an optional sign: `readInt` is the `parse`
  of integers.

Results:
* `CharTable.not_has_of_apart`: classes whose ranges lie apart share no character.
* `holds_iff`: the search answers for `<:+:`.
* `isDecimalDigit_of_isDigit`: every ASCII digit is a decimal digit.
* `readNat_eq_some`: a number is read exactly from a nonempty run of ASCII digits.
-/

namespace Marc.Text

/-! ## Classes of characters -/

/-- A class of characters, as inclusive ranges of code points. -/
abbrev CharTable := List (Nat × Nat)

/-- Whether the character is in the class. -/
def CharTable.has (table : CharTable) (c : Char) : Bool :=
  table.any fun range => decide (range.1 ≤ c.toNat) && decide (c.toNat ≤ range.2)

theorem CharTable.has_iff {table : CharTable} {c : Char} :
    table.has c = true ↔ ∃ range ∈ table, range.1 ≤ c.toNat ∧ c.toNat ≤ range.2 := by
  simp [CharTable.has]

/-- A character of one class is in no class whose ranges lie apart from those of the first. -/
theorem CharTable.not_has_of_apart {table other : CharTable} {c : Char}
    (h : ∀ a ∈ table, ∀ b ∈ other, a.2 < b.1 ∨ b.2 < a.1) (hc : table.has c = true) :
    other.has c = false := by
  rw [Bool.eq_false_iff]
  intro ho
  obtain ⟨a, ha, hlo, hhi⟩ := has_iff.mp hc
  obtain ⟨b, hb, hlo', hhi'⟩ := has_iff.mp ho
  have hapart := h a ha b hb
  omega

/-! ## White space and the ends of a text -/

/-- The text without the longest run of `p` at its end. -/
def dropEndWhile {α : Type} (p : α → Bool) (text : List α) : List α :=
  (text.reverse.dropWhile p).reverse

/-- The characters with the property White_Space. -/
def whiteSpace : CharTable :=
  [(0x9, 0xd), (0x20, 0x20), (0x85, 0x85), (0xa0, 0xa0), (0x1680, 0x1680), (0x2000, 0x200a),
   (0x2028, 0x2029), (0x202f, 0x202f), (0x205f, 0x205f), (0x3000, 0x3000)]

/-- Whether the character is white space. -/
def isBlank (c : Char) : Bool := whiteSpace.has c

/-- The text without white space at its ends. -/
def trim (text : List Char) : List Char := dropEndWhile isBlank (text.dropWhile isBlank)

/-- The string without white space at its ends. -/
def trimmed (s : String) : String := String.ofList (trim s.toList)

/-- The string holds nothing but white space. -/
def IsWhite (s : String) : Prop := ∀ c ∈ s.toList, isBlank c = true

/-! ## Searching -/

section Search

variable {α : Type} [BEq α] [LawfulBEq α]

/-- Whether the text holds `part` as a run of its characters. -/
def holds (part : List α) : List α → Bool
  | [] => part.isEmpty
  | c :: rest => part.isPrefixOf (c :: rest) || holds part rest

theorem holds_iff {part text : List α} : holds part text = true ↔ part <:+: text := by
  induction text with
  | nil => simp [holds]
  | cons c rest ih =>
    rw [holds, Bool.or_eq_true, ih, List.isPrefixOf_iff_prefix, List.infix_cons_iff]

end Search

/-! ## Digits and integers -/

/-- The characters of category Nd. -/
def decimalDigits : CharTable :=
  [(0x30, 0x39), (0x660, 0x669), (0x6f0, 0x6f9), (0x7c0, 0x7c9), (0x966, 0x96f), (0x9e6, 0x9ef),
   (0xa66, 0xa6f), (0xae6, 0xaef), (0xb66, 0xb6f), (0xbe6, 0xbef), (0xc66, 0xc6f), (0xce6, 0xcef),
   (0xd66, 0xd6f), (0xde6, 0xdef), (0xe50, 0xe59), (0xed0, 0xed9), (0xf20, 0xf29),
   (0x1040, 0x1049), (0x1090, 0x1099), (0x17e0, 0x17e9), (0x1810, 0x1819), (0x1946, 0x194f),
   (0x19d0, 0x19d9), (0x1a80, 0x1a89), (0x1a90, 0x1a99), (0x1b50, 0x1b59), (0x1bb0, 0x1bb9),
   (0x1c40, 0x1c49), (0x1c50, 0x1c59), (0xa620, 0xa629), (0xa8d0, 0xa8d9), (0xa900, 0xa909),
   (0xa9d0, 0xa9d9), (0xa9f0, 0xa9f9), (0xaa50, 0xaa59), (0xabf0, 0xabf9), (0xff10, 0xff19),
   (0x104a0, 0x104a9), (0x10d30, 0x10d39), (0x10d40, 0x10d49), (0x11066, 0x1106f),
   (0x110f0, 0x110f9), (0x11136, 0x1113f), (0x111d0, 0x111d9), (0x112f0, 0x112f9),
   (0x11450, 0x11459), (0x114d0, 0x114d9), (0x11650, 0x11659), (0x116c0, 0x116c9),
   (0x116d0, 0x116e3), (0x11730, 0x11739), (0x118e0, 0x118e9), (0x11950, 0x11959),
   (0x11bf0, 0x11bf9), (0x11c50, 0x11c59), (0x11d50, 0x11d59), (0x11da0, 0x11da9),
   (0x11f50, 0x11f59), (0x16130, 0x16139), (0x16a60, 0x16a69), (0x16ac0, 0x16ac9),
   (0x16b50, 0x16b59), (0x16d70, 0x16d79), (0x1ccf0, 0x1ccf9), (0x1d7ce, 0x1d7ff),
   (0x1e140, 0x1e149), (0x1e2f0, 0x1e2f9), (0x1e4f0, 0x1e4f9), (0x1e5f1, 0x1e5fa),
   (0x1e950, 0x1e959), (0x1fbf0, 0x1fbf9)]

/-- Whether the character is a decimal digit of some script. -/
def isDecimalDigit (c : Char) : Bool := decimalDigits.has c

theorem isDecimalDigit_of_isDigit {c : Char} (h : c.isDigit = true) : isDecimalDigit c = true := by
  simp only [Char.isDigit, Bool.and_eq_true, decide_eq_true_eq] at h
  exact CharTable.has_iff.mpr ⟨(0x30, 0x39), by simp [decimalDigits], h.1, h.2⟩

/-- The number that a run of ASCII digits stands for. -/
def digitsValue (digits : List Char) : Nat := Nat.ofDigitChars 10 digits 0

/-- The decimal digits of a number stand for the number. -/
theorem digitsValue_toDigits (n : Nat) : digitsValue (Nat.toDigits 10 n) = n :=
  Nat.ofDigitChars_toDigits (by decide) (by decide)

/-- A natural number: one ASCII digit or more, and nothing else. -/
def readNat (text : List Char) : Option Nat :=
  if !text.isEmpty && text.all Char.isDigit then some (digitsValue text) else none

/-- An integer: an optional sign and a natural number. -/
def readInt : List Char → Option Int
  | '-' :: digits => (readNat digits).map fun n => -(n : Int)
  | '+' :: digits => (readNat digits).map Int.ofNat
  | digits => (readNat digits).map Int.ofNat

theorem readNat_eq_some {text : List Char} {n : Nat} :
    readNat text = some n ↔
      text ≠ [] ∧ (∀ c ∈ text, c.isDigit = true) ∧ digitsValue text = n := by
  rw [readNat]
  split
  · rename_i h
    simp only [Bool.and_eq_true, Bool.not_eq_true', List.isEmpty_eq_false_iff,
      List.all_eq_true] at h
    exact ⟨fun e => ⟨h.1, h.2, Option.some.inj e⟩, fun e => congrArg some e.2.2⟩
  · rename_i h
    simp only [Bool.and_eq_true, Bool.not_eq_true', List.isEmpty_eq_false_iff,
      List.all_eq_true] at h
    simp only [reduceCtorEq, false_iff]
    exact fun g => h ⟨g.1, g.2.1⟩

end Marc.Text
