import Marc.Json.Decoder
import Marc.Proofs.Json.Scalars

/-!
# Reading undoes printing

A value is `Complete` when a text can hold all of it: nothing in it breaks off, and its numbers are
whole and of at most 64 bits. Such a value is read as it was printed.

* `readsBack_of_complete`: **a complete value is read in front of whatever may follow it**, once
  the fuel is three times the length of its text. By induction on the value; lists and objects go
  by induction on their items and members (`readItem_printItems`, `readMember_printMembers`).
* `read_compact`: read by itself, it is followed by no break.
* `decodeText_print`: **decoding a printed text is decoding the value.**
-/

namespace Marc.Json

open Text

/-! ## Complete values -/

/-- A value that a text can hold to its end. -/
inductive Complete : Json → Prop where
  | null : Complete .null
  | bool (b : Bool) : Complete (.bool b)
  | int {n : Int} (h : n.natAbs < 18446744073709551616) : Complete (int n)
  | text (s : String) : Complete (text s)
  | list {items : List Json} (h : ∀ item ∈ items, Complete item) : Complete (list items)
  | record {members : List (String × Json)} (h : ∀ member ∈ members, Complete member.2) :
      Complete (record members)

/-- Members with names that stand for characters. -/
def named (members : List (String × Json)) : List (Option String × Json) :=
  members.map fun member => (some member.1, member.2)

/-- The value is read as it was printed, in front of anything that may follow a value. -/
def ReadsBack (value : Json) : Prop :=
  ∀ (fuel : Nat) (rest : List Char), Delimits rest → 3 * (compact value).length ≤ fuel →
    readValue fuel (compact value ++ rest) = (value, .ok rest)

/-! ## The front of a text -/

theorem delimits_nil : Delimits [] := fun _ h => absurd h (by simp)

theorem delimits_cons {c : Char} (h : c = ',' ∨ c = ']' ∨ c = '\x7d') (rest : List Char) :
    Delimits (c :: rest) := fun d hd => by
  obtain rfl : c = d := by simpa using hd
  exact h

theorem skipSpaces_cons {c : Char} (h : isSpace c = false) (rest : List Char) :
    skipSpaces (c :: rest) = c :: rest :=
  List.dropWhile_cons_of_neg (by simp [h])

theorem ne_of_isDigit {c d : Char} (h : c.isDigit = true) (hd : d.isDigit = false) : c ≠ d := by
  rintro rfl
  rw [h] at hd
  exact Bool.noConfusion hd

theorem isSpace_of_isDigit {c : Char} (h : c.isDigit = true) : isSpace c = false := by
  unfold isSpace
  simp [ne_of_isDigit h (show Char.isDigit ' ' = false by decide),
    ne_of_isDigit h (show Char.isDigit '\n' = false by decide),
    ne_of_isDigit h (show Char.isDigit '\t' = false by decide),
    ne_of_isDigit h (show Char.isDigit '\r' = false by decide)]

/-- A printed number starts with a digit. -/
theorem toDigits_head (n : Nat) : ∃ c rest, Nat.toDigits 10 n = c :: rest ∧ c.isDigit = true := by
  cases h : Nat.toDigits 10 n with
  | nil => exact absurd h Nat.toDigits_ne_nil
  | cons c rest =>
    have hmem : c ∈ Nat.toDigits 10 n := h ▸ List.mem_cons_self
    exact ⟨c, rest, rfl, Nat.isDigit_of_mem_toDigits (by decide) (by decide) hmem⟩

/-- The first character of a printed value is neither white space nor a bracket that closes. -/
theorem compact_head {value : Json} (h : Complete value) :
    ∃ c rest, compact value = c :: rest ∧ isSpace c = false ∧ c ≠ ']' := by
  cases h with
  | null => exact ⟨_, _, rfl, by decide, by decide⟩
  | bool b => cases b <;> exact ⟨_, _, rfl, by decide, by decide⟩
  | @int n _ =>
    cases n with
    | ofNat n =>
      obtain ⟨c, rest, hc, hd⟩ := toDigits_head n
      exact ⟨c, rest, hc, isSpace_of_isDigit hd, ne_of_isDigit hd (by decide)⟩
    | negSucc n => exact ⟨_, _, rfl, by decide, by decide⟩
  | text s => exact ⟨_, _, rfl, by decide, by decide⟩
  | list h => exact ⟨'[', _, rfl, by decide, by decide⟩
  | record h => exact ⟨'\x7b', _, rfl, by decide, by decide⟩

/-! ## Scalars -/

/-- A value that is written as a word is read back, if its first letter leads to the others. -/
theorem readsBack_word {value : Json} {c : Char} {word : List Char}
    (hprint : compact value = c :: word)
    (hread : ∀ fuel text, readValue (fuel + 1) (c :: text) = readWord value word text) :
    ReadsBack value := by
  intro fuel rest _ hf
  rw [hprint] at hf ⊢
  cases fuel with
  | zero => exact absurd hf (by simp)
  | succ fuel => rw [List.cons_append, hread, readWord_append]

theorem readsBack_null : ReadsBack .null := by
  refine readsBack_word rfl fun fuel text => ?_
  unfold readValue
  rw [skipSpaces_cons (by decide)]
  rfl

theorem readsBack_bool (b : Bool) : ReadsBack (.bool b) := by
  cases b with
  | true =>
    refine readsBack_word rfl fun fuel text => ?_
    unfold readValue
    rw [skipSpaces_cons (by decide)]
    rfl
  | false =>
    refine readsBack_word rfl fun fuel text => ?_
    unfold readValue
    rw [skipSpaces_cons (by decide)]
    rfl

theorem readsBack_text (s : String) : ReadsBack (text s) := by
  intro fuel rest _ hf
  cases fuel with
  | zero => exact absurd hf (by simp [text, compact, printString])
  | succ fuel =>
    have hc : compact (text s) ++ rest = '"' :: (s.toList.flatMap escape ++ '"' :: rest) := by
      simp [text, compact, printString]
    rw [hc]
    unfold readValue
    rw [skipSpaces_cons (by decide)]
    exact readString_flatMap_escape s rest

/-- A value that starts with a digit is a number. -/
theorem readValue_digit {c : Char} (h : c.isDigit = true) (fuel : Nat) (rest : List Char) :
    readValue (fuel + 1) (c :: rest) = readNumber false (c :: rest) := by
  have hne (d : Char) (hd : d.isDigit = false) : c ≠ d := ne_of_isDigit h hd
  unfold readValue
  rw [skipSpaces_cons (isSpace_of_isDigit h)]
  simp only
  rw [if_neg (hne _ (by decide)), if_neg (hne _ (by decide)), if_neg (hne _ (by decide)),
    if_neg (hne _ (by decide)), if_neg (hne _ (by decide)), if_neg (hne _ (by decide)),
    if_neg (hne _ (by decide)), if_pos h]

theorem readsBack_int {n : Int} (h : n.natAbs < 18446744073709551616) : ReadsBack (int n) := by
  intro fuel rest hr hf
  obtain ⟨c, tail, hc, -, -⟩ := compact_head (Complete.int h)
  cases fuel with
  | zero => exact absurd hf (by simp [hc])
  | succ fuel =>
    cases n with
    | ofNat n =>
      obtain ⟨c, tail, hdigits, hd⟩ := toDigits_head n
      have hread : readNumber false (Nat.toDigits 10 n ++ rest) = (int (Int.ofNat n), .ok rest) :=
        readNumber_toDigits h (by simp) hr
      show readValue (fuel + 1) (Nat.toDigits 10 n ++ rest) = _
      rw [hdigits, List.cons_append] at hread ⊢
      rw [readValue_digit hd, hread]
    | negSucc n =>
      have hread : readNumber true (Nat.toDigits 10 (n + 1) ++ rest) =
          (int (Int.negSucc n), .ok rest) :=
        readNumber_toDigits h (by simp) hr
      show readValue (fuel + 1) ('-' :: (Nat.toDigits 10 (n + 1) ++ rest)) = _
      unfold readValue
      rw [skipSpaces_cons (by decide)]
      exact hread

/-! ## Lists -/

/-- An item that is read back is followed by the items after it. -/
theorem readItem_compact {value : Json} (h : ReadsBack value) {fuel : Nat} {rest : List Char}
    (hr : Delimits rest) (hf : 3 * (compact value).length ≤ fuel) :
    readItem (fuel + 1) (compact value ++ rest) =
      (value :: (readItems fuel false rest).1, (readItems fuel false rest).2) := by
  unfold readItem
  rw [h fuel rest hr hf]

theorem readItems_close (fuel : Nat) (isFirst : Bool) (rest : List Char) :
    readItems (fuel + 1) isFirst (']' :: rest) = ([], .ok rest) := by
  unfold readItems
  rw [skipSpaces_cons (by decide)]
  rfl

theorem readItems_comma (fuel : Nat) (rest : List Char) :
    readItems (fuel + 1) false (',' :: rest) = readItem fuel rest := by
  unfold readItems
  rw [skipSpaces_cons (by decide)]
  rfl

/-- Items in a row start as the first of them does. -/
theorem printItems_head {item : Json} (items : List Json) (h : Complete item) :
    ∃ c rest, printItems (item :: items) = c :: rest ∧ isSpace c = false ∧ c ≠ ']' := by
  obtain ⟨c, rest, hc, hspace, hbracket⟩ := compact_head h
  cases items with
  | nil => exact ⟨c, rest, by rw [printItems, hc], hspace, hbracket⟩
  | cons next items =>
    exact ⟨c, _, by rw [printItems, hc, List.cons_append]; simp, hspace, hbracket⟩

/-- Items in a row are read up to the bracket. -/
theorem readItem_printItems (rest : List Char) : ∀ (items : List Json) (item : Json) (fuel : Nat),
    (∀ value ∈ item :: items, ReadsBack value) →
    3 * (printItems (item :: items)).length + 3 ≤ fuel →
    readItem fuel (printItems (item :: items) ++ ']' :: rest) = (item :: items, .ok rest)
  | _, _, 0, _, hf => absurd hf (by omega)
  | [], item, fuel + 1, h, hf => by
    unfold printItems at hf ⊢
    rw [readItem_compact (h item List.mem_cons_self) (delimits_cons (by simp) rest) (by omega)]
    obtain ⟨fuel, rfl⟩ : ∃ n, fuel = n + 1 := ⟨fuel - 1, by omega⟩
    rw [readItems_close]
  | next :: items, item, fuel + 1, h, hf => by
    have hprint : printItems (item :: next :: items) =
        compact item ++ ',' :: printItems (next :: items) := by rw [printItems]; simp
    rw [hprint, List.length_append, List.length_cons] at hf
    rw [hprint, List.append_assoc, List.cons_append,
      readItem_compact (h item List.mem_cons_self) (delimits_cons (by simp) _) (by omega)]
    obtain ⟨fuel, rfl⟩ : ∃ n, fuel = n + 1 := ⟨fuel - 1, by omega⟩
    rw [readItems_comma, readItem_printItems rest items next fuel
      (fun value hv => h value (List.mem_cons_of_mem _ hv)) (by omega)]

theorem readsBack_list {items : List Json} (hc : ∀ item ∈ items, Complete item)
    (h : ∀ item ∈ items, ReadsBack item) : ReadsBack (list items) := by
  intro fuel rest _ hf
  have hprint : compact (list items) ++ rest = '[' :: (printItems items ++ ']' :: rest) := by
    simp [list, compact]
  have hlength : (compact (list items)).length = (printItems items).length + 2 := by
    simp [list, compact]
  obtain ⟨fuel, rfl⟩ : ∃ n, fuel = n + 2 := ⟨fuel - 2, by omega⟩
  have hitems : readItems (fuel + 1) true (printItems items ++ ']' :: rest) =
      (items, .ok rest) := by
    cases items with
    | nil => exact readItems_close fuel true rest
    | cons item items =>
      have hread := readItem_printItems rest items item fuel h (by omega)
      obtain ⟨c, tail, hhead, hspace, hbracket⟩ :=
        printItems_head items (hc item List.mem_cons_self)
      rw [hhead, List.cons_append] at hread ⊢
      unfold readItems
      rw [skipSpaces_cons hspace]
      simp only
      rw [if_neg hbracket, if_true, hread]
  rw [hprint]
  unfold readValue
  rw [skipSpaces_cons (by decide)]
  show (Json.array (readItems (fuel + 1) true (printItems items ++ ']' :: rest)).1 _, _) = _
  rw [hitems]
  rfl

/-! ## Objects -/

/-- A member whose value is read back is followed by the members after it. -/
theorem readMember_compact {value : Json} (h : ReadsBack value) (name : String) {fuel : Nat}
    {rest : List Char} (hr : Delimits rest) (hf : 3 * (compact value).length ≤ fuel) :
    readMember (fuel + 1) (printString name ++ ':' :: (compact value ++ rest)) =
      ((some name, value) :: (readMembers fuel false rest).1, (readMembers fuel false rest).2) := by
  have hprint : printString name ++ ':' :: (compact value ++ rest) =
      '"' :: (name.toList.flatMap escape ++ '"' :: ':' :: (compact value ++ rest)) := by
    simp [printString]
  rw [hprint]
  unfold readMember
  rw [skipSpaces_cons (by decide)]
  simp only [if_true, readPieces_flatMap_escape]
  rw [skipSpaces_cons (by decide)]
  simp only [if_true, h fuel rest hr hf, decode?_chars, Option.map_some, String.ofList_toList]

theorem readMembers_close (fuel : Nat) (isFirst : Bool) (rest : List Char) :
    readMembers (fuel + 1) isFirst ('\x7d' :: rest) = ([], .ok rest) := by
  unfold readMembers
  rw [skipSpaces_cons (by decide)]
  rfl

theorem readMembers_comma (fuel : Nat) (rest : List Char) :
    readMembers (fuel + 1) false (',' :: rest) = readMember fuel rest := by
  unfold readMembers
  rw [skipSpaces_cons (by decide)]
  rfl

/-- Members in a row are read up to the brace. -/
theorem readMember_printMembers (rest : List Char) :
    ∀ (members : List (String × Json)) (member : String × Json) (fuel : Nat),
    (∀ entry ∈ member :: members, ReadsBack entry.2) →
    3 * (printMembers (named (member :: members))).length + 3 ≤ fuel →
    readMember fuel (printMembers (named (member :: members)) ++ '\x7d' :: rest) =
      (named (member :: members), .ok rest)
  | _, _, 0, _, hf => absurd hf (by omega)
  | [], member, fuel + 1, h, hf => by
    have hprint : printMembers (named [member]) =
        printString member.1 ++ ':' :: compact member.2 := by simp [named, printMembers]
    rw [hprint, List.length_append, List.length_cons] at hf
    rw [hprint, List.append_assoc, List.cons_append,
      readMember_compact (h member List.mem_cons_self) member.1 (delimits_cons (by simp) rest)
        (by omega)]
    obtain ⟨fuel, rfl⟩ : ∃ n, fuel = n + 1 := ⟨fuel - 1, by omega⟩
    rw [readMembers_close]
    rfl
  | next :: members, member, fuel + 1, h, hf => by
    have hprint : printMembers (named (member :: next :: members)) =
        printString member.1 ++
          ':' :: (compact member.2 ++ ',' :: printMembers (named (next :: members))) := by
      simp [named, printMembers]
    rw [hprint, List.length_append, List.length_cons, List.length_append, List.length_cons] at hf
    rw [hprint, List.append_assoc, List.cons_append, List.append_assoc, List.cons_append,
      readMember_compact (h member List.mem_cons_self) member.1 (delimits_cons (by simp) _)
        (by omega)]
    obtain ⟨fuel, rfl⟩ : ∃ n, fuel = n + 1 := ⟨fuel - 1, by omega⟩
    rw [readMembers_comma, readMember_printMembers rest members next fuel
      (fun entry he => h entry (List.mem_cons_of_mem _ he)) (by omega)]
    rfl

/-- Members in a row start with the quote of the first name. -/
theorem printMembers_head (member : String × Json) (members : List (String × Json)) :
    ∃ tail, printMembers (named (member :: members)) = '"' :: tail := by
  cases members <;> exact ⟨_, rfl⟩

theorem readsBack_record {members : List (String × Json)}
    (h : ∀ member ∈ members, ReadsBack member.2) : ReadsBack (record members) := by
  intro fuel rest _ hf
  have hprint : compact (record members) ++ rest =
      '\x7b' :: (printMembers (named members) ++ '\x7d' :: rest) := by
    simp [record, compact, named]
  have hlength : (compact (record members)).length =
      (printMembers (named members)).length + 2 := by
    simp [record, compact, named]
  obtain ⟨fuel, rfl⟩ : ∃ n, fuel = n + 2 := ⟨fuel - 2, by omega⟩
  have hmembers : readMembers (fuel + 1) true (printMembers (named members) ++ '\x7d' :: rest) =
      (named members, .ok rest) := by
    cases members with
    | nil => exact readMembers_close fuel true rest
    | cons member members =>
      have hread := readMember_printMembers rest members member fuel h (by omega)
      obtain ⟨tail, hhead⟩ := printMembers_head member members
      rw [hhead, List.cons_append] at hread ⊢
      unfold readMembers
      rw [skipSpaces_cons (by decide)]
      exact hread
  rw [hprint]
  unfold readValue
  rw [skipSpaces_cons (by decide)]
  show (Json.object
    (readMembers (fuel + 1) true (printMembers (named members) ++ '\x7d' :: rest)).1 _, _) = _
  rw [hmembers]
  rfl

/-! ## Values -/

/-- **A complete value is read in front of whatever may follow it.** -/
theorem readsBack_of_complete {value : Json} (h : Complete value) : ReadsBack value := by
  induction h with
  | null => exact readsBack_null
  | bool b => exact readsBack_bool b
  | int h => exact readsBack_int h
  | text s => exact readsBack_text s
  | list h ih => exact readsBack_list h ih
  | record _ ih => exact readsBack_record ih

/-- By itself it is read to the end. -/
theorem read_compact {value : Json} (h : Complete value) :
    read (compact value) = (value, none) := by
  have hread := readsBack_of_complete h (3 * (compact value).length + 3) [] delimits_nil (by omega)
  rw [List.append_nil] at hread
  unfold read
  rw [hread]
  rfl

theorem read_print {value : Json} (h : Complete value) : read value.print.toList = (value, none) := by
  unfold print
  rw [String.toList_ofList, read_compact h]

/-- **Decoding a printed text is decoding the value.** -/
theorem decodeText_print {ε α : Type} (decode : Json → Except (Problem ε) α) {value : Json}
    (h : Complete value) : decodeText decode value.print = decode value := by
  unfold decodeText
  rw [read_print h]
  cases decode value <;> rfl

end Marc.Json
