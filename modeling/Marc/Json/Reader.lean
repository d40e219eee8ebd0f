import Marc.Json.Basic
import Marc.Text.Basic
import Marc.Text.Utf8

/-!
# Reading JSON

`Json.read` reads a text as far as it goes. Every reading function returns what it read together
with the rest of the text, or with the break that keeps it from going on.

A value may break off in a way that depends on whether anyone looks at it: a number cut short at
the end of the text has *ended* for whoever wants the number, and is *malformed* for a reader
that only passes over it. The first is the cause in `Json.broken`, the second is the break that is
returned.

A number is held by its leading digits, as many as fit into 64 bits, and a power of ten
(`Magnitude`). It stands for the product of the two in double precision, where both factors are
rounded to the nearest double first. Numbers for which that product is past the largest finite
double are refused.

Results:
* `nearestDouble_eq_self`: a number of at most 53 bits is a double.
* `readWord_append`: a word is read from the front of a text.
* `decode?_chars`: a string without surrogates stands for its characters.
-/

namespace Marc.Json

/-! ## The size of numbers -/

/-- The double that is nearest to a natural number: the multiple of the least power of two that
leaves at most 53 bits. In the middle between two multiples the even one is nearest. -/
def nearestDouble (n : Nat) : Nat :=
  let unit := 1 <<< (n.log2 - 52)
  if 2 * (n % unit) < unit ∨ (2 * (n % unit) = unit ∧ n / unit % 2 = 0) then n / unit * unit
  else (n / unit + 1) * unit

/-- The least number that is rounded past the largest finite double. -/
def doubleLimit : Nat := (1 <<< 1024) - (1 <<< 970)

/-- The leading digits of a number and the power of ten that goes with them. -/
structure Magnitude where
  significand : Nat
  exponent : Int
  deriving DecidableEq

namespace Magnitude

/-- Whether the leading digits fit into 64 bits. -/
def fits (n : Nat) : Bool := decide (n < 18446744073709551616)

/-- The number `n` with one more digit at its end. -/
def push (n : Nat) (digit : Char) : Nat := n * 10 + (digit.toNat - 48)

/-- The magnitude of the digits before the point, of which `n` were read. The digits from the
first one that does not fit each count as a power of ten. -/
def ofWhole : Nat → List Char → Magnitude
  | n, [] => ⟨n, 0⟩
  | n, digit :: rest =>
    if fits (push n digit) then ofWhole (push n digit) rest else ⟨n, rest.length + 1⟩

/-- The magnitude with the digits after the point, up to the first one that does not fit. -/
def withFraction : List Char → Magnitude → Magnitude
  | [], m => m
  | digit :: rest, m =>
    if fits (push m.significand digit) then
      withFraction rest ⟨push m.significand digit, m.exponent - 1⟩
    else m

/-- The magnitude times a power of ten. -/
def scaled (m : Magnitude) (exponent : Int) : Magnitude :=
  { m with exponent := m.exponent + exponent }

/-- Whether the number is past the largest finite double. No double is as large as ten to the
power 309. -/
def overflows (m : Magnitude) : Bool :=
  if m.significand = 0 ∨ m.exponent < 0 then false
  else if 308 < m.exponent then true
  else
    decide (doubleLimit ≤
      nearestDouble m.significand * nearestDouble (Nat.pow 10 m.exponent.toNat))

end Magnitude

theorem nearestDouble_eq_self {n : Nat} (h : n < 9007199254740992) : nearestDouble n = n := by
  have hu : n.log2 - 52 = 0 := by
    by_cases h0 : n = 0
    · simp [h0]
    · have : n.log2 < 53 := (Nat.log2_lt h0).mpr h
      omega
  simp [nearestDouble, hu, Nat.mod_one]

/-- The number with the given sign, digits before and after the point, and exponent. -/
def numeralOf (negative : Bool) (before after : List Char) (isWhole : Bool) (exponent : Int) :
    Numeral :=
  let n := Text.digitsValue before
  if (((Magnitude.ofWhole 0 before).withFraction after).scaled exponent).overflows then .tooLarge
  else if !isWhole then .real
  else if negative then if n = 0 then .real else .whole (-n)
  else .whole n

/-! ## Reading -/

open Text

/-- What was read, and the rest of the text or the break that follows. -/
abbrev Reading (α : Type) := α × Except Break (List Char)

/-- The break after something read, if there is one. -/
def stopOf : Except Break (List Char) → Option Break
  | .ok _ => none
  | .error cause => some cause

/-- A value that breaks off, for every reader. -/
def stopped (cause : Break) : Reading Json := (.broken cause, .error cause)

/-- A number cut short at the end of the text. -/
def cutShort : Reading Json := (.broken .ended, .error .malformed)

/-- Whether the character may stand between the parts of a JSON text. -/
def isSpace (c : Char) : Bool := c == ' ' || c == '\n' || c == '\t' || c == '\r'

/-- The text without white space at its start. -/
def skipSpaces (text : List Char) : List Char := text.dropWhile isSpace

/-! ## Words -/

/-- The value, once the letters of its word were read. -/
def readWord (value : Json) : List Char → List Char → Reading Json
  | [], rest => (value, .ok rest)
  | _ :: _, [] => stopped .ended
  | w :: word, c :: rest => if c = w then readWord value word rest else stopped .malformed

theorem readWord_append (value : Json) (word rest : List Char) :
    readWord value word (word ++ rest) = (value, .ok rest) := by
  induction word with
  | nil => rfl
  | cons w word ih => rw [List.cons_append, readWord, if_pos rfl, ih]

/-! ## Strings -/

/-- A part of a string as written: a character, or one half of a surrogate pair. -/
inductive Piece where
  | char (c : Char)
  | high (unit : Nat)
  | low (unit : Nat)
  deriving DecidableEq

/-- The part that an escape with four digits stands for. -/
def Piece.ofUnit (unit : Nat) : Piece :=
  if 0xd800 ≤ unit ∧ unit < 0xdc00 then .high unit
  else if 0xdc00 ≤ unit ∧ unit < 0xe000 then .low unit
  else .char (Char.ofNat unit)

/-- The value of a hexadecimal digit. -/
def hexValue? (c : Char) : Option Nat :=
  if c.isDigit then some (c.toNat - 48)
  else if 'a'.toNat ≤ c.toNat ∧ c.toNat ≤ 'f'.toNat then some (c.toNat - 87)
  else if 'A'.toNat ≤ c.toNat ∧ c.toNat ≤ 'F'.toNat then some (c.toNat - 55)
  else none

/-- The value of four hexadecimal digits. -/
def hexUnit? (a b c d : Char) : Option Nat :=
  match hexValue? a, hexValue? b, hexValue? c, hexValue? d with
  | some a, some b, some c, some d => some (((a * 16 + b) * 16 + c) * 16 + d)
  | _, _, _, _ => none

/-- The character that a backslash and a letter or sign stand for. -/
def escaped? (c : Char) : Option Char :=
  if c = '"' ∨ c = '\\' ∨ c = '/' then some c
  else if c = 'b' then some '\x08'
  else if c = 'f' then some '\x0c'
  else if c = 'n' then some '\n'
  else if c = 'r' then some '\r'
  else if c = 't' then some '\t'
  else none

/-- The reading with one more part in front. -/
def push (piece : Piece) (reading : Reading (List Piece)) : Reading (List Piece) :=
  (piece :: reading.1, reading.2)

/-- The parts of a string up to the quote that ends it. -/
def readPieces : List Char → Reading (List Piece)
  | [] => ([], .error .ended)
  | c :: rest =>
    if c = '"' then ([], .ok rest)
    else if c = '\\' then
      match rest with
      | [] => ([], .error .ended)
      | e :: rest =>
        if e = 'u' then
          match rest with
          | a :: b :: c :: d :: rest =>
            match hexUnit? a b c d with
            | some unit => push (Piece.ofUnit unit) (readPieces rest)
            | none => ([], .error .malformed)
          | short => ([], .error (if byteLength short < 4 then .ended else .malformed))
        else
          match escaped? e with
          | some c => push (.char c) (readPieces rest)
          | none => ([], .error .malformed)
    else if c.toNat < 0x20 then ([], .error .malformed)
    else push (.char c) (readPieces rest)

/-- The character of a surrogate pair. -/
def ofPair (high low : Nat) : Char :=
  Char.ofNat (0x10000 + (high - 0xd800) * 0x400 + (low - 0xdc00))

/-- The characters that the parts of a string stand for, unless one half of a pair is alone. -/
def decode? : List Piece → Option (List Char)
  | [] => some []
  | .char c :: rest => (decode? rest).map (c :: ·)
  | .high h :: .low l :: rest => (decode? rest).map (ofPair h l :: ·)
  | .high _ :: _ => none
  | .low _ :: _ => none

/-- Whether one half of a pair is certainly alone, however the string goes on. -/
def holdsLoneHalf : List Piece → Bool
  | [] => false
  | .char _ :: rest => holdsLoneHalf rest
  | .high _ :: .low _ :: rest => holdsLoneHalf rest
  | [.high _] => false
  | .high _ :: _ => true
  | .low _ :: _ => true

/-- The string after its opening quote. A lone half of a pair comes before the break, for a reader
that wants the string. -/
def readString (text : List Char) : Reading Json :=
  match readPieces text with
  | (pieces, .ok rest) => (.string ((decode? pieces).map String.ofList), .ok rest)
  | (pieces, .error cause) =>
    (.broken (if holdsLoneHalf pieces then .malformed else cause), .error cause)

theorem decode?_chars (text : List Char) : decode? (text.map Piece.char) = some text := by
  induction text with
  | nil => rfl
  | cons c rest ih => rw [List.map_cons, decode?, ih]; rfl

/-! ## Numbers -/

/-- The digits at the front of a text, if there are any, and the rest. -/
def readDigits (text : List Char) (next : List Char → List Char → Reading Json) : Reading Json :=
  match text with
  | [] => cutShort
  | c :: rest =>
    if c.isDigit then
      next ((c :: rest).takeWhile Char.isDigit) ((c :: rest).dropWhile Char.isDigit)
    else stopped .malformed

/-- A number from its exponent on. -/
def readExponent (negative : Bool) (before after : List Char) (isWhole : Bool)
    (text : List Char) : Reading Json :=
  let finish (minus : Bool) (digits rest : List Char) : Reading Json :=
    let size : Int := digitsValue digits
    (.number (numeralOf negative before after false (if minus then -size else size)), .ok rest)
  match text with
  | c :: rest =>
    if c = 'e' ∨ c = 'E' then
      match rest with
      | '-' :: rest => readDigits rest (finish true)
      | '+' :: rest => readDigits rest (finish false)
      | rest => readDigits rest (finish false)
    else (.number (numeralOf negative before after isWhole 0), .ok text)
  | [] => (.number (numeralOf negative before after isWhole 0), .ok [])

/-- A number from the point on. -/
def readFraction (negative : Bool) (before text : List Char) : Reading Json :=
  match text with
  | '.' :: rest => readDigits rest fun after rest => readExponent negative before after false rest
  | text => readExponent negative before [] true text

/-- A number after its sign. A zero at the front stands alone before the point. -/
def readNumber (negative : Bool) (text : List Char) : Reading Json :=
  readDigits text fun before rest =>
    if before.head? = some '0' ∧ 1 < before.length then stopped .malformed
    else readFraction negative before rest

/-! ## Values -/

mutual

/-- A value. `fuel` bounds the number of nested calls, of which no character takes more than
three. -/
def readValue : Nat → List Char → Reading Json
  | 0, _ => stopped .ended
  | fuel + 1, text =>
    match skipSpaces text with
    | [] => stopped .ended
    | c :: rest =>
      if c = '"' then readString rest
      else if c = '[' then
        let reading := readItems fuel true rest
        (.array reading.1 (stopOf reading.2), reading.2)
      else if c = '\x7b' then
        let reading := readMembers fuel true rest
        (.object reading.1 (stopOf reading.2), reading.2)
      else if c = 'n' then readWord .null ['u', 'l', 'l'] rest
      else if c = 't' then readWord (.bool true) ['r', 'u', 'e'] rest
      else if c = 'f' then readWord (.bool false) ['a', 'l', 's', 'e'] rest
      else if c = '-' then readNumber true rest
      else if c.isDigit then readNumber false (c :: rest)
      else stopped .malformed

/-- The items of an array up to the bracket that closes it. -/
def readItems : Nat → Bool → List Char → Reading (List Json)
  | 0, _, _ => ([], .error .ended)
  | fuel + 1, isFirst, text =>
    match skipSpaces text with
    | [] => ([], .error .ended)
    | c :: rest =>
      if c = ']' then ([], .ok rest)
      else if isFirst then readItem fuel (c :: rest)
      else if c = ',' then readItem fuel rest
      else ([], .error .malformed)

/-- An item of an array and those after it. -/
def readItem : Nat → List Char → Reading (List Json)
  | 0, _ => ([], .error .ended)
  | fuel + 1, text =>
    match readValue fuel text with
    | (value, .error cause) => ([value], .error cause)
    | (value, .ok rest) =>
      let reading := readItems fuel false rest
      (value :: reading.1, reading.2)

/-- The members of an object up to the brace that closes it. -/
def readMembers : Nat → Bool → List Char → Reading (List (Option String × Json))
  | 0, _, _ => ([], .error .ended)
  | fuel + 1, isFirst, text =>
    match skipSpaces text with
    | [] => ([], .error .ended)
    | c :: rest =>
      if c = '\x7d' then ([], .ok rest)
      else if isFirst then readMember fuel (c :: rest)
      else if c = ',' then readMember fuel rest
      else ([], .error .malformed)

/-- A member of an object and those after it. -/
def readMember : Nat → List Char → Reading (List (Option String × Json))
  | 0, _ => ([], .error .ended)
  | fuel + 1, text =>
    match skipSpaces text with
    | [] => ([], .error .ended)
    | c :: rest =>
      if c = '"' then
        match readPieces rest with
        | (pieces, .error cause) =>
          (if holdsLoneHalf pieces then [(none, .null)] else [], .error cause)
        | (pieces, .ok rest) =>
          let name := (decode? pieces).map String.ofList
          match skipSpaces rest with
          | [] => ([(name, .broken .ended)], .error .ended)
          | c :: rest =>
            if c = ':' then
              match readValue fuel rest with
              | (value, .error cause) => ([(name, value)], .error cause)
              | (value, .ok rest) =>
                let reading := readMembers fuel false rest
                ((name, value) :: reading.1, reading.2)
            else ([(name, .broken .malformed)], .error .malformed)
      else ([], .error .malformed)

end

/-- A text as far as it goes, and the break after its value: nothing but white space may follow. -/
def read (text : List Char) : Json × Option Break :=
  match readValue (3 * text.length + 3) text with
  | (value, .error cause) => (value, some cause)
  | (value, .ok rest) => (value, if skipSpaces rest = [] then none else some .malformed)

end Marc.Json
