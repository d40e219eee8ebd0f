/-!
# UTF-8

`Utf8.encode` writes a text as bytes and `Utf8.decode` reads it back. A sequence of bytes that
is not the encoding of a text is refused with the place of the first fault: either the bytes
there cannot begin a character, or they could and the input ends.

Positions in fixed-width data are counted in bytes as well: `byteSlice` cuts the bytes from one
position to another out of a text, and has no answer when a cut would split a character.

`compile_bytes` takes its bytes by `decode`, and shows the fault of others by `Fault.message`.
`infer_year` cuts field 008 by `byteSlice`, as `get` with a range of bytes does.

Results:
* `byteSlice_append_of_le`: a slice does not depend on what follows.
* `byteSlice_append`, `byteLength_of_takeBytes`: a slice is what stands between two places, and has
  the length that was asked for.
-/

namespace Marc.Text

namespace Utf8

/-- Why bytes are not UTF-8. `start` counts the bytes before the fault, all of them valid. -/
inductive Fault where
  /-- `length` bytes that begin a character but do not go on as one. -/
  | invalid (length start : Nat)
  /-- The input ends inside a character. -/
  | incomplete (start : Nat)
  deriving DecidableEq

/-- The fault in words. -/
def Fault.message : Fault → String
  | .invalid length start =>
    "invalid utf-8 sequence of " ++ toString length ++ " bytes from index " ++ toString start
  | .incomplete start => "incomplete utf-8 byte sequence from index " ++ toString start

/-- The bytes of a text. -/
def encode (text : List Char) : List UInt8 := text.flatMap String.utf8EncodeChar

/-- Whether a byte may follow the first one of a character. -/
def isTail (b : UInt8) : Bool := decide (0x80 ≤ b.toNat) && decide (b.toNat < 0xc0)

/-- Whether `b` may follow the first byte `a` of a three-byte character: the forms that are too
long and the surrogates are left out. -/
def isSecondOfThree (a b : UInt8) : Bool :=
  isTail b && (a != 0xe0 || decide (0xa0 ≤ b.toNat)) && (a != 0xed || decide (b.toNat < 0xa0))

/-- Whether `b` may follow the first byte `a` of a four-byte character: the forms that are too
long and the code points past the last one are left out. -/
def isSecondOfFour (a b : UInt8) : Bool :=
  isTail b && (a != 0xf0 || decide (0x90 ≤ b.toNat)) && (a != 0xf4 || decide (b.toNat < 0x90))

/-- The six low bits of a byte. -/
def low (b : UInt8) : Nat := b.toNat % 64

/-- The text of bytes that follow `start` valid ones. -/
def decodeFrom (start : Nat) : List UInt8 → Except Fault (List Char)
  | [] => .ok []
  | a :: rest =>
    if a.toNat < 0x80 then
      (decodeFrom (start + 1) rest).map (Char.ofNat a.toNat :: ·)
    else if a.toNat < 0xc2 then .error (.invalid 1 start)
    else if a.toNat < 0xe0 then
      match rest with
      | [] => .error (.incomplete start)
      | b :: rest =>
        if isTail b then
          (decodeFrom (start + 2) rest).map (Char.ofNat (a.toNat % 32 * 64 + low b) :: ·)
        else .error (.invalid 1 start)
    else if a.toNat < 0xf0 then
      match rest with
      | [] => .error (.incomplete start)
      | b :: rest =>
        if isSecondOfThree a b then
          match rest with
          | [] => .error (.incomplete start)
          | c :: rest =>
            if isTail c then
              (decodeFrom (start + 3) rest).map
                (Char.ofNat (a.toNat % 16 * 4096 + low b * 64 + low c) :: ·)
            else .error (.invalid 2 start)
        else .error (.invalid 1 start)
    else if a.toNat < 0xf5 then
      match rest with
      | [] => .error (.incomplete start)
      | b :: rest =>
        if isSecondOfFour a b then
          match rest with
          | [] => .error (.incomplete start)
          | c :: rest =>
            if isTail c then
              match rest with
              | [] => .error (.incomplete start)
              | d :: rest =>
                if isTail d then
                  (decodeFrom (start + 4) rest).map
                    (Char.ofNat (a.toNat % 8 * 262144 + low b * 4096 + low c * 64 + low d) :: ·)
                else .error (.invalid 3 start)
            else .error (.invalid 2 start)
        else .error (.invalid 1 start)
    else .error (.invalid 1 start)

/-- The text that the bytes encode. -/
def decode (bytes : List UInt8) : Except Fault (List Char) := decodeFrom 0 bytes

end Utf8

/-! ## Slices by byte position -/

/-- How many bytes a text takes. -/
def byteLength : List Char → Nat
  | [] => 0
  | c :: rest => c.utf8Size + byteLength rest

theorem byteLength_append (a b : List Char) :
    byteLength (a ++ b) = byteLength a + byteLength b := by
  induction a with
  | nil => exact (Nat.zero_add _).symm
  | cons c a ih => rw [List.cons_append, byteLength, byteLength, ih, Nat.add_assoc]

/-- A text of characters of one byte is as long as it has characters. -/
theorem byteLength_of_ascii {text : List Char} (h : ∀ c ∈ text, c.utf8Size = 1) :
    byteLength text = text.length := by
  induction text with
  | nil => rfl
  | cons c rest ih =>
    rw [List.forall_mem_cons] at h
    rw [byteLength, h.1, ih h.2, List.length_cons, Nat.add_comm]

/-- A string is as long in bytes as its characters are together. -/
theorem byteLength_toList (s : String) : byteLength s.toList = s.utf8ByteSize := by
  suffices ∀ text : List Char, byteLength text = (String.ofList text).utf8ByteSize by
    rw [this, String.ofList_toList]
  intro text
  induction text with
  | nil => rfl
  | cons c rest ih =>
    rw [byteLength, ih, ← List.singleton_append, String.ofList_append, String.utf8ByteSize_append,
      ← String.singleton_eq_ofList, String.utf8ByteSize_singleton]

/-- The text after its first `n` bytes, if a character ends there. -/
def dropBytes : Nat → List Char → Option (List Char)
  | 0, text => some text
  | _ + 1, [] => none
  | n + 1, c :: rest => if c.utf8Size ≤ n + 1 then dropBytes (n + 1 - c.utf8Size) rest else none

/-- The first `n` bytes of a text, if a character ends there. -/
def takeBytes : Nat → List Char → Option (List Char)
  | 0, _ => some []
  | _ + 1, [] => none
  | n + 1, c :: rest =>
    if c.utf8Size ≤ n + 1 then (takeBytes (n + 1 - c.utf8Size) rest).map (c :: ·) else none

/-- The bytes from `start` up to `stop`, if a character ends at both places. -/
def byteSlice (start stop : Nat) (text : List Char) : Option (List Char) :=
  (dropBytes start text).bind (takeBytes (stop - start))

/-- What is taken does not depend on what follows. -/
theorem takeBytes_append {n : Nat} {text : List Char} (h : n ≤ byteLength text)
    (more : List Char) : takeBytes n (text ++ more) = takeBytes n text := by
  induction text generalizing n with
  | nil =>
    obtain rfl : n = 0 := by simpa [byteLength] using h
    simp [takeBytes]
  | cons c rest ih =>
    cases n with
    | zero => simp [takeBytes]
    | succ n =>
      rw [List.cons_append, takeBytes, takeBytes]
      split
      · rw [ih (by simp only [byteLength] at h; omega)]
      · rfl

/-- What is dropped does not depend on what follows. -/
theorem dropBytes_append {n : Nat} {text : List Char} (h : n ≤ byteLength text)
    (more : List Char) : dropBytes n (text ++ more) = (dropBytes n text).map (· ++ more) := by
  induction text generalizing n with
  | nil =>
    obtain rfl : n = 0 := Nat.eq_zero_of_le_zero h
    simp [dropBytes]
  | cons c rest ih =>
    cases n with
    | zero => simp [dropBytes]
    | succ n =>
      rw [List.cons_append, dropBytes, dropBytes]
      split
      · rw [ih (by simp only [byteLength] at h; omega)]
      · rfl

/-- What is left after the first bytes has all the others. -/
theorem byteLength_of_dropBytes {n : Nat} {text rest : List Char}
    (h : dropBytes n text = some rest) : n + byteLength rest = byteLength text := by
  induction text generalizing n with
  | nil =>
    cases n with
    | zero =>
      obtain rfl := Option.some.inj h
      rfl
    | succ n => exact nomatch h
  | cons c text ih =>
    cases n with
    | zero =>
      rw [dropBytes, Option.some.injEq] at h
      subst h
      exact Nat.zero_add _
    | succ n =>
      rw [dropBytes] at h
      split at h
      · have hrest := ih h
        rw [byteLength]
        omega
      · exact nomatch h

/-- **A slice of a text is the same with more text behind it**, also where one of the two places is
inside of a character, so that there is no slice. -/
theorem byteSlice_append_of_le {start stop : Nat} {text : List Char} (hle : start ≤ stop)
    (hstop : stop ≤ byteLength text) (more : List Char) :
    byteSlice start stop (text ++ more) = byteSlice start stop text := by
  unfold byteSlice
  rw [dropBytes_append (Nat.le_trans hle hstop)]
  cases hdrop : dropBytes start text with
  | none => rfl
  | some rest =>
    have hrest := byteLength_of_dropBytes hdrop
    exact takeBytes_append (by omega) more

theorem dropBytes_cons {n : Nat} {c : Char} (h : c.utf8Size ≤ n) (rest : List Char) :
    dropBytes n (c :: rest) = dropBytes (n - c.utf8Size) rest := by
  cases n with
  | zero => exact absurd c.utf8Size_pos (by omega)
  | succ n => exact if_pos h

theorem takeBytes_cons {n : Nat} {c : Char} (h : c.utf8Size ≤ n) (rest : List Char) :
    takeBytes n (c :: rest) = (takeBytes (n - c.utf8Size) rest).map (c :: ·) := by
  cases n with
  | zero => exact absurd c.utf8Size_pos (by omega)
  | succ n => exact if_pos h

theorem dropBytes_byteLength (front rest : List Char) :
    dropBytes (byteLength front) (front ++ rest) = some rest := by
  induction front with
  | nil => exact dropBytes.eq_1 rest
  | cons c front ih =>
    rw [byteLength, List.cons_append, dropBytes_cons (Nat.le_add_right _ _),
      Nat.add_sub_cancel_left, ih]

theorem takeBytes_byteLength (front rest : List Char) :
    takeBytes (byteLength front) (front ++ rest) = some front := by
  induction front with
  | nil => exact takeBytes.eq_1 _
  | cons c front ih =>
    rw [byteLength, List.cons_append, takeBytes_cons (Nat.le_add_right _ _),
      Nat.add_sub_cancel_left, ih, Option.map_some]

/-- A slice is what stands between the two places. -/
theorem byteSlice_append {start stop : Nat} {front slice : List Char}
    (hstart : byteLength front = start) (hstop : start + byteLength slice = stop)
    (rest : List Char) : byteSlice start stop (front ++ (slice ++ rest)) = some slice := by
  unfold byteSlice
  rw [← hstart, dropBytes_byteLength, Option.bind_some,
    show stop - byteLength front = byteLength slice by omega, takeBytes_byteLength]

/-- What is taken has the length that was asked for. -/
theorem byteLength_of_takeBytes {n : Nat} {text slice : List Char}
    (h : takeBytes n text = some slice) : byteLength slice = n := by
  induction text generalizing n slice with
  | nil =>
    cases n with
    | zero => rw [← Option.some.inj h]; rfl
    | succ n => exact absurd h (by simp [takeBytes])
  | cons c rest ih =>
    cases n with
    | zero =>
      rw [takeBytes, Option.some.injEq] at h
      subst h
      rfl
    | succ n =>
      rw [takeBytes] at h
      split at h
      · obtain ⟨tail, htail, rfl⟩ := Option.map_eq_some_iff.mp h
        rw [byteLength, ih htail]
        omega
      · exact absurd h (by simp)

theorem byteLength_of_byteSlice {start stop : Nat} {text slice : List Char}
    (h : byteSlice start stop text = some slice) : byteLength slice = stop - start := by
  obtain ⟨rest, -, hslice⟩ := Option.bind_eq_some_iff.mp h
  exact byteLength_of_takeBytes hslice

theorem length_le_byteLength (text : List Char) : text.length ≤ byteLength text := by
  induction text with
  | nil => exact Nat.le_refl 0
  | cons c rest ih =>
    have := c.utf8Size_pos
    rw [List.length_cons, byteLength]
    omega

end Marc.Text
