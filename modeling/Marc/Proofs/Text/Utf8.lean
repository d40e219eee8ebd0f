import Marc.Text.Utf8
import Mathlib.Logic.Basic

/-!
# Decoding is exact

The decoder reads UTF-8 with a chain of tests on the next bytes. `Encodes` says of a character and
a few bytes that the bytes make up the character, without an order of tests. Both the decoder and
the encoder follow it.

Results:
* `encodes_iff`: the bytes that make up a character are those that it is written as.
* `decodeFrom_append`, `decodeFrom_eq_ok`: **one step of the decoder**, in front of any rest: it
  reads the bytes of a character, and it goes on over nothing else.
* `decode_eq_ok`: **bytes are decoded exactly when they are the encoding of a text**, and then to
  that text.
-/

namespace Marc.Text.Utf8

variable {ch : Char} {front bytes rest : List UInt8}

/-! ## The bytes of one character -/

/-- The bytes make up the character. The first one tells how many follow; the bounds on the second
one leave out longer forms than needed, surrogates, and numbers past the last character. -/
inductive Encodes (ch : Char) : List UInt8 → Prop where
  | one {a : UInt8} (ha : a.toNat < 0x80) (hch : ch.toNat = a.toNat) : Encodes ch [a]
  | two {a b : UInt8} (ha : 0xc2 ≤ a.toNat ∧ a.toNat < 0xe0) (hb : isTail b = true)
      (hch : ch.toNat = a.toNat % 32 * 64 + low b) : Encodes ch [a, b]
  | three {a b c : UInt8} (ha : 0xe0 ≤ a.toNat ∧ a.toNat < 0xf0)
      (hb : isSecondOfThree a b = true) (hc : isTail c = true)
      (hch : ch.toNat = a.toNat % 16 * 4096 + low b * 64 + low c) : Encodes ch [a, b, c]
  | four {a b c d : UInt8} (ha : 0xf0 ≤ a.toNat ∧ a.toNat < 0xf5)
      (hb : isSecondOfFour a b = true) (hc : isTail c = true) (hd : isTail d = true)
      (hch : ch.toNat = a.toNat % 8 * 262144 + low b * 4096 + low c * 64 + low d) :
      Encodes ch [a, b, c, d]

theorem isTail_iff {b : UInt8} : isTail b = true ↔ 0x80 ≤ b.toNat ∧ b.toNat < 0xc0 := by
  simp [isTail]

theorem isSecondOfThree_iff {a b : UInt8} :
    isSecondOfThree a b = true ↔ (0x80 ≤ b.toNat ∧ b.toNat < 0xc0) ∧
      (a.toNat = 0xe0 → 0xa0 ≤ b.toNat) ∧ (a.toNat = 0xed → b.toNat < 0xa0) := by
  simp [isSecondOfThree, isTail_iff, ← UInt8.toNat_inj, imp_iff_not_or, and_assoc]

theorem isSecondOfFour_iff {a b : UInt8} :
    isSecondOfFour a b = true ↔ (0x80 ≤ b.toNat ∧ b.toNat < 0xc0) ∧
      (a.toNat = 0xf0 → 0x90 ≤ b.toNat) ∧ (a.toNat = 0xf4 → b.toNat < 0x90) := by
  simp [isSecondOfFour, isTail_iff, ← UInt8.toNat_inj, imp_iff_not_or, and_assoc]

/-! ## How a character is written -/

/-- The number of a tail byte that holds six bits. -/
def tailOf (n : Nat) : UInt8 := UInt8.ofNat (n % 64 + 128)

theorem encodeChar_one (h : ch.toNat < 0x80) :
    String.utf8EncodeChar ch = [UInt8.ofNat ch.toNat] :=
  if_pos (Nat.le_of_lt_succ h)

theorem encodeChar_two (hl : 0x80 ≤ ch.toNat) (hu : ch.toNat < 0x800) :
    String.utf8EncodeChar ch = [UInt8.ofNat (ch.toNat / 64 % 32 + 192), tailOf ch.toNat] :=
  (if_neg (Nat.not_le.mpr hl)).trans (if_pos (Nat.le_of_lt_succ hu))

theorem encodeChar_three (hl : 0x800 ≤ ch.toNat) (hu : ch.toNat < 0x10000) :
    String.utf8EncodeChar ch =
      [UInt8.ofNat (ch.toNat / 4096 % 16 + 224), tailOf (ch.toNat / 64), tailOf ch.toNat] :=
  (if_neg (Nat.not_le.mpr (Nat.lt_of_lt_of_le (by decide) hl))).trans <|
    (if_neg (Nat.not_le.mpr hl)).trans (if_pos (Nat.le_of_lt_succ hu))

theorem encodeChar_four (hl : 0x10000 ≤ ch.toNat) :
    String.utf8EncodeChar ch =
      [UInt8.ofNat (ch.toNat / 262144 % 8 + 240), tailOf (ch.toNat / 4096),
        tailOf (ch.toNat / 64), tailOf ch.toNat] :=
  (if_neg (Nat.not_le.mpr (Nat.lt_of_lt_of_le (by decide) hl))).trans <|
    (if_neg (Nat.not_le.mpr (Nat.lt_of_lt_of_le (by decide) hl))).trans <|
      if_neg (Nat.not_le.mpr hl)

/-- With the bound as a literal, which the bounds below are compared with. -/
theorem toNat_ofNat {n : Nat} (h : n < 256) : (UInt8.ofNat n).toNat = n :=
  UInt8.toNat_ofNat_of_lt' h

theorem toNat_tailOf (n : Nat) : (tailOf n).toNat = n % 64 + 128 := toNat_ofNat (by omega)

theorem isTail_tailOf (n : Nat) : isTail (tailOf n) = true := by
  rw [isTail_iff, toNat_tailOf]
  omega

theorem low_tailOf (n : Nat) : low (tailOf n) = n % 64 := by
  unfold low
  rw [toNat_tailOf]
  omega

/-- A character is made up of the bytes that it is written as. -/
theorem encodes_encodeChar (ch : Char) : Encodes ch (String.utf8EncodeChar ch) := by
  have hv : ch.toNat < 0xd800 ∨ (0xdfff < ch.toNat ∧ ch.toNat < 0x110000) := ch.valid
  by_cases h1 : ch.toNat < 0x80
  · rw [encodeChar_one h1]
    have ha : (UInt8.ofNat ch.toNat).toNat = ch.toNat := toNat_ofNat (by omega)
    exact .one (by omega) ha.symm
  by_cases h2 : ch.toNat < 0x800
  · rw [encodeChar_two (by omega) h2]
    have ha : (UInt8.ofNat (ch.toNat / 64 % 32 + 192)).toNat = ch.toNat / 64 % 32 + 192 :=
      toNat_ofNat (by omega)
    refine .two ?_ (isTail_tailOf _) ?_
    · rw [ha]
      omega
    · rw [ha, low_tailOf]
      omega
  by_cases h3 : ch.toNat < 0x10000
  · rw [encodeChar_three (by omega) h3]
    have ha : (UInt8.ofNat (ch.toNat / 4096 % 16 + 224)).toNat = ch.toNat / 4096 % 16 + 224 :=
      toNat_ofNat (by omega)
    refine .three ?_ ?_ (isTail_tailOf _) ?_
    · rw [ha]
      omega
    · rw [isSecondOfThree_iff, ha, toNat_tailOf]
      omega
    · rw [ha, low_tailOf, low_tailOf]
      omega
  · rw [encodeChar_four (by omega)]
    have ha : (UInt8.ofNat (ch.toNat / 262144 % 8 + 240)).toNat = ch.toNat / 262144 % 8 + 240 :=
      toNat_ofNat (by omega)
    refine .four ?_ ?_ (isTail_tailOf _) (isTail_tailOf _) ?_
    · rw [ha]
      omega
    · rw [isSecondOfFour_iff, ha, toNat_tailOf]
      omega
    · rw [ha, low_tailOf, low_tailOf, low_tailOf]
      omega

theorem eq_of_toNat {a : UInt8} {n : Nat} (h : n = a.toNat) : UInt8.ofNat n = a := by
  rw [h, UInt8.ofNat_toNat]

theorem tailOf_eq {b : UInt8} (h : isTail b = true) {n : Nat} (hn : n % 64 = low b) :
    tailOf n = b := by
  rw [isTail_iff] at h
  unfold low at hn
  exact eq_of_toNat (by omega)

/-- The bytes that make up a character are those that it is written as. -/
theorem encodes_iff : Encodes ch front ↔ front = String.utf8EncodeChar ch := by
  refine ⟨fun h => ?_, fun h => h ▸ encodes_encodeChar ch⟩
  have hlow (b : UInt8) : low b < 64 := Nat.mod_lt _ (by decide)
  cases h with
  | one ha hch => rw [encodeChar_one (by omega), eq_of_toNat hch]
  | @two a b ha hb hch =>
    have := hlow b
    rw [encodeChar_two (by omega) (by omega), eq_of_toNat (a := a) (by omega),
      tailOf_eq hb (by omega)]
  | @three a b c ha hb hc hch =>
    have := hlow b
    have := hlow c
    rw [isSecondOfThree_iff] at hb
    have hb' : low b = b.toNat % 64 := rfl
    rw [encodeChar_three (by omega) (by omega), eq_of_toNat (a := a) (by omega),
      tailOf_eq (isTail_iff.mpr hb.1) (by omega), tailOf_eq hc (by omega)]
  | @four a b c d ha hb hc hd hch =>
    have := hlow b
    have := hlow c
    have := hlow d
    rw [isSecondOfFour_iff] at hb
    have hb' : low b = b.toNat % 64 := rfl
    rw [encodeChar_four (by omega), eq_of_toNat (a := a) (by omega),
      tailOf_eq (isTail_iff.mpr hb.1) (by omega), tailOf_eq hc (by omega), tailOf_eq hd (by omega)]

/-! ## One step of the decoder -/

/-- A number that is no surrogate and not past the last character is that of a character. -/
theorem toNat_char {n : Nat} (h : n < 0xd800 ∨ (0xdfff < n ∧ n < 0x110000)) :
    (Char.ofNat n).toNat = n := by
  unfold Char.ofNat
  rw [dif_pos h]
  rfl

/-- **The decoder reads the bytes of a character** and goes on with the rest. -/
theorem decodeFrom_append (h : Encodes ch front) (start : Nat) (rest : List UInt8) :
    decodeFrom start (front ++ rest) =
      (decodeFrom (start + front.length) rest).map (ch :: ·) := by
  have hof {n : Nat} (hch : ch.toNat = n) : Char.ofNat n = ch := hch ▸ Char.ofNat_toNat ch
  cases h with
  | one ha hch =>
    rw [decodeFrom.eq_def, List.singleton_append]
    simp only
    rw [if_pos ha, hof hch]
    rfl
  | two ha hb hch =>
    rw [decodeFrom.eq_def, List.cons_append, List.singleton_append]
    simp only
    rw [if_neg (by omega), if_neg (by omega), if_pos ha.2, if_pos hb, hof hch]
    rfl
  | three ha hb hc hch =>
    rw [decodeFrom.eq_def, List.cons_append, List.cons_append, List.singleton_append]
    simp only
    rw [if_neg (by omega), if_neg (by omega), if_neg (by omega), if_pos ha.2, if_pos hb, if_pos hc,
      hof hch]
    rfl
  | four ha hb hc hd hch =>
    rw [decodeFrom.eq_def, List.cons_append, List.cons_append, List.cons_append,
      List.singleton_append]
    simp only
    rw [if_neg (by omega), if_neg (by omega), if_neg (by omega), if_neg (by omega), if_pos ha.2,
      if_pos hb, if_pos hc, if_pos hd, hof hch]
    rfl

theorem exists_of_map_eq_ok {text : List Char} {step : Except Fault (List Char)}
    (h : step.map (ch :: ·) = .ok text) : ∃ more, text = ch :: more ∧ step = .ok more := by
  cases step with
  | error fault => exact nomatch h
  | ok more => exact ⟨more, (Except.ok.inj h).symm, rfl⟩

/-- **The decoder goes on over nothing but the bytes of a character.** -/
theorem decodeFrom_eq_ok {start : Nat} {text : List Char} :
    decodeFrom start bytes = .ok text → (bytes = [] ∧ text = []) ∨
      ∃ ch more front rest, text = ch :: more ∧ bytes = front ++ rest ∧ Encodes ch front ∧
        decodeFrom (start + front.length) rest = .ok more := by
  fun_cases decodeFrom start bytes with
  | case1 => exact fun h => .inl ⟨rfl, (Except.ok.inj h).symm⟩
  | case2 a rest ha =>
    intro h
    obtain ⟨more, rfl, hmore⟩ := exists_of_map_eq_ok h
    exact .inr ⟨_, more, [a], rest, rfl, rfl, .one ha (toNat_char (by omega)), hmore⟩
  | case5 a hl hc ha b rest hb =>
    intro h
    obtain ⟨more, rfl, hmore⟩ := exists_of_map_eq_ok h
    have hnum : a.toNat % 32 * 64 + low b < 0xd800 := by
      unfold low
      omega
    exact .inr ⟨_, more, [a, b], rest, rfl, rfl,
      .two ⟨by omega, ha⟩ hb (toNat_char (.inl hnum)), hmore⟩
  | case9 a hl hc hd ha b hb c rest ht =>
    intro h
    obtain ⟨more, rfl, hmore⟩ := exists_of_map_eq_ok h
    have hnum : a.toNat % 16 * 4096 + low b * 64 + low c < 0xd800 ∨
        (0xdfff < a.toNat % 16 * 4096 + low b * 64 + low c ∧
          a.toNat % 16 * 4096 + low b * 64 + low c < 0x110000) := by
      have hb' := isSecondOfThree_iff.mp hb
      unfold low
      omega
    exact .inr ⟨_, more, [a, b, c], rest, rfl, rfl,
      .three ⟨by omega, ha⟩ hb ht (toNat_char hnum), hmore⟩
  | case15 a hl hc hd he ha b hb c ht d rest ht' =>
    intro h
    obtain ⟨more, rfl, hmore⟩ := exists_of_map_eq_ok h
    have hnum : 0xdfff < a.toNat % 8 * 262144 + low b * 4096 + low c * 64 + low d ∧
        a.toNat % 8 * 262144 + low b * 4096 + low c * 64 + low d < 0x110000 := by
      have hb' := isSecondOfFour_iff.mp hb
      unfold low
      omega
    exact .inr ⟨_, more, [a, b, c, d], rest, rfl, rfl,
      .four ⟨by omega, ha⟩ hb ht ht' (toNat_char (.inr hnum)), hmore⟩
  | _ => exact fun h => nomatch h

/-! ## Whole texts -/

theorem decodeFrom_encode : ∀ (text : List Char) (start : Nat),
    decodeFrom start (encode text) = .ok text
  | [], _ => rfl
  | ch :: text, start => by
    have hencode : encode (ch :: text) = String.utf8EncodeChar ch ++ encode text := rfl
    rw [hencode, decodeFrom_append (encodes_encodeChar ch), decodeFrom_encode text]
    rfl

theorem eq_encode_of_decodeFrom : ∀ {text : List Char} {start : Nat} {bytes : List UInt8},
    decodeFrom start bytes = .ok text → bytes = encode text
  | [], _, _, h => by
    obtain ⟨rfl, -⟩ | ⟨_, _, _, _, hnil, -⟩ := decodeFrom_eq_ok h
    · rfl
    · exact nomatch hnil
  | ch :: text, _, _, h => by
    obtain ⟨-, hnil⟩ | ⟨_, _, front, rest, htext, rfl, hfront, hrest⟩ := decodeFrom_eq_ok h
    · exact nomatch hnil
    · obtain ⟨rfl, rfl⟩ := List.cons.inj htext
      rw [encodes_iff.mp hfront, eq_encode_of_decodeFrom hrest]
      rfl

/-- **Bytes are decoded exactly when they are the encoding of a text**, and then to that text. -/
theorem decode_eq_ok {text : List Char} : decode bytes = .ok text ↔ bytes = encode text :=
  ⟨eq_encode_of_decodeFrom, fun h => h ▸ decodeFrom_encode text 0⟩

end Marc.Text.Utf8
