import Marc.Proofs.Text.Utf8
import Marc.Spec

/-!
# Spec strings and specs

A spec is printed as its token, and specs as their tokens with colons between them (`specText`).
Reading such a string (`compile`) gives the specs again, because a token holds no colon; and
whatever string specs were read from, they can be printed and read again, because a token that is
passed over leaves nothing behind.

Results:
* `exists_parse_eq_ok_iff`: **which tokens are specs**: those of three characters or more.
* `compile_specText`: **printed specs are read as they were.**
* `printable_of_mem_compile`: every spec that was read can be printed.
* `compileBytes_encode`, `compileBytes_of_ne`: specs are read from the bytes of a string, and from
  no other bytes.
* `compile_inverse`: the laws together.
-/

namespace Marc.Spec

variable {spec : Spec} {specs : List Spec} {s token : String}

/-! ## One token -/

theorem parse_eq_ok : parse token = .ok spec ↔ spec.tag.length = 3 ∧ spec.token = token := by
  rw [← parse?_eq_some]
  unfold parse
  cases parse? token <;> simp

theorem parse?_eq_none_iff : parse? token = none ↔ token.length < 3 := by
  unfold parse?
  rw [← String.length_toList]
  rcases token.toList with _ | ⟨a, _ | ⟨b, _ | ⟨c, codes⟩⟩⟩ <;> simp [ofChars?]

/-- **A token is a spec exactly when it is long enough for a tag.** -/
theorem exists_parse_eq_ok_iff : (∃ spec, parse token = .ok spec) ↔ 3 ≤ token.length := by
  rw [← Nat.not_lt, ← parse?_eq_none_iff]
  unfold parse
  cases parse? token <;> simp

/-! ## Printed specs -/

/-- A spec that a spec string can hold: its tag is three characters long, and no colon is in it. -/
structure Printable (spec : Spec) : Prop where
  width : spec.tag.length = 3
  tag : ':' ∉ spec.tag.toList
  codes : ':' ∉ spec.codes

/-- The spec string of specs: their tokens with colons between them. -/
def specText (specs : List Spec) : String := ":".intercalate (specs.map Spec.token)

theorem Printable.colon_not_mem_token (h : Printable spec) : ':' ∉ spec.token.toList := by
  unfold Spec.token
  rw [String.toList_append, String.toList_ofList, List.mem_append]
  exact fun hm => hm.elim h.tag h.codes

/-- The token of a spec alone is read as the spec. -/
theorem compile_token (h : Printable spec) : compile spec.token = [spec] := by
  have hone : spec.token.toList.splitOn ':' = [spec.token.toList] :=
    List.splitOn_eq_singleton h.colon_not_mem_token
  have hparse : ofChars? spec.token.toList = some spec := parse?_eq_some.mpr ⟨h.width, rfl⟩
  unfold compile compileChars
  rw [hone, List.filterMap_cons, hparse, List.filterMap_nil]

/-- **Printed specs are read as they were.** -/
theorem compile_specText : ∀ {specs : List Spec}, (∀ spec ∈ specs, Printable spec) →
    compile (specText specs) = specs
  | [], _ => rfl
  | [spec], h => by
    have : specText [spec] = spec.token := String.intercalate_singleton
    rw [this, compile_token (h spec List.mem_cons_self)]
  | spec :: next :: specs, h => by
    have hprint : specText (spec :: next :: specs) =
        spec.token ++ ":" ++ specText (next :: specs) := String.intercalate_cons_cons
    rw [hprint, compile_colon, compile_token (h spec List.mem_cons_self),
      compile_specText fun other ho => h other (List.mem_cons_of_mem _ ho), List.singleton_append]

/-! ## Specs that were read -/

/-- What stands between separators holds none. -/
theorem not_mem_of_mem_splitOn {x : Char} : ∀ {text part : List Char},
    part ∈ text.splitOn x → x ∉ part
  | [], part, h => by
    rw [List.splitOn_nil, List.mem_singleton] at h
    simp [h]
  | c :: text, part, h => by
    rw [List.splitOn_cons_eq_if_modifyHead] at h
    split at h
    · rcases List.mem_cons.mp h with rfl | h
      · simp
      · exact not_mem_of_mem_splitOn h
    · rename_i hc
      -- the first character goes to the front of the first part
      cases hparts : text.splitOn x with
      | nil => exact absurd hparts (List.splitOn_ne_nil x text)
      | cons first parts =>
        rw [hparts, List.modifyHead_cons] at h
        have hrest : ∀ other ∈ first :: parts, x ∉ other := fun other ho =>
          not_mem_of_mem_splitOn (hparts ▸ ho)
        rcases List.mem_cons.mp h with rfl | h
        · have hx : x ≠ c := fun e => hc (by simp [e])
          simpa [hx] using hrest first List.mem_cons_self
        · exact hrest part (List.mem_cons_of_mem _ h)

/-- Every spec that was read can be printed. -/
theorem printable_of_mem_compile (h : spec ∈ compile s) : Printable spec := by
  obtain ⟨part, hpart, hspec⟩ := List.mem_filterMap.mp h
  have hcolon : ':' ∉ part := not_mem_of_mem_splitOn hpart
  have hparse : parse? (String.ofList part) = some spec := by
    unfold parse?
    rw [String.toList_ofList, hspec]
  obtain ⟨hwidth, htoken⟩ := parse?_eq_some.mp hparse
  have hchars : spec.tag.toList ++ spec.codes = part := by
    rw [← String.toList_ofList (l := part), ← htoken]
    simp [Spec.token]
  rw [← hchars, List.mem_append, not_or] at hcolon
  exact ⟨hwidth, hcolon.1, hcolon.2⟩

/-! ## Specs from bytes -/

theorem compileBytes_encode (s : String) :
    compileBytes (Text.Utf8.encode s.toList) = .ok (compile s) := by
  unfold compileBytes
  rw [Text.Utf8.decode_eq_ok.mpr rfl]
  rfl

/-- Bytes that encode no text are refused for that reason. -/
theorem compileBytes_of_ne {bytes : List UInt8}
    (h : ∀ s : String, bytes ≠ Text.Utf8.encode s.toList) :
    ∃ fault, compileBytes bytes = .error (.notUtf8 fault) := by
  unfold compileBytes
  cases hd : Text.Utf8.decode bytes with
  | ok text =>
    have hbytes : bytes = Text.Utf8.encode text := Text.Utf8.decode_eq_ok.mp hd
    exact absurd hbytes (String.toList_ofList (l := text) ▸ h (String.ofList text))
  | error fault => exact ⟨fault, rfl⟩

/-! ## The laws together -/

/-- **Compiling undoes printing, and printing undoes compiling.** Printable specs are read as they
were printed; exactly the tokens of three characters or more are specs, each of which has a tag of
three characters and is printed as its token; the specs of any string are printed and read again;
and specs are read from the bytes of a string as from the string, and from no other bytes. -/
theorem compile_inverse :
    (∀ specs, (∀ spec ∈ specs, Printable spec) → compile (specText specs) = specs) ∧
    (∀ token, ((∃ spec, parse token = .ok spec) ↔ 3 ≤ token.length) ∧
      ∀ spec, parse token = .ok spec → spec.tag.length = 3 ∧ spec.token = token) ∧
    (∀ s, compile (specText (compile s)) = compile s) ∧
    (∀ s, compileBytes (Text.Utf8.encode s.toList) = .ok (compile s)) ∧
    ∀ bytes, (∀ s : String, bytes ≠ Text.Utf8.encode s.toList) →
      ∃ fault, compileBytes bytes = .error (.notUtf8 fault) :=
  ⟨fun _ h => compile_specText h,
    fun _ => ⟨exists_parse_eq_ok_iff, fun _ h => parse_eq_ok.mp h⟩,
    fun _ => compile_specText fun _ h => printable_of_mem_compile h,
    compileBytes_encode, fun _ h => compileBytes_of_ne h⟩

/-- Characters of several bytes in the tag and behind it, and a byte that begins no character. -/
theorem compile_inverse_wideTag :
    (∀ spec ∈ [⟨"24é", ['名', 'b', 'b']⟩, ⟨"008", []⟩], Printable spec) ∧
      compile (specText [⟨"24é", ['名', 'b', 'b']⟩, ⟨"008", []⟩]) =
        [⟨"24é", ['名', 'b', 'b']⟩, ⟨"008", []⟩] ∧
      (∀ s : String, [0x32, 0x34, 0x35, 0xff] ≠ Text.Utf8.encode s.toList) ∧
      ∃ fault, compileBytes [0x32, 0x34, 0x35, 0xff] = .error (.notUtf8 fault) := by
  have hprint : ∀ spec ∈ [⟨"24é", ['名', 'b', 'b']⟩, ⟨"008", []⟩], Printable spec := by
    intro spec hm
    simp only [List.mem_cons, List.not_mem_nil, or_false] at hm
    rcases hm with rfl | rfl
    · exact ⟨by decide, by decide, by decide⟩
    · exact ⟨by decide, by decide, by decide⟩
  have hbytes : ∀ s : String, [0x32, 0x34, 0x35, 0xff] ≠ Text.Utf8.encode s.toList := by
    intro s hs
    have hfault : Text.Utf8.decode [0x32, 0x34, 0x35, 0xff] = .error (.invalid 1 3) := rfl
    rw [Text.Utf8.decode_eq_ok.mpr hs] at hfault
    exact nomatch hfault
  obtain ⟨hcompile, -, -, -, hrefuse⟩ := compile_inverse
  exact ⟨hprint, hcompile _ hprint, hbytes, hrefuse _ hbytes⟩

end Marc.Spec
