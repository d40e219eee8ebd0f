import Marc.Text.Utf8

/-!
# Field specs

A spec string says which parts of a record are wanted, for instance `100tflnp:245ab:008`. Its
tokens are separated by colons. The first three characters of a token are a tag and every
further character is a wanted subfield code; a token with a tag only asks for the direct value of
the field. Tokens of fewer than three characters are passed over.

Model of `FieldSpec`: `Spec.parse?` is `parse`, and `Spec.parse` is `from_str`, which says why a
token is refused; `token` is how `fmt` writes a spec. `compile` and `compileBytes` are `compile` and
`compile_bytes`, and `Spec.Fault` holds their error `InvalidSpec`.

Results:
* `Spec.parse?_eq_some`: which token a spec is read from.
* `Spec.compileChars_colon`: the specs of two strings joined by a colon are those of the first
  string and then those of the second.
-/

namespace Marc

/-- A tag and the wanted subfield codes, in the order of the token. No codes: the direct value is
wanted. -/
structure Spec where
  tag : String
  codes : List Char
  deriving DecidableEq

namespace Spec

/-- Why a text is no spec. -/
inductive Fault where
  /-- The token is shorter than a tag. -/
  | shortToken (token : String)
  /-- The bytes encode no text. -/
  | notUtf8 (fault : Text.Utf8.Fault)
  deriving DecidableEq

/-- The fault in words. -/
def Fault.message : Fault → String
  | .shortToken token => "Invalid field spec: '" ++ token ++ "' is shorter than a MARC tag"
  | .notUtf8 fault => "Invalid field spec: spec is not valid UTF-8: " ++ fault.message

/-- Whether the direct value is wanted. -/
def isDirect (spec : Spec) : Bool := spec.codes.isEmpty

/-- Whether subfields with the code are wanted. -/
def wants (spec : Spec) (code : Char) : Bool := spec.codes.contains code

/-- The token of a spec. -/
def token (spec : Spec) : String := spec.tag ++ String.ofList spec.codes

/-- The spec of a token, if the token is long enough for a tag. -/
def ofChars? : List Char → Option Spec
  | a :: b :: c :: codes => some ⟨String.ofList [a, b, c], codes⟩
  | _ => none

/-- The spec of a token, if the token is long enough for a tag. -/
def parse? (token : String) : Option Spec := ofChars? token.toList

/-- The spec of a token. -/
def parse (token : String) : Except Fault Spec :=
  match parse? token with
  | some spec => .ok spec
  | none => .error (.shortToken token)

/-- The specs of the tokens between colons, in order. -/
def compileChars (text : List Char) : List Spec :=
  (text.splitOn ':').filterMap ofChars?

/-- The specs of a spec string, in the order of its tokens. -/
def compile (text : String) : List Spec := compileChars text.toList

/-- The specs of a spec string given as bytes. -/
def compileBytes (bytes : List UInt8) : Except Fault (List Spec) :=
  match Text.Utf8.decode bytes with
  | .ok text => .ok (compileChars text)
  | .error fault => .error (.notUtf8 fault)

theorem parse?_eq_some {token : String} {spec : Spec} :
    parse? token = some spec ↔ spec.tag.length = 3 ∧ spec.token = token := by
  rw [parse?, Spec.token, ← String.toList_inj, String.toList_append, String.toList_ofList,
    ← String.length_toList]
  constructor
  · intro h
    match hs : token.toList, h with
    | a :: b :: c :: codes, h =>
      obtain rfl := Option.some.inj h
      simp
  · rintro ⟨hl, ht⟩
    obtain ⟨tag, codes⟩ := spec
    match hs : tag.toList, hl with
    | [a, b, c], _ =>
      rw [← ht]
      simp only [hs, List.cons_append, List.nil_append, ofChars?]
      rw [← hs, String.ofList_toList]

theorem compileChars_colon (a b : List Char) :
    compileChars (a ++ ':' :: b) = compileChars a ++ compileChars b := by
  rw [compileChars, compileChars, compileChars, List.splitOn_append_cons_self,
    List.filterMap_append]

theorem compile_colon (s t : String) : compile (s ++ ":" ++ t) = compile s ++ compile t := by
  rw [compile, compile, compile, ← compileChars_colon]
  simp

end Spec

end Marc
