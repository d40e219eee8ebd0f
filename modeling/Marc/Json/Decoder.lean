import Marc.Json.Reader

/-!
# Decoding JSON

From a JSON text to a value of the library. What is met first in the text is reported: a break, a
value of another shape, or, once a record is complete, the reason why it is refused.

A record is written as an object with named members, or as an array of the members in order.
Members with unknown names are passed over; a known name may stand only once. A `Slot` says how
one member goes into a draft of the record.

`from_json` is put together from these functions, one for each kind of value.

Results:
* `decodeText_eq_ok`: a text is decoded exactly when its value is and nothing follows it.
-/

namespace Marc.Json

variable {ε α δ : Type}

/-- The problem with a value that is not of the wanted shape. -/
def mismatch : Json → Problem ε
  | .broken cause => .broken cause
  | .string none => .broken .malformed
  | .number .tooLarge => .broken .malformed
  | _ => .shape

/-- A string. -/
def decodeString : Json → Except (Problem ε) String
  | .string (some s) => .ok s
  | json => .error (mismatch json)

/-- A string of one character. -/
def decodeChar : Json → Except (Problem ε) Char
  | .string (some s) =>
    match s.toList with
    | [c] => .ok c
    | _ => .error .shape
  | json => .error (mismatch json)

/-- A truth value. -/
def decodeBool : Json → Except (Problem ε) Bool
  | .bool b => .ok b
  | json => .error (mismatch json)

/-- A whole number of 32 bits. -/
def decodeInt32 : Json → Except (Problem ε) Int32
  | .number (.whole n) =>
    if -2147483648 ≤ n ∧ n ≤ 2147483647 then .ok (Int32.ofInt n) else .error .shape
  | json => .error (mismatch json)

/-- A value that may be null. -/
def decodeOption (decode : Json → Except (Problem ε) α) : Json → Except (Problem ε) (Option α)
  | .null => .ok none
  | json => (decode json).map some

/-- The problem with a break, if there is one. -/
def close : Option Break → Except (Problem ε) Unit
  | none => .ok ()
  | some cause => .error (.broken cause)

/-- The items of a list, in order. -/
def decodeItems (decode : Json → Except (Problem ε) α) : List Json → Except (Problem ε) (List α)
  | [] => .ok []
  | item :: items =>
    match decode item with
    | .error problem => .error problem
    | .ok value => (decodeItems decode items).map (value :: ·)

/-- A list. -/
def decodeList (decode : Json → Except (Problem ε) α) : Json → Except (Problem ε) (List α)
  | .array items stop =>
    match decodeItems decode items with
    | .error problem => .error problem
    | .ok values => (close stop).map fun _ => values
  | json => .error (mismatch json)

/-- A member of a record: its name, whether a draft holds it already, and how its value goes into
a draft. -/
structure Slot (ε δ : Type) where
  name : String
  isFilled : δ → Bool
  fill : Json → δ → Except (Problem ε) δ

/-- The draft after the members of an object. -/
def fillMembers (slots : List (Slot ε δ)) :
    List (Option String × Json) → δ → Except (Problem ε) δ
  | [], draft => .ok draft
  | (none, _) :: _, _ => .error (.broken .malformed)
  | (some name, json) :: members, draft =>
    match slots.find? fun slot => slot.name == name with
    | none => fillMembers slots members draft
    | some slot =>
      if slot.isFilled draft then .error .shape
      else
        match slot.fill json draft with
        | .error problem => .error problem
        | .ok draft => fillMembers slots members draft

/-- The draft after the items of an array. Items without a slot are an error. -/
def fillItems : List (Slot ε δ) → List Json → δ → Except (Problem ε) δ
  | _, [], draft => .ok draft
  | [], _ :: _, _ => .error (.broken .malformed)
  | slot :: slots, json :: items, draft =>
    match slot.fill json draft with
    | .error problem => .error problem
    | .ok draft => fillItems slots items draft

/-- A record, from an empty draft and the way to complete one. -/
def decodeRecord (slots : List (Slot ε δ)) (empty : δ) (finish : δ → Except (Problem ε) α) :
    Json → Except (Problem ε) α
  | .object members stop => do
    let draft ← fillMembers slots members empty
    close stop
    finish draft
  | .array items stop => do
    let draft ← fillItems slots items empty
    close stop
    finish draft
  | json => .error (mismatch json)

/-- The value of a member that has to be there. -/
def required : Option α → Except (Problem ε) α
  | some value => .ok value
  | none => .error .shape

/-- A value from a text that holds nothing else. -/
def decodeText (decode : Json → Except (Problem ε) α) (text : String) :
    Except (Problem ε) α :=
  match decode (read text.toList).1 with
  | .error problem => .error problem
  | .ok value => (close (read text.toList).2).map fun _ => value

theorem decodeText_eq_ok {decode : Json → Except (Problem ε) α} {text : String} {value : α} :
    decodeText decode text = .ok value ↔
      decode (read text.toList).1 = .ok value ∧ (read text.toList).2 = none := by
  rw [decodeText]
  cases decode (read text.toList).1 with
  | error problem => simp
  | ok v => cases (read text.toList).2 <;> simp [close, Except.map]

end Marc.Json
