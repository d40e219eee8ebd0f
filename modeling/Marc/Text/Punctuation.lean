import Marc.Text.Basic

/-!
# Trailing punctuation

Cataloguing rules put punctuation at the end of a part to lead into the next one (` /`, ` :`,
` ;`, a full stop) and square brackets around what the cataloguer supplied. None of it belongs to
the value on its own. `stripPunctuation`, and `unpunctuated` on strings, is `trim_punctuation`. It
takes the punctuation off in three steps, one for each pattern, each on the result of the step
before:

* `stripSeparator`: one separator with the spaces around it, at the end;
* `stripPeriod`: a period after three word characters, at the end;
* `stripBrackets`: a bracket at either end of a text without other brackets.

`dropPeriod`, and `withoutPeriod` on strings, is `trim_dot`: it takes off one period and nothing
else.
-/

namespace Marc.Text

/-- Whether the character separates two parts of a description. -/
def isSeparator (c : Char) : Bool := c == ',' || c == '/' || c == ';' || c == ':'

/-- Whether the character is a letter or digit of ASCII, or the underscore. -/
def isWordChar (c : Char) : Bool := c.isAlphanum || c == '_'

/-- Whether the character is a square bracket. -/
def isBracket (c : Char) : Bool := c == '[' || c == ']'

/-- The text without the spaces at its end. -/
def dropEndSpaces (text : List Char) : List Char := dropEndWhile (· == ' ') text

/-- The text, given backwards, without one separator at its end and the spaces on both sides of
it; without a separator there, the spaces go on their own. -/
def stripSeparatorBackwards (backwards : List Char) : List Char :=
  match backwards.dropWhile (· == ' ') with
  | c :: rest => if isSeparator c then rest.dropWhile (· == ' ') else c :: rest
  | [] => []

/-- The text without one separator at its end and the spaces on both sides of it; without a
separator there, the spaces go on their own. -/
def stripSeparator (text : List Char) : List Char :=
  (stripSeparatorBackwards text.reverse).reverse

/-- The text, given backwards, without a period (and the spaces after it) that follows three word
characters. -/
def stripPeriodBackwards (backwards : List Char) : List Char :=
  match backwards.dropWhile (· == ' ') with
  | '.' :: a :: b :: c :: rest =>
    if isWordChar a && isWordChar b && isWordChar c then a :: b :: c :: rest else backwards
  | _ => backwards

/-- The text without a period (and the spaces after it) that follows three word characters at its
end. -/
def stripPeriod (text : List Char) : List Char := (stripPeriodBackwards text.reverse).reverse

/-- The text without an opening bracket at its start. -/
def dropOpening : List Char → List Char
  | '[' :: rest => rest
  | text => text

/-- The text without a closing bracket at its end. -/
def dropClosing (text : List Char) : List Char :=
  if text.getLast? = some ']' then text.dropLast else text

/-- What stands between an opening bracket at the start and a closing one at the end. -/
def bracketed (text : List Char) : List Char := dropClosing (dropOpening text)

/-- The text without a bracket at its start and one at its end, if what they enclose is not empty
and holds no other bracket. -/
def stripBrackets (text : List Char) : List Char :=
  if (bracketed text).isEmpty || (bracketed text).any isBracket then text else bracketed text

/-- The text without the punctuation at its end and the brackets around it. -/
def stripPunctuation (text : List Char) : List Char :=
  stripBrackets (stripPeriod (stripSeparator text))

/-- The string without the punctuation at its end and the brackets around it. -/
def unpunctuated (s : String) : String := String.ofList (stripPunctuation s.toList)

/-- The text without one period at its end. -/
def dropPeriod (text : List Char) : List Char :=
  if text.getLast? = some '.' then text.dropLast else text

/-- The string without one period at its end. -/
def withoutPeriod (s : String) : String := String.ofList (dropPeriod s.toList)

/-- A text that ends neither in a space nor in a separator keeps its end in the first step. -/
theorem stripSeparator_eq_self {text : List Char}
    (h : ∀ c, text.getLast? = some c → c ≠ ' ' ∧ isSeparator c = false) :
    stripSeparator text = text := by
  rw [stripSeparator, stripSeparatorBackwards]
  rw [← List.head?_reverse] at h
  cases hr : text.reverse with
  | nil => rw [List.reverse_eq_nil_iff.mp hr]; rfl
  | cons c rest =>
    have hc := h c (by rw [hr]; rfl)
    rw [List.dropWhile_cons_of_neg (by simp [hc.1])]
    simp only [hc.2, Bool.false_eq_true, if_false]
    rw [← hr, List.reverse_reverse]

end Marc.Text
