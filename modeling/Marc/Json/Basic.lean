/-!
# JSON texts

A JSON text is read from left to right, and what was read before a mistake is of interest too: a
value of the wrong shape at the front is reported before a missing bracket at the end. So a
`Json` is a text *as far as it goes*. An array or object that the text never closes holds what
came before the break, and a value that breaks off is `broken`. `Json.list` and `Json.record` are
whole arrays and objects.

`Json.print` writes a value without white space. Characters outside of ASCII are written as they
are; quotes, backslashes and controls are escaped.

`Json.Problem` is why a text is not what was expected, the error `Json` with its category: a text
that stops being JSON is of the category `eof` or `syntax`, and a value of another shape, or one
that is refused, is of the category `data`.
-/

namespace Marc

/-! ## Values -/

/-- How a text stops being JSON: it ends too early, or goes on with something else. -/
inductive Json.Break where
  | ended
  | malformed
  deriving DecidableEq

/-- A number. Numbers that are not whole are told apart from whole ones and not looked at
further; minus zero is one of them. -/
inductive Json.Numeral where
  | whole (n : Int)
  | real
  /-- Past the largest finite number of double precision. -/
  | tooLarge
  deriving DecidableEq

/-- A JSON text as far as it goes. -/
inductive Json where
  | null
  | bool (b : Bool)
  | number (n : Json.Numeral)
  /-- A string; none if it holds one half of a surrogate pair, which stands for no character. -/
  | string (s : Option String)
  /-- The items, and the break if the array is not closed. -/
  | array (items : List Json) (stop : Option Json.Break)
  /-- The members, and the break if the object is not closed. A name without value as text is
  none, as with strings. -/
  | object (members : List (Option String × Json)) (stop : Option Json.Break)
  /-- A value that the text does not hold to its end. -/
  | broken (cause : Json.Break)

namespace Json

/-- A string. -/
def text (s : String) : Json := .string (some s)

/-- A character, as a string of its own. -/
def char (c : Char) : Json := text (String.singleton c)

/-- A whole number. -/
def int (n : Int) : Json := .number (.whole n)

/-- A closed array. -/
def list (items : List Json) : Json := .array items none

/-- A closed object. -/
def record (members : List (String × Json)) : Json :=
  .object (members.map fun member => (some member.1, member.2)) none

/-- Why a text is not what was expected. -/
inductive Problem (ε : Type) where
  /-- It stops being JSON before. -/
  | broken (cause : Break)
  /-- It is JSON of another shape. -/
  | shape
  /-- It has the shape, and the value is refused for a reason of its own. -/
  | refused (reason : ε)
  deriving DecidableEq

/-! ## Printing -/

/-- A character of a string as it is written. -/
def escape (c : Char) : List Char :=
  if c = '"' then ['\\', '"']
  else if c = '\\' then ['\\', '\\']
  else if c = '\x08' then ['\\', 'b']
  else if c = '\x0c' then ['\\', 'f']
  else if c = '\n' then ['\\', 'n']
  else if c = '\r' then ['\\', 'r']
  else if c = '\t' then ['\\', 't']
  else if c.toNat < 0x20 then
    ['\\', 'u', '0', '0', Nat.digitChar (c.toNat / 16), Nat.digitChar (c.toNat % 16)]
  else [c]

/-- A string between quotes. -/
def printString (s : String) : List Char := '"' :: (s.toList.flatMap escape ++ ['"'])

/-- A whole number in decimal digits. -/
def printInt : Int → List Char
  | .ofNat n => Nat.toDigits 10 n
  | .negSucc n => '-' :: Nat.toDigits 10 (n + 1)

/-- A number. Only whole numbers are written as such. -/
def printNumeral : Numeral → List Char
  | .whole n => printInt n
  | .real => ['0', '.', '0']
  | .tooLarge => ['1', 'e', '9', '9', '9']

mutual

/-- A value without white space. -/
def compact : Json → List Char
  | .null => ['n', 'u', 'l', 'l']
  | .bool true => ['t', 'r', 'u', 'e']
  | .bool false => ['f', 'a', 'l', 's', 'e']
  | .number n => printNumeral n
  | .string s => printString (s.getD "")
  | .array items _ => '[' :: (printItems items ++ [']'])
  | .object members _ => '\x7b' :: (printMembers members ++ ['\x7d'])
  | .broken _ => []

/-- Items with a comma between two. -/
def printItems : List Json → List Char
  | [] => []
  | [item] => compact item
  | item :: items => compact item ++ ',' :: printItems items

/-- Members with a comma between two. -/
def printMembers : List (Option String × Json) → List Char
  | [] => []
  | [(name, value)] => printString (name.getD "") ++ ':' :: compact value
  | (name, value) :: members =>
    printString (name.getD "") ++ ':' :: (compact value ++ ',' :: printMembers members)

end

/-- A value as a string without white space. -/
def print (json : Json) : String := String.ofList (compact json)

end Json

end Marc
