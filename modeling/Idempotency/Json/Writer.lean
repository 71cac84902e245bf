import Idempotency.Json.Literal

/-!
# `Idempotency.Json.Writer`: the text of a value

Values are written without blanks, members in the order they are in. The text
of a normalized value (`Json.normalize`) therefore does not depend on the
order in which its members were given.
-/

set_option autoImplicit false

namespace Idempotency.Json

/-- Texts with commas between them. -/
def commaSeparated : List (List Char) → List Char
  | [] => []
  | [text] => text
  | text :: texts => text ++ ',' :: commaSeparated texts

/-- A list of texts between square brackets. -/
def bracketed (texts : List (List Char)) : List Char := '[' :: commaSeparated texts ++ [']']

/-- A name and the text of its value. -/
def member (name : String) (text : List Char) : List Char := quote name.toList ++ ':' :: text

/-- A list of members between braces. -/
def braced (members : List (List Char)) : List Char := '\x7b' :: commaSeparated members ++ ['\x7d']

/-- The words for the values without content. -/
def nullText : List Char := ['n', 'u', 'l', 'l']

/-- The word of a truth value. -/
def boolText (b : Bool) : List Char :=
  if b then ['t', 'r', 'u', 'e'] else ['f', 'a', 'l', 's', 'e']

mutual

/-- The text of a value. -/
def text : Json → List Char
  | .null => nullText
  | .bool b => boolText b
  | .number n => n.text
  | .string s => quote s.toList
  | .array items => bracketed (itemTexts items)
  | .object members => braced (memberTexts members)

/-- The texts of the items of a list. -/
def itemTexts : List Json → List (List Char)
  | [] => []
  | item :: items => item.text :: itemTexts items

/-- The texts of the members of an object. -/
def memberTexts : List (String × Json) → List (List Char)
  | [] => []
  | (name, value) :: members => member name value.text :: memberTexts members

end

end Idempotency.Json
