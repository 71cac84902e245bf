import Idempotency.Json.Skip

/-!
# `Idempotency.Json.Reader`: reading values

Reading is a single pass from the left, and the first thing that is wrong is
what is reported. `Json.front` takes a whole scalar, or the opening bracket of
a list or object, and says which it was; every reader starts there and then
either goes on or reports what it found instead of what it wanted.

The items of lists and the members of objects are read by readers that take
the reader of one item as an argument. A value that is built in full may nest
`maxLevels` lists and objects inside one another.
-/

set_option autoImplicit false

namespace Idempotency.Json

open Idempotency.Text (Symbol)

/-- The scalar or opening bracket at the front. -/
def front : Reader Found := fun input =>
  match dropSpace input with
  | [] => .error .endInValue
  | .char '[' :: rest => .ok (.sequence, rest)
  | .char '\x7b' :: rest => .ok (.map, rest)
  | .char 'n' :: rest => (readWord ['u', 'l', 'l'] rest).map (.null, ·)
  | .char 't' :: rest => (readWord ['r', 'u', 'e'] rest).map (.bool true, ·)
  | .char 'f' :: rest => (readWord ['a', 'l', 's', 'e'] rest).map (.bool false, ·)
  | .char '"' :: rest => (readString rest).map fun (s, rest) => (.string s, rest)
  | .char '-' :: rest => (readNumber true rest).map fun (n, rest) => (.number n, rest)
  | symbol :: rest =>
    if (digit? symbol).isSome then
      (readNumber false (symbol :: rest)).map fun (n, rest) => (.number n, rest)
    else .error .expectedValue

/-- Where the next item of a list starts, if there is one; the closing bracket
is left in place. -/
def nextItem (first : Bool) (input : List Symbol) : Except Error (Option (List Symbol)) :=
  match dropSpace input with
  | [] => .error .endInList
  | .char ']' :: _ => .ok none
  | symbol :: rest =>
    if first then .ok (some (symbol :: rest))
    else if symbol = .char ',' then
      match dropSpace rest with
      -- After a comma it is the next value that is missed, not the bracket.
      | [] => .error .endInValue
      | .char ']' :: _ => .error .trailingComma
      | rest => .ok (some rest)
    else .error .expectedCommaOrBracket

/-- The closing bracket of a list. -/
def closeList (input : List Symbol) : Except Error (List Symbol) :=
  match dropSpace input with
  | [] => .error .endInList
  | .char ']' :: rest => .ok rest
  -- Whoever closes the list wants no further item, so one more is one too
  -- many.
  | .char ',' :: rest =>
    match dropSpace rest with
    | .char ']' :: _ => .error .trailingComma
    | _ => .error .trailingCharacters
  | _ => .error .trailingCharacters

/-- The name of the next member of an object, if there is one; the closing
brace is left in place. -/
def nextName (first : Bool) (input : List Symbol) :
    Except Error (Option (String × List Symbol)) :=
  match dropSpace input with
  | [] => .error .endInObject
  | .char '\x7d' :: _ => .ok none
  | symbol :: rest =>
    if first then
      if symbol = .char '"' then (readString rest).map some else .error .keyNotString
    else if symbol = .char ',' then
      match dropSpace rest with
      | [] => .error .endInValue
      | .char '"' :: rest => (readString rest).map some
      | .char '\x7d' :: _ => .error .trailingComma
      | _ => .error .keyNotString
    else .error .expectedCommaOrBrace

/-- The closing brace of an object. -/
def closeObject (input : List Symbol) : Except Error (List Symbol) :=
  match dropSpace input with
  | [] => .error .endInObject
  | .char '\x7d' :: rest => .ok rest
  | .char ',' :: _ => .error .trailingComma
  | _ => .error .trailingCharacters

section Many
variable {α : Type}

/-- Reads the items of a list. `items` holds what was read, last first. Every
round takes at least one symbol. -/
def itemsFrom (read : Reader α) : Nat → List α → Reader (List α)
  | 0, _, _ => .error .endInList
  | rounds + 1, items, input => do
    match ← nextItem items.isEmpty input with
    | none => .ok (items.reverse, input)
    | some input => do
      let (item, input) ← read input
      itemsFrom read rounds (item :: items) input

/-- Reads a list whose opening bracket has been read. -/
def readItems (read : Reader α) : Reader (List α) := fun input => do
  let (items, input) ← itemsFrom read (input.length + 1) [] input
  let input ← closeList input
  .ok (items, input)

/-- Reads the members of an object. Every round takes at least one symbol. -/
def membersFrom (read : Reader α) : Nat → Bool → SortedMap α → Reader (SortedMap α)
  | 0, _, _, _ => .error .endInObject
  | rounds + 1, first, members, input => do
    match ← nextName first input with
    | none => .ok (members, input)
    | some (name, input) => do
      let input ← readColon input
      let (value, input) ← read input
      membersFrom read rounds false (members.insert name value) input

/-- Reads an object whose opening brace has been read. Of two members with one
name the later one stays. -/
def readMembers (read : Reader α) : Reader (SortedMap α) := fun input => do
  let (members, input) ← membersFrom read (input.length + 1) true .empty input
  let input ← closeObject input
  .ok (members, input)

end Many

/-- How many lists and objects a value that is built may nest. -/
def maxLevels : Nat := 127

/-- Reads a value in which at most `levels` lists and objects are nested. -/
def readValue : Nat → Reader Json
  | levels, input => do
    match ← front input with
    | (.null, rest) => .ok (.null, rest)
    | (.bool b, rest) => .ok (.bool b, rest)
    | (.number n, rest) => .ok (.number n, rest)
    | (.string s, rest) => .ok (.string s, rest)
    | (.sequence, rest) =>
      match levels with
      | 0 => .error .recursionLimit
      | levels + 1 => do
        let (items, rest) ← readItems (readValue levels) rest
        .ok (.array items, rest)
    | (.map, rest) =>
      match levels with
      | 0 => .error .recursionLimit
      | levels + 1 => do
        let (members, rest) ← readMembers (readValue levels) rest
        .ok (.object members.entries, rest)

/-- Reads a whole text: a value and nothing after it but blanks. -/
def readWhole {α : Type} (read : Reader α) (input : List Symbol) : Except Error α := do
  let (value, rest) ← read input
  match dropSpace rest with
  | [] => .ok value
  | _ => .error .trailingCharacters

/-- Reads a whole text given as characters. -/
def readText {α : Type} (read : Reader α) (cs : List Char) : Except Error α :=
  readWhole read (Text.symbols cs)

/-- Reads a whole text given as bytes. -/
def readBytes {α : Type} (read : Reader α) (bytes : Bytes) : Except Error α :=
  readWhole read (Text.scan bytes)

end Idempotency.Json
