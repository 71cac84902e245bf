import Idempotency.Json.Literal
import Idempotency.Json.Number

/-!
# `Idempotency.Json.Skip`: passing over a value

The value of a member that nobody asked for is checked for its form only, and
may be nested to any depth: instead of recursing, `Json.skip` keeps the open
brackets in a list. A comma before a closing bracket is not told apart here
from any other thing that is no value or no name.
-/

set_option autoImplicit false

namespace Idempotency.Json

open Idempotency.Text (Symbol)

/-- The blanks allowed between the parts of a text. -/
def isSpace : Symbol → Bool
  | .char c => c == ' ' || c == '\t' || c == '\n' || c == '\r'
  | .stray _ => false

/-- Drops the blanks a text starts with. -/
def dropSpace (input : List Symbol) : List Symbol := input.dropWhile isSpace

/-- Reads the rest of a word whose first letter has been read. -/
def readWord : List Char → List Symbol → Except Error (List Symbol)
  | [], rest => .ok rest
  | _ :: _, [] => .error .endInValue
  | c :: cs, symbol :: rest =>
    if symbol = .char c then readWord cs rest else .error .expectedWord

/-- A bracket that is open. -/
inductive Bracket
  | list
  | object
  deriving DecidableEq

/-- What is wrong when the text ends inside a bracket. -/
def Bracket.endError : Bracket → Error
  | .list => .endInList
  | .object => .endInObject

/-- What is wrong when neither a comma nor the closing bracket follows. -/
def Bracket.commaError : Bracket → Error
  | .list => .expectedCommaOrBracket
  | .object => .expectedCommaOrBrace

/-- The closing bracket. -/
def Bracket.close : Bracket → Char
  | .list => ']'
  | .object => '\x7d'

/-- Reads a colon. -/
def readColon (input : List Symbol) : Except Error (List Symbol) :=
  match dropSpace input with
  | [] => .error .endInObject
  | .char ':' :: rest => .ok rest
  | _ => .error .expectedColon

/-- Passes over a scalar, or an opening bracket, which it gives back. -/
def skipFront (input : List Symbol) : Except Error (Option Bracket × List Symbol) :=
  match dropSpace input with
  | [] => .error .endInValue
  | .char '[' :: rest => .ok (some .list, rest)
  | .char '\x7b' :: rest => .ok (some .object, rest)
  | .char 'n' :: rest => (readWord ['u', 'l', 'l'] rest).map (none, ·)
  | .char 't' :: rest => (readWord ['r', 'u', 'e'] rest).map (none, ·)
  | .char 'f' :: rest => (readWord ['a', 'l', 's', 'e'] rest).map (none, ·)
  | .char '"' :: rest => (skipString rest).map (none, ·)
  | .char '-' :: rest => (skipNumber rest).map (none, ·)
  | symbol :: rest =>
    if (digit? symbol).isSome then (skipNumber (symbol :: rest)).map (none, ·)
    else .error .expectedValue

/-- Passes over what stands in front of a value inside a bracket: in an
object, a name and a colon. -/
def skipName (bracket : Bracket) (input : List Symbol) : Except Error (List Symbol) :=
  match bracket with
  | .list => .ok input
  | .object =>
    match dropSpace input with
    | [] => .error .endInObject
    | .char '"' :: rest => do
      let rest ← skipString rest
      readColon rest
    | _ => .error .keyNotString

/-- Where a skipping reader stands: before a value, after an opening bracket,
or after a value. -/
inductive Place
  | value
  | opened
  | valued

/-- Passes over the rest of a value, given the brackets open around the place
(innermost first). Every second round takes at least one symbol. -/
def skipFrom : Nat → Place → List Bracket → List Symbol → Except Error (List Symbol)
  | 0, _, _, _ => .error .endInValue
  | _ + 1, .valued, [], input => .ok input
  | _ + 1, .opened, [], input => .ok input
  | rounds + 1, .value, brackets, input => do
    match ← skipFront input with
    | (some bracket, rest) => skipFrom rounds .opened (bracket :: brackets) rest
    | (none, rest) => skipFrom rounds .valued brackets rest
  | rounds + 1, .opened, bracket :: brackets, input =>
    match dropSpace input with
    | [] => .error bracket.endError
    | symbol :: rest =>
      if symbol = .char bracket.close then skipFrom rounds .valued brackets rest
      -- The symbol is the first of the first name or value.
      else do
        let rest ← skipName bracket (symbol :: rest)
        skipFrom rounds .value (bracket :: brackets) rest
  | rounds + 1, .valued, bracket :: brackets, input =>
    match dropSpace input with
    | [] => .error bracket.endError
    | symbol :: rest =>
      if symbol = .char bracket.close then skipFrom rounds .valued brackets rest
      else if symbol = .char ',' then do
        let rest ← skipName bracket rest
        skipFrom rounds .value (bracket :: brackets) rest
      else .error bracket.commaError

/-- Passes over a value of any depth. -/
def skip (input : List Symbol) : Except Error (List Symbol) :=
  skipFrom (2 * input.length + 2) .value [] input

end Idempotency.Json
