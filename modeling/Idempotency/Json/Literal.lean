import Idempotency.Json.Basic

/-!
# `Idempotency.Json.Literal`: strings between quotation marks

`Json.quote` writes a string: a backslash before a quotation mark and a
backslash, a letter for the five controls that have one, four hexadecimal
digits for the other controls, and every other character as it is.

`Json.readString` reads what follows an opening quotation mark. It accepts
every escape, pairs up surrogates, and looks at stray bytes only once the
closing mark is reached. `Json.skipString` passes over a string that nobody
wants: it checks the form of escapes and nothing else.
-/

set_option autoImplicit false

namespace Idempotency.Json

open Idempotency.Text (Symbol)

/-- A hexadecimal digit, in lower case. -/
def hexDigit (n : Nat) : Char := Nat.digitChar n

/-- How a character is written inside a string. -/
def escaped (c : Char) : List Char :=
  if c = '"' then ['\\', '"']
  else if c = '\\' then ['\\', '\\']
  else if c = '\x08' then ['\\', 'b']
  else if c = '\x0c' then ['\\', 'f']
  else if c = '\n' then ['\\', 'n']
  else if c = '\r' then ['\\', 'r']
  else if c = '\t' then ['\\', 't']
  else if c.toNat < 0x20 then
    ['\\', 'u', '0', '0', hexDigit (c.toNat / 16), hexDigit (c.toNat % 16)]
  else [c]

/-- A string between quotation marks. -/
def quote (cs : List Char) : List Char := '"' :: cs.flatMap escaped ++ ['"']

/-- The value of a hexadecimal digit of either case. -/
def hexValue? : Symbol → Option Nat
  | .char c =>
    if '0' ≤ c && c ≤ '9' then some (c.toNat - '0'.toNat)
    else if 'a' ≤ c && c ≤ 'f' then some (c.toNat - 'a'.toNat + 10)
    else if 'A' ≤ c && c ≤ 'F' then some (c.toNat - 'A'.toNat + 10)
    else none
  | .stray _ => none

/-- Four hexadecimal digits. A text that ends before its fourth byte ends in
the string. -/
def readHex : Reader Nat := fun input =>
  match (input.take 4).mapM hexValue? with
  | some [a, b, c, d] => .ok (((a * 16 + b) * 16 + c) * 16 + d, input.drop 4)
  | _ =>
    -- Four bytes are asked for at once, so a text that is too short is found
    -- out before any of them is looked at.
    if Text.width (input.take 4) < 4 then .error .endInString
    else .error .invalidEscape

/-- The first halves of surrogate pairs. -/
def isLeading (n : Nat) : Bool := 0xD800 ≤ n && n ≤ 0xDBFF

/-- The second halves of surrogate pairs. -/
def isTrailing (n : Nat) : Bool := 0xDC00 ≤ n && n ≤ 0xDFFF

/-- The character of a surrogate pair. -/
def ofPair (leading trailing : Nat) : Char :=
  Char.ofNat (0x10000 + (leading - 0xD800) * 0x400 + (trailing - 0xDC00))

/-- The second half of an escaped surrogate pair whose first half has just
been read. -/
def readTrailing (leading : Nat) : Reader Char
  | [] => .error .endInString
  | .char '\\' :: [] => .error .endInString
  | .char '\\' :: .char 'u' :: rest => do
    let (trailing, rest) ← readHex rest
    if isTrailing trailing then .ok (ofPair leading trailing, rest) else .error .loneSurrogate
  | _ => .error .endOfEscape

/-- What stands for one character after a backslash. -/
def readEscape : Reader Char
  | [] => .error .endInString
  | .char 'u' :: rest => do
    let (n, rest) ← readHex rest
    if isTrailing n then .error .loneSurrogate
    else if isLeading n then readTrailing n rest
    else .ok (Char.ofNat n, rest)
  | .char '"' :: rest => .ok ('"', rest)
  | .char '\\' :: rest => .ok ('\\', rest)
  | .char '/' :: rest => .ok ('/', rest)
  | .char 'b' :: rest => .ok ('\x08', rest)
  | .char 'f' :: rest => .ok ('\x0c', rest)
  | .char 'n' :: rest => .ok ('\n', rest)
  | .char 'r' :: rest => .ok ('\r', rest)
  | .char 't' :: rest => .ok ('\t', rest)
  | _ => .error .invalidEscape

/-- Whether a symbol is a control character, which a string must escape. -/
def isControl : Symbol → Bool
  | .char c => c.toNat < 0x20
  | .stray _ => false

/-- Reads up to the closing quotation mark. `read` holds what was read, last
first. Every round takes at least one symbol. -/
def readRest : Nat → List Symbol → Reader (List Char)
  | 0, _, _ => .error .endInString
  | _ + 1, _, [] => .error .endInString
  | _ + 1, read, .char '"' :: rest =>
    -- Escapes of the string have been judged by now; stray bytes come last.
    match Text.chars? read.reverse with
    | some cs => .ok (cs, rest)
    | none => .error .invalidCodePoint
  | rounds + 1, read, .char '\\' :: rest => do
    let (c, rest) ← readEscape rest
    readRest rounds (.char c :: read) rest
  | rounds + 1, read, symbol :: rest =>
    if isControl symbol then .error .controlCharacter
    else readRest rounds (symbol :: read) rest

/-- Reads a string whose opening quotation mark has been read. -/
def readString : Reader String := fun input => do
  let (cs, rest) ← readRest (input.length + 1) [] input
  .ok (String.ofList cs, rest)

/-- Passes over what stands after a backslash. -/
def skipEscape (input : List Symbol) : Except Error (List Symbol) :=
  match input with
  | [] => .error .endInString
  | .char 'u' :: rest => do
    let (_, rest) ← readHex rest
    .ok rest
  | .char c :: rest =>
    if ['"', '\\', '/', 'b', 'f', 'n', 'r', 't'].contains c then .ok rest
    else .error .invalidEscape
  | .stray _ :: _ => .error .invalidEscape

/-- Passes over a string up to its closing quotation mark. -/
def skipRest : Nat → List Symbol → Except Error (List Symbol)
  | 0, _ => .error .endInString
  | _ + 1, [] => .error .endInString
  | _ + 1, .char '"' :: rest => .ok rest
  | rounds + 1, .char '\\' :: rest => do
    let rest ← skipEscape rest
    skipRest rounds rest
  | rounds + 1, symbol :: rest =>
    if isControl symbol then .error .controlCharacter else skipRest rounds rest

/-- Passes over a string whose opening quotation mark has been read. -/
def skipString (input : List Symbol) : Except Error (List Symbol) :=
  skipRest (input.length + 1) input

end Idempotency.Json
