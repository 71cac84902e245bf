/-!
# `Idempotency.Text.Utf8`: characters as bytes, bytes as characters

Writing is `encode`: each character by its one to four bytes. Reading is
`scan`, which accepts any bytes: it takes the longest well-formed character at
the front, and a byte that starts none stands for itself as a stray. So a
reader can look at text and damage alike, character by character, and a text
is intact exactly when no stray is left (`decode?`).
-/

set_option autoImplicit false

namespace Idempotency

/-- Stored or transmitted bytes. -/
abbrev Bytes := List UInt8

namespace Text

/-- What a reader finds in bytes: a character, or a byte that belongs to
none. -/
inductive Symbol
  | char (c : Char)
  | stray (byte : UInt8)
  deriving DecidableEq, Inhabited

/-- The bytes of a text. -/
def encode (cs : List Char) : Bytes := cs.flatMap String.utf8EncodeChar

/-- The bytes of a string. -/
def encodeString (s : String) : Bytes := encode s.toList

/-- Whether a byte may follow the first byte of a character. -/
def isTail (b : UInt8) : Bool := 0x80 ≤ b && b ≤ 0xBF

/-- The six low bits of a following byte. -/
def tailBits (b : UInt8) : Nat := b.toNat - 0x80

/-- The character of two bytes; a value below 80 hex has a shorter form and
is refused. -/
def twoBytes? (b₀ b₁ : UInt8) : Option Char :=
  if 0xC2 ≤ b₀ && b₀ ≤ 0xDF && isTail b₁ then
    some (Char.ofNat ((b₀.toNat - 0xC0) * 0x40 + tailBits b₁))
  else none

/-- The character of three bytes, neither one with a shorter form nor half of
a surrogate pair. -/
def threeBytes? (b₀ b₁ b₂ : UInt8) : Option Char :=
  let n := (b₀.toNat - 0xE0) * 0x1000 + tailBits b₁ * 0x40 + tailBits b₂
  if 0xE0 ≤ b₀ && b₀ ≤ 0xEF && isTail b₁ && isTail b₂ && 0x800 ≤ n
      && !(0xD800 ≤ n && n ≤ 0xDFFF) then
    some (Char.ofNat n)
  else none

/-- The character of four bytes, in the range that needs four. -/
def fourBytes? (b₀ b₁ b₂ b₃ : UInt8) : Option Char :=
  let n := (b₀.toNat - 0xF0) * 0x40000 + tailBits b₁ * 0x1000 + tailBits b₂ * 0x40 + tailBits b₃
  if 0xF0 ≤ b₀ && b₀ ≤ 0xF4 && isTail b₁ && isTail b₂ && isTail b₃ && 0x10000 ≤ n
      && n ≤ 0x10FFFF then
    some (Char.ofNat n)
  else none

/-- The characters and strays of bytes, from the front. -/
def scan : Bytes → List Symbol
  | [] => []
  | b₀ :: rest₀ =>
    if b₀ < 0x80 then .char (Char.ofNat b₀.toNat) :: scan rest₀
    else
      match rest₀ with
      | [] => [.stray b₀]
      | b₁ :: rest₁ =>
        match twoBytes? b₀ b₁ with
        | some c => .char c :: scan rest₁
        | none =>
          match rest₁ with
          | [] => .stray b₀ :: scan [b₁]
          | b₂ :: rest₂ =>
            match threeBytes? b₀ b₁ b₂ with
            | some c => .char c :: scan rest₂
            | none =>
              match rest₂ with
              | [] => .stray b₀ :: scan [b₁, b₂]
              | b₃ :: rest₃ =>
                match fourBytes? b₀ b₁ b₂ b₃ with
                | some c => .char c :: scan rest₃
                -- Only the first byte is given up: a character may start at the
                -- next.
                | none => .stray b₀ :: scan (b₁ :: b₂ :: b₃ :: rest₃)

/-- The character a symbol is, if it is one. -/
def Symbol.char? : Symbol → Option Char
  | .char c => some c
  | .stray _ => none

/-- How many bytes a symbol came from. -/
def Symbol.width : Symbol → Nat
  | .char c => c.utf8Size
  | .stray _ => 1

/-- How many bytes symbols came from. -/
def width : List Symbol → Nat
  | [] => 0
  | symbol :: symbols => symbol.width + width symbols

/-- A text as a reader finds it. -/
def symbols (cs : List Char) : List Symbol := cs.map .char

/-- The characters of symbols among which no byte went stray. -/
def chars? (symbols : List Symbol) : Option (List Char) := symbols.mapM Symbol.char?

/-- The text whose bytes these are, if they are the bytes of one. -/
def decode? (bytes : Bytes) : Option (List Char) := chars? (scan bytes)

end Text

end Idempotency
