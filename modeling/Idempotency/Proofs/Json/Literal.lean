import Idempotency.Json.Literal
import Idempotency.Proofs.Text.Utf8

/-!
# `Idempotency.Proofs.Json.Literal`: a quoted string reads back

What `Json.quote` writes, `Json.readString` reads as the string that was
written, and leaves what follows the closing mark (`readString_quote`).

Each character is written in one of three ways, and read in one round whichever
it is (`readRest_escaped`): after a backslash by a letter, after a backslash by
four hexadecimal digits, or as it is.
-/

set_option autoImplicit false

namespace Idempotency.Json

open Idempotency.Text (Symbol symbols)

variable {c : Char} {cs : List Char} {rest : List Symbol}

/-- Each of the sixteen digits is read as its value. -/
theorem hexValue?_hexDigit : ∀ n < 16, hexValue? (.char (hexDigit n)) = some n := by
  decide

/-- Four hexadecimal digits read as their value. -/
theorem readHex_digits {m : Nat} (hm : m < 256) (rest : List Symbol) :
    readHex (.char '0' :: .char '0' :: .char (hexDigit (m / 16)) :: .char (hexDigit (m % 16))
      :: rest) = .ok (m, rest) := by
  have hzero : hexValue? (.char '0') = some 0 := by decide
  have hhigh := hexValue?_hexDigit (m / 16) (by omega)
  have hlow := hexValue?_hexDigit (m % 16) (by omega)
  have hdigits : [Symbol.char '0', .char '0', .char (hexDigit (m / 16)),
      .char (hexDigit (m % 16))].mapM hexValue? = some [0, 0, m / 16, m % 16] := by
    simp [List.mapM_cons, hzero, hhigh, hlow]
  unfold readHex
  simp only [List.take_succ_cons, List.take_zero, List.drop_succ_cons, List.drop_zero, hdigits]
  rw [show ((0 * 16 + 0) * 16 + m / 16) * 16 + m % 16 = m by omega]

/-- A control character reads back from its escape. -/
theorem readEscape_control (hc : c.toNat < 32) (rest : List Symbol) :
    readEscape (.char 'u' :: .char '0' :: .char '0' :: .char (hexDigit (c.toNat / 16))
      :: .char (hexDigit (c.toNat % 16)) :: rest) = .ok (c, rest) := by
  have htrailing : isTrailing c.toNat = false := by
    simp only [isTrailing, Bool.and_eq_false_iff, decide_eq_false_iff_not]
    omega
  have hleading : isLeading c.toNat = false := by
    simp only [isLeading, Bool.and_eq_false_iff, decide_eq_false_iff_not]
    omega
  simp only [readEscape, readHex_digits (show c.toNat < 256 by omega), bind, Except.bind,
    htrailing, hleading, Char.ofNat_toNat]
  rfl

/-- A character that stands for itself is no mark, no backslash and no control
character. -/
theorem readRest_plain {rounds : Nat} {read : List Symbol} (hquote : c ≠ '"')
    (hslash : c ≠ '\\') (hcontrol : ¬ c.toNat < 32) :
    readRest (rounds + 1) read (.char c :: rest) = readRest rounds (.char c :: read) rest := by
  have hquote' : ¬ Symbol.char c = .char '"' := fun h => hquote (Symbol.char.inj h)
  have hslash' : ¬ Symbol.char c = .char '\\' := fun h => hslash (Symbol.char.inj h)
  rw [readRest]
  · simp [isControl, hcontrol]
  · exact hquote'
  · exact hslash'

/-- A round of reading takes the escape of a character as the character. -/
theorem readRest_escape {rounds : Nat} {read : List Symbol} {after : List Symbol}
    (hescape : readEscape after = .ok (c, rest)) :
    readRest (rounds + 1) read (.char '\\' :: after) = readRest rounds (.char c :: read) rest := by
  rw [readRest]
  simp only [hescape, bind, Except.bind]

/-- However a character is written, a round of reading takes it. -/
theorem readRest_escaped {rounds : Nat} {read : List Symbol} (c : Char) (rest : List Symbol) :
    readRest (rounds + 1) read (symbols (escaped c) ++ rest)
      = readRest rounds (.char c :: read) rest := by
  unfold escaped
  split
  · next h => exact readRest_escape (by rw [h]; rfl)
  split
  · next h => exact readRest_escape (by rw [h]; rfl)
  split
  · next h => exact readRest_escape (by rw [h]; rfl)
  split
  · next h => exact readRest_escape (by rw [h]; rfl)
  split
  · next h => exact readRest_escape (by rw [h]; rfl)
  split
  · next h => exact readRest_escape (by rw [h]; rfl)
  split
  · next h => exact readRest_escape (by rw [h]; rfl)
  split
  · next hcontrol => exact readRest_escape (readEscape_control hcontrol rest)
  · next hquote hslash _ _ _ _ _ hcontrol => exact readRest_plain hquote hslash hcontrol

/-- Reading takes characters up to the closing mark, and gives them after those
that it has read before. -/
theorem readRest_quote (cs read : List Char) (rest : List Symbol) {rounds : Nat}
    (hrounds : cs.length < rounds) :
    readRest rounds (symbols read).reverse (symbols (cs.flatMap escaped) ++ .char '"' :: rest)
      = .ok (read ++ cs, rest) := by
  -- The symbols read so far stand in reverse, the characters in order.
  induction cs generalizing read rounds with
  | nil =>
    obtain ⟨rounds, rfl⟩ : ∃ k, rounds = k + 1 := ⟨rounds - 1, by simp at hrounds; omega⟩
    rw [show symbols ([].flatMap escaped) ++ Symbol.char '"' :: rest = .char '"' :: rest from rfl,
      readRest, List.reverse_reverse, Text.chars?_symbols, List.append_nil]
  | cons c cs ih =>
    obtain ⟨rounds, rfl⟩ : ∃ k, rounds = k + 1 := ⟨rounds - 1, by omega⟩
    have hsplit : symbols ((c :: cs).flatMap escaped) ++ Symbol.char '"' :: rest
        = symbols (escaped c) ++ (symbols (cs.flatMap escaped) ++ .char '"' :: rest) := by
      simp [symbols, List.flatMap_cons]
    have hread : Symbol.char c :: (symbols read).reverse = (symbols (read ++ [c])).reverse := by
      simp [symbols]
    rw [hsplit, readRest_escaped, hread, ih (read ++ [c]) (by simpa using hrounds),
      List.append_assoc]
    rfl

/-- A text is not longer than what is written for it. -/
theorem length_le_escaped (cs : List Char) : cs.length ≤ (cs.flatMap escaped).length := by
  induction cs with
  | nil => exact Nat.le_refl 0
  | cons c cs ih =>
    have hpos : 0 < (escaped c).length := by
      unfold escaped
      repeat' split
      all_goals simp
    rw [List.flatMap_cons, List.length_append, List.length_cons]
    omega

/-- A string between quotation marks reads back. -/
theorem readString_quote (cs : List Char) (rest : List Symbol) :
    readString (symbols (cs.flatMap escaped) ++ .char '"' :: rest)
      = .ok (String.ofList cs, rest) := by
  have hle := length_le_escaped cs
  have hrounds : cs.length
      < (symbols (cs.flatMap escaped) ++ Symbol.char '"' :: rest).length + 1 := by
    rw [List.length_append, symbols, List.length_map]
    omega
  have hread := readRest_quote cs [] rest hrounds
  rw [show (symbols []).reverse = [] from rfl, List.nil_append] at hread
  unfold readString
  simp only [hread, bind, Except.bind]

end Idempotency.Json
