import Idempotency.Json.Writer
import Idempotency.Proofs.Decimal.Whole
import Idempotency.Proofs.Json.Reader

/-!
# `Idempotency.Proofs.Json.Writer`: written text has no control characters

Text is `Plain` if none of its characters is a control character. Strings are
written as plain text whatever they hold (`plain_quote`), and so is everything
that is put together from strings, numbers and brackets.
-/

set_option autoImplicit false

namespace Idempotency.Json

variable {cs ds : List Char} {texts : List (List Char)}

/-- The text has no control character, so no line break either. -/
def Plain (cs : List Char) : Prop := ∀ c ∈ cs, 32 ≤ c.toNat

/-- The empty text is plain. -/
theorem plain_nil : Plain [] := fun _ h => nomatch h

/-- A text is plain if its first character is no control character, and what follows is
plain. -/
theorem plain_cons {c : Char} (hc : 32 ≤ c.toNat) (hcs : Plain cs) : Plain (c :: cs) :=
  List.forall_mem_cons.2 ⟨hc, hcs⟩

/-- Plain texts are plain together. -/
theorem plain_append (hcs : Plain cs) (hds : Plain ds) : Plain (cs ++ ds) :=
  List.forall_mem_append.2 ⟨hcs, hds⟩

/-- No control character is in a plain text. -/
theorem Plain.not_mem (h : Plain cs) {c : Char} (hc : c.toNat < 32) : c ∉ cs := fun hmem =>
  Nat.not_le_of_lt hc (h c hmem)

/-- In particular no line feed is. -/
theorem Plain.lineFeed_not_mem (h : Plain cs) : '\n' ∉ cs := h.not_mem (by decide)

/-- No digit is a control character. -/
theorem plain_hexDigit : ∀ n < 16, 32 ≤ (hexDigit n).toNat := by decide

/-- A backslash before a character that is plain is plain. -/
theorem plain_escape {c : Char} (hc : 32 ≤ c.toNat) : Plain ['\\', c] :=
  plain_cons (by decide) (plain_cons hc plain_nil)

/-- However a character is written, it is written plainly. -/
theorem plain_escaped (c : Char) : Plain (escaped c) := by
  unfold escaped
  split
  · exact plain_escape (by decide)
  split
  · exact plain_escape (by decide)
  split
  · exact plain_escape (by decide)
  split
  · exact plain_escape (by decide)
  split
  · exact plain_escape (by decide)
  split
  · exact plain_escape (by decide)
  split
  · exact plain_escape (by decide)
  split
  · next hcontrol =>
    have hhigh : 32 ≤ (hexDigit (c.toNat / 16)).toNat := plain_hexDigit _ (by omega)
    have hlow : 32 ≤ (hexDigit (c.toNat % 16)).toNat := plain_hexDigit _ (by omega)
    have hdigits : Plain ['0', '0', hexDigit (c.toNat / 16), hexDigit (c.toNat % 16)] :=
      plain_cons (by decide) (plain_cons (by decide) (plain_cons hhigh (plain_cons hlow plain_nil)))
    exact plain_append (plain_escape (show 32 ≤ 'u'.toNat by decide)) hdigits
  · next hplain => exact plain_cons (Nat.le_of_not_lt hplain) plain_nil

/-- A string is written as plain text, whatever characters it has. -/
theorem plain_quote (cs : List Char) : Plain (quote cs) := by
  have hbody : Plain (cs.flatMap escaped) := by
    intro c hc
    obtain ⟨d, _, hd⟩ := List.mem_flatMap.1 hc
    exact plain_escaped d c hd
  exact plain_cons (by decide) (plain_append hbody (plain_cons (by decide) plain_nil))

/-- A whole number is written as plain text. -/
theorem plain_decimal (n : Nat) : Plain (Decimal.decimal n) := by
  intro c hc
  have hdigit := Decimal.toNat_of_isDigit (Decimal.isDigit_of_mem_decimal hc)
  omega

/-- So is a member of an object, if its value is. -/
theorem plain_member (name : String) (h : Plain cs) : Plain (member name cs) :=
  plain_append (plain_quote _) (plain_cons (by decide) h)

/-- Commas between plain texts are plain. -/
theorem plain_commaSeparated (h : ∀ text ∈ texts, Plain text) : Plain (commaSeparated texts) := by
  cases texts with
  | nil => exact plain_nil
  | cons text texts =>
    rw [commaSeparated_cons]
    refine plain_append (h text List.mem_cons_self) ?_
    intro c hc
    obtain ⟨later, hlater, hc⟩ := List.mem_flatMap.1 hc
    exact plain_cons (show 32 ≤ ','.toNat by decide) (h later (List.mem_cons_of_mem _ hlater)) c hc

/-- A list of plain texts is plain. -/
theorem plain_bracketed (h : ∀ text ∈ texts, Plain text) : Plain (bracketed texts) :=
  plain_cons (by decide) (plain_append (plain_commaSeparated h) (plain_cons (by decide) plain_nil))

/-- An object of plain texts is plain. -/
theorem plain_braced (h : ∀ text ∈ texts, Plain text) : Plain (braced texts) :=
  plain_cons (by decide) (plain_append (plain_commaSeparated h) (plain_cons (by decide) plain_nil))

end Idempotency.Json
