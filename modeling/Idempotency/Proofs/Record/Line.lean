import Idempotency.Proofs.Json.Structure
import Idempotency.Proofs.Json.Writer
import Idempotency.Proofs.Time.Rfc3339
import Idempotency.Record.Line

/-!
# `Idempotency.Proofs.Record.Line`: written records read back

Main statements, for every record:

- `Record.ofText_text`: its text reads as the record;
- `Record.plain_text`: its text has no control character, so it is one line;
- `Record.trimChars_text`: trimming leaves its text as it is.
-/

set_option autoImplicit false

namespace Idempotency.Record

open Idempotency.Json (Plain Reads)

/-! ### Reading -/

/-- The payload reads back, whatever bytes it has. -/
theorem reads_payload (bytes : Bytes) :
    Reads (Json.readList Json.readByte) (bytesText bytes) bytes :=
  Json.reads_list fun b _ => Json.reads_byte b

/-- An instant reads back from the text in which it is written. -/
theorem reads_instant (t : Instant) : Reads readInstant (Json.quote t.text) t where
  starts := Json.startsValue_quote t.text
  reads rest hend := by
    have hstring := (Json.reads_string "an RFC 3339 formatted date and time string"
      (String.ofList t.text)).reads rest hend
    rw [String.toList_ofList] at hstring
    simp only [readInstant, hstring, bind, Except.bind, String.toList_ofList, Instant.ofText_text]

/-- The members of the text give the four fields, each of them once. -/
theorem fills (r : Record) :
    layout.Fills layout.blank
      [ Json.member "key" (Json.quote r.key.toList),
        Json.member "request_hash" (Json.quote r.requestHash.toList),
        Json.member "payload" (bytesText r.payload),
        Json.member "expires_at" (Json.quote r.expiresAt.text) ]
      ⟨some r.key, some r.requestHash, some r.payload, some r.expiresAt⟩ := by
  refine .field rfl rfl (Json.reads_string _ r.key) ?_
  refine .field rfl rfl (Json.reads_string _ r.requestHash) ?_
  refine .field rfl rfl (reads_payload r.payload) ?_
  refine .field rfl rfl (reads_instant r.expiresAt) ?_
  exact .nil _

/-- The text of a record reads as the record wherever a value may end after it. -/
theorem reads (r : Record) : Reads layout.read r.text r :=
  Json.Structure.reads r.fills rfl

/-- The text of a record reads as the record. -/
theorem ofText_text (r : Record) : ofText r.text = .ok r := by
  have hread := r.reads.reads [] Json.atEnd_nil
  rw [List.append_nil] at hread
  simp only [ofText, Json.readText, Json.readWhole, hread, bind, Except.bind]
  rfl

/-! ### One line -/

/-- No control character is in the text of a record, whatever the record
holds. -/
theorem plain_text (r : Record) : Plain r.text := by
  have hpayload : Plain (bytesText r.payload) := by
    refine Json.plain_bracketed fun text htext => ?_
    obtain ⟨b, _, rfl⟩ := List.mem_map.1 htext
    exact Json.plain_decimal b.toNat
  refine Json.plain_braced fun text htext => ?_
  simp only [List.mem_cons, List.not_mem_nil, or_false] at htext
  rcases htext with rfl | rfl | rfl | rfl
  · exact Json.plain_member _ (Json.plain_quote _)
  · exact Json.plain_member _ (Json.plain_quote _)
  · exact Json.plain_member _ hpayload
  · exact Json.plain_member _ (Json.plain_quote _)

/-- The text of a record is not empty. -/
theorem text_ne_nil (r : Record) : r.text ≠ [] := List.cons_ne_nil _ _

/-- The text stands between braces. -/
theorem exists_body (r : Record) : ∃ body, r.text = '\x7b' :: (body ++ ['\x7d']) := ⟨_, rfl⟩

/-- The text of a record starts with its brace, and no blank. -/
theorem trimStart_text (r : Record) : Text.trimStart r.text = r.text := by
  obtain ⟨body, hbody⟩ := r.exists_body
  rw [hbody]
  exact Text.trimStart_cons (by decide) _

/-- The braces around the text are not blank, so there is nothing to trim. -/
theorem trimChars_text (r : Record) : Text.trimChars r.text = r.text := by
  obtain ⟨body, hbody⟩ := r.exists_body
  rw [Text.trimChars, trimStart_text, hbody, ← List.cons_append]
  exact Text.trimEnd_concat (by decide) _

end Idempotency.Record
