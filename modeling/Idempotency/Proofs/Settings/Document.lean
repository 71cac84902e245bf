import Idempotency.Proofs.Json.Typed
import Idempotency.Settings

/-!
# `Idempotency.Proofs.Settings.Document`: written settings read back

The document of settings reads as the settings (`Settings.reads`), whatever integers they
hold, whatever characters stand in the names of modules and in the path, and whether or not
a lifetime or a path is set; what is not set is written as `null`.

Reading checks what it has read, so a document is accepted exactly if its settings pass
validation, and is refused like they are (`Settings.document_round_trip`).
-/

set_option autoImplicit false

namespace Idempotency.Settings

open Idempotency.Json (Reads)

/-- A lifetime reads back, set or not. -/
theorem reads_seconds (seconds : Option Int64) :
    Reads (Json.readOptional Json.readInt64)
      ((seconds.map secondsText).getD Json.nullText) seconds :=
  Json.reads_optional (fun n => ⟨Json.notWord_integer n.toInt, Json.reads_int64 n⟩) seconds

/-- The path of the journal reads back, set or not. -/
theorem reads_path (path : Option String) :
    Reads (Json.readOptional (Json.readStringAs "path string"))
      ((path.map fun path => Json.quote path.toList).getD Json.nullText) path :=
  Json.reads_optional
    (fun path => ⟨Json.notWord_quote path.toList, Json.reads_string _ path⟩) path

/-- The members of the document give the three fields, each of them once. -/
theorem fills (s : Settings) :
    layout.Fills layout.blank
      [ Json.member "default_ttl_secs" ((s.defaultSeconds.map secondsText).getD Json.nullText),
        Json.member "module_ttl_secs"
          (Json.braced (s.moduleSeconds.entries.map fun entry =>
            Json.member entry.1 (secondsText entry.2))),
        Json.member "journal_path"
          ((s.journalPath.map fun path => Json.quote path.toList).getD Json.nullText) ]
      ⟨some s.defaultSeconds, some s.moduleSeconds, some s.journalPath⟩ := by
  refine .field rfl rfl (reads_seconds s.defaultSeconds) ?_
  refine .field rfl rfl (Json.reads_map s.moduleSeconds fun _ _ => Json.reads_int64 _) ?_
  refine .field rfl rfl (reads_path s.journalPath) ?_
  exact .nil _

/-- The text of settings reads as the settings wherever a value may end after it. -/
theorem reads (s : Settings) : Reads layout.read s.text s :=
  Json.Structure.reads s.fills rfl

/-- The whole text reads as the settings. -/
theorem readText_text (s : Settings) : Json.readText layout.read s.text = .ok s := by
  have hread := s.reads.reads [] Json.atEnd_nil
  rw [List.append_nil] at hread
  simp only [Json.readText, Json.readWhole, hread, bind, Except.bind]
  rfl

/-- A document is what is read of it, if that passes validation. -/
theorem ofText_of_readText {cs : List Char} {s : Settings}
    (hread : Json.readText layout.read cs = .ok s) : ofText cs = s.validate.map fun _ => s := by
  rw [ofText, hread]
  cases hvalidate : s.validate <;> simp only [hvalidate] <;> rfl

/-- What is taken from a text has passed validation. -/
theorem validate_of_ofText {cs : List Char} {s : Settings} (h : ofText cs = .ok s) :
    s.validate = .ok () := by
  cases hread : Json.readText layout.read cs with
  | error reason =>
    rw [ofText, hread] at h
    cases h
  | ok s' =>
    rw [ofText_of_readText hread] at h
    cases hvalidate : s'.validate with
    | error e =>
      rw [hvalidate] at h
      cases h
    | ok =>
      rw [hvalidate] at h
      cases h
      exact hvalidate

/-- The document of any settings reads as these settings if they pass validation, and is
refused for the very reason that validation gives if they do not. Settings that come from
any text at all have passed it, so their own document gives them back. -/
theorem document_round_trip (s : Settings) :
    (ofText s.text = s.validate.map fun _ => s)
      ∧ ∀ cs : List Char, ofText cs = .ok s → s.validate = .ok () ∧ ofText s.text = .ok s := by
  have hwritten := ofText_of_readText s.readText_text
  refine ⟨hwritten, fun cs hcs => ?_⟩
  have hvalidate := validate_of_ofText hcs
  refine ⟨hvalidate, ?_⟩
  rw [hwritten, hvalidate]
  rfl

/-- A day for everyone, a minute for one module, and one module that leaves it open. -/
def seasonal : Settings where
  defaultSeconds := some 86400
  moduleSeconds := .ofList [("café", 60), ("chat", -5)]

/-- A document of these settings with its members in another order, an escape in a name,
blanks, and no word of a journal. -/
def handwritten : List Char :=
  ("\x7b\"module_ttl_secs\": \x7b\"chat\": -5, \"caf\\u00e9\": 60\x7d, "
    ++ "\"default_ttl_secs\": 86400\x7d").toList

/-- What is read of the document by hand is read of the document of the settings too. -/
theorem document_round_trip_handwritten :
    ofText handwritten = .ok seasonal ∧ seasonal.text ≠ handwritten
      ∧ ofText seasonal.text = .ok seasonal := by
  have hread : ofText handwritten = .ok seasonal := by rfl
  exact ⟨hread, by decide, ((document_round_trip seasonal).2 handwritten hread).2⟩

end Idempotency.Settings
