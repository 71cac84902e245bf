import Idempotency.Proofs.Json.Torn.Value
import Idempotency.Proofs.Record.Line

/-!
# `Idempotency.Proofs.Record.Cut`: the text of a record, cut short or going on

The text of a record ends with its closing brace and not before. So no part of it
from the start, short of all of it, is the text of a record (`ofText_cut`): if it
were, the whole text would read as that record with something left. And what
reads as a record is no longer one when more than blanks follows it
(`ofText_append`). Nor do a part and a whole record make one (`ofText_torn`).
-/

set_option autoImplicit false

namespace Idempotency.Record

open Idempotency.Json (Steady)
open Idempotency.Text (Symbol symbols)

variable {r : Record} {cs front back : List Char} {input rest : List Symbol}

/-! ### The reader of records -/

/-- An instant is a string, so it ends where the string does. -/
theorem steady_readInstant : Steady readInstant := by
  intro input value rest more hrest h
  unfold readInstant at h ⊢
  obtain ⟨⟨text, after⟩, htext, h⟩ := Json.of_bind_eq_ok h
  dsimp only at h
  split at h
  · next t ht =>
    cases h
    simp only [Json.steady_readStringAs _ _ _ _ more hrest htext, bind, Except.bind, ht]
  · exact nomatch h

/-- Every field of a record is read by a steady reader. -/
theorem steady_fields : ∀ field ∈ layout.fields, ∀ draft, Steady (field.read draft) := by
  intro field hfield draft
  have hpayload : Steady (Json.readList Json.readByte) := fun _ _ _ more _ h =>
    Json.readList_append Json.steady_readByte h more
  simp only [layout, List.mem_cons, List.not_mem_nil, or_false] at hfield
  rcases hfield with rfl | rfl | rfl | rfl
  · exact Json.steady_fieldOf (Json.steady_readStringAs _) draft
  · exact Json.steady_fieldOf (Json.steady_readStringAs _) draft
  · exact Json.steady_fieldOf hpayload draft
  · exact Json.steady_fieldOf steady_readInstant draft

/-- What follows a record does not change it. -/
theorem read_append (h : layout.read input = .ok (r, rest)) (more : List Symbol) :
    layout.read (input ++ more) = .ok (r, rest ++ more) :=
  Json.Structure.read_append steady_fields h more

/-- A text is that of a record if the record is at its front and only blanks
follow. -/
theorem read_of_ofText (h : ofText cs = .ok r) :
    ∃ rest, layout.read (symbols cs) = .ok (r, rest) ∧ Json.dropSpace rest = [] := by
  obtain ⟨⟨value, rest⟩, hread, h⟩ := Json.of_bind_eq_ok h
  dsimp only at h
  split at h
  · next hblank =>
    cases h
    exact ⟨rest, hread, hblank⟩
  · exact nomatch h

/-- The reader of records takes the text of a record, and leaves nothing of it. -/
theorem read_text (r : Record) : layout.read (symbols r.text) = .ok (r, []) := by
  have hread := r.reads.reads [] Json.atEnd_nil
  rwa [List.append_nil] at hread

/-! ### Cut short, and going on -/

/-- A text that is cut short is that of no record. -/
theorem ofText_cut (htext : r.text = front ++ back) (hback : back ≠ []) :
    ∃ e, ofText front = .error e := by
  cases hfront : ofText front with
  | error e => exact ⟨e, rfl⟩
  | ok other =>
    obtain ⟨rest, hread, _⟩ := read_of_ofText hfront
    have hwhole := read_append hread (symbols back)
    have hsplit : symbols front ++ symbols back = symbols r.text := by
      rw [htext, symbols, symbols, symbols, List.map_append]
    rw [hsplit, read_text] at hwhole
    -- The record takes the whole text, so that nothing can be left.
    have hnil : rest ++ symbols back = [] := (Prod.mk.inj (Except.ok.inj hwhole)).2.symm
    have hback' : symbols back = [] := (List.append_eq_nil_iff.1 hnil).2
    exact absurd (List.map_eq_nil_iff.1 hback') hback

/-- A record with more than blanks after it is refused for what follows. -/
theorem ofText_append (h : ofText cs = .ok r) {c : Char} (hc : c ∈ back)
    (hspace : Json.isSpace (.char c) = false) :
    ofText (cs ++ back) = .error .trailingCharacters := by
  obtain ⟨rest, hread, _⟩ := read_of_ofText h
  have hlonger := read_append hread (symbols back)
  have hsplit : symbols (cs ++ back) = symbols cs ++ symbols back := List.map_append
  have hleft : Json.dropSpace (rest ++ symbols back) ≠ [] := by
    intro hnil
    have hmem : Symbol.char c ∈ rest ++ symbols back :=
      List.mem_append_right rest (List.mem_map_of_mem hc)
    have hblank := List.dropWhile_eq_nil_iff.1 hnil _ hmem
    rw [hspace] at hblank
    exact nomatch hblank
  obtain ⟨symbol, more, hmore⟩ := List.exists_cons_of_ne_nil hleft
  simp only [ofText, Json.readText, Json.readWhole, hsplit, hlonger, bind, Except.bind, hmore]

/-! ### Cut short, with another record after it -/

/-- An instant is written as a string, and has its end. -/
theorem enclosed_instant (t : Instant) : Json.Enclosed readInstant (Json.quote t.text) t where
  reads rest := by
    have hstring := (Json.enclosed_string "an RFC 3339 formatted date and time string"
      (String.ofList t.text)).reads rest
    rw [String.toList_ofList] at hstring
    simp only [readInstant, hstring, bind, Except.bind, String.toList_ofList, Instant.ofText_text]
  torn front back more h hback := by
    have hstring := (Json.enclosed_string "an RFC 3339 formatted date and time string"
      (String.ofList t.text)).torn front back more (by rw [String.toList_ofList, h]) hback
    unfold readInstant
    rcases hstring with ⟨e, he⟩ | ⟨text, symbol, rest, hread, hforeign⟩
    · rw [he]
      exact .inl ⟨e, rfl⟩
    · rw [hread]
      simp only [bind, Except.bind]
      split
      · exact .inr ⟨_, symbol, rest, rfl, hforeign⟩
      · exact .inl ⟨_, rfl⟩

/-- The text of a record encloses its four fields. -/
theorem encloses (r : Record) :
    layout.Encloses layout.blank
      [ Json.member "key" (Json.quote r.key.toList),
        Json.member "request_hash" (Json.quote r.requestHash.toList),
        Json.member "payload" (bytesText r.payload),
        Json.member "expires_at" (Json.quote r.expiresAt.text) ] := by
  refine .cons rfl rfl ((Json.enclosed_string _ r.key).field _) ?_
  refine .cons rfl rfl ((Json.enclosed_string _ r.requestHash).field _) ?_
  refine .cons rfl rfl ((Json.enclosed_bytes r.payload).field _) ?_
  refine .cons rfl rfl ((enclosed_instant r.expiresAt).field _) ?_
  exact .nil _

/-- A record starts like an intruder: its first field is the key. -/
theorem exists_intruder (r : Record) : ∃ more, symbols r.text = Json.intruder more := ⟨_, rfl⟩

/-- A text that is cut short is not made good by a record after it. -/
theorem ofText_torn (htext : r.text = front ++ back) (hfront : front ≠ []) (hback : back ≠ [])
    (q : Record) : ∃ e, ofText (front ++ q.text) = .error e := by
  obtain ⟨more, hmore⟩ := q.exists_intruder
  obtain ⟨e, he⟩ := Json.Structure.read_torn r.encloses htext hfront hback more
  have hsplit : symbols (front ++ q.text) = symbols front ++ Json.intruder more := by
    rw [← hmore]
    exact List.map_append
  refine ⟨e, ?_⟩
  simp only [ofText, Json.readText, Json.readWhole, hsplit, he, bind, Except.bind]

end Idempotency.Record
