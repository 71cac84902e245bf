import Idempotency.Json.Structure
import Idempotency.Proofs.Json.Reader

/-!
# `Idempotency.Proofs.Json.Structure`: written structures read back

An object whose members give fields of a structure one after the other, none of
them twice, reads as the value that is made of the draft it fills
(`Structure.reads`). `Structure.Fills` follows the members: each is of a field
that is not given yet, and its text reads into the draft.
-/

set_option autoImplicit false

namespace Idempotency.Json

open Idempotency.Text (Symbol symbols)

/-! ### Names -/

/-- The first name comes right after the brace. -/
theorem nextName_first (name : String) (rest : List Symbol) :
    nextName true (symbols (quote name.toList) ++ rest) = .ok (some (name, rest)) := by
  rw [symbols_quote]
  show (readString _).map some = _
  rw [readString_quote, String.ofList_toList]
  rfl

/-- Any later name comes right after its comma. -/
theorem nextName_comma (name : String) (rest : List Symbol) :
    nextName false (.char ',' :: (symbols (quote name.toList) ++ rest))
      = .ok (some (name, rest)) := by
  rw [symbols_quote]
  show (readString _).map some = _
  rw [readString_quote, String.ofList_toList]
  rfl

/-- A colon that comes at once is read. -/
theorem readColon_colon (rest : List Symbol) : readColon (.char ':' :: rest) = .ok rest := rfl

/-- A member is its quoted name, a colon and the text of its value. -/
theorem symbols_member (name : String) (text : List Char) (rest : List Symbol) :
    symbols (member name text) ++ rest
      = symbols (quote name.toList) ++ .char ':' :: (symbols text ++ rest) := by
  simp [symbols, member]

namespace Structure

variable {σ α : Type} {s : Structure σ α}

/-- The members give fields of the structure, and reading them turns the one
draft into the other. -/
inductive Fills (s : Structure σ α) : σ → List (List Char) → σ → Prop
  | nil (draft : σ) : Fills s draft [] draft
  | cons {draft draft' final : σ} {name : String} {field : Field σ} {text : List Char}
      {members : List (List Char)} (hfield : s.fields.find? (·.name == name) = some field)
      (hnew : field.isGiven draft = false) (hreads : Reads (field.read draft) text draft')
      (hrest : Fills s draft' members final) : Fills s draft (member name text :: members) final

/-- A member fills a field that is read by its value. -/
theorem Fills.field {β : Type} {draft final : σ} {name : String} {get : σ → Option β}
    {set : σ → β → σ} {read : Reader β} {text : List Char} {value : β}
    {members : List (List Char)}
    (hfield : s.fields.find? (·.name == name) = some (.of name get set read))
    (hnew : get draft = none) (hreads : Reads read text value)
    (hrest : Fills s (set draft value) members final) :
    Fills s draft (member name text :: members) final := by
  refine .cons hfield (by simp [Field.of, hnew]) ⟨hreads.starts, fun rest hend => ?_⟩ hrest
  simp only [Field.of, hreads.reads rest hend, Except.map]

/-- A member has a text, since it has a name. -/
theorem Fills.ne_nil {draft final : σ} {members : List (List Char)}
    (hfills : s.Fills draft members final) : ∀ text ∈ members, text ≠ [] := by
  induction hfills with
  | nil draft => exact fun text h => nomatch h
  | cons hfield hnew hreads hrest ih =>
    intro text htext
    rcases List.mem_cons.1 htext with rfl | htext
    · exact List.cons_ne_nil _ _
    · exact ih text htext

/-- After a name, its colon and its value are read into the draft. -/
theorem membersInto_of_name {draft draft' : σ} {name : String} {field : Field σ}
    {text : List Char} (hfield : s.fields.find? (·.name == name) = some field)
    (hnew : field.isGiven draft = false) (hreads : Reads (field.read draft) text draft')
    {rest input : List Symbol} (hend : AtEnd rest) {first : Bool} (rounds : Nat)
    (hname : nextName first input = .ok (some (name, .char ':' :: (symbols text ++ rest)))) :
    s.membersInto (rounds + 1) first draft input = s.membersInto rounds false draft' rest := by
  rw [membersInto, hname]
  simp only [bind, Except.bind, hfield, hnew, readColon_colon, hreads.reads rest hend]
  rfl

/-- Members after the first, each after a comma, are read up to the closing
brace. -/
theorem membersInto_more {draft final : σ} {members : List (List Char)}
    (hfills : s.Fills draft members final) (rest : List Symbol) {rounds : Nat}
    (hrounds : members.length < rounds) :
    s.membersInto rounds false draft
        (symbols (members.flatMap (',' :: ·)) ++ .char '\x7d' :: rest)
      = .ok (final, .char '\x7d' :: rest) := by
  induction hfills generalizing rounds with
  | nil draft =>
    obtain ⟨rounds, rfl⟩ : ∃ k, rounds = k + 1 := ⟨rounds - 1, by simp at hrounds; omega⟩
    rfl
  | @cons draft draft' final name field text members hfield hnew hreads hrest ih =>
    obtain ⟨rounds, rfl⟩ : ∃ k, rounds = k + 1 := ⟨rounds - 1, by omega⟩
    have hsplit : symbols ((member name text :: members).flatMap (',' :: ·))
          ++ Symbol.char '\x7d' :: rest
        = .char ',' :: (symbols (member name text)
            ++ (symbols (members.flatMap (',' :: ·)) ++ .char '\x7d' :: rest)) := by
      simp [symbols]
    have hend := atEnd_more (fun text => text) members (atEnd_brace rest)
    rw [hsplit, symbols_member, membersInto_of_name hfield hnew hreads hend rounds
      (nextName_comma name _)]
    exact ih (by simpa using hrounds)

/-- Members with commas between them are read up to the closing brace. -/
theorem membersInto_list {draft final : σ} {members : List (List Char)}
    (hfills : s.Fills draft members final) (rest : List Symbol) {rounds : Nat}
    (hrounds : members.length < rounds) :
    s.membersInto rounds true draft (symbols (commaSeparated members) ++ .char '\x7d' :: rest)
      = .ok (final, .char '\x7d' :: rest) := by
  obtain ⟨rounds, rfl⟩ : ∃ k, rounds = k + 1 := ⟨rounds - 1, by omega⟩
  -- Only the first member has no comma before it.
  cases hfills with
  | nil => rfl
  | @cons _ draft' _ name field text members hfield hnew hreads hrest =>
    have hsplit : symbols (commaSeparated (member name text :: members))
          ++ Symbol.char '\x7d' :: rest
        = symbols (member name text)
            ++ (symbols (members.flatMap (',' :: ·)) ++ .char '\x7d' :: rest) := by
      rw [commaSeparated_cons]
      simp [symbols]
    have hend := atEnd_more (fun text => text) members (atEnd_brace rest)
    rw [hsplit, symbols_member, membersInto_of_name hfield hnew hreads hend rounds
      (nextName_first name _)]
    exact membersInto_more hrest rest (by simpa using hrounds)

/-- A structure reads back from an object whose members fill a draft of it. -/
theorem reads {members : List (List Char)} {final : σ} {value : α}
    (hfills : s.Fills s.blank members final) (hfinish : s.finish final = .ok value) :
    Reads s.read (braced members) value where
  starts := ⟨'\x7b', commaSeparated members ++ ['\x7d'], rfl, by decide, by decide⟩
  reads rest _ := by
    have hsplit : symbols (braced members) ++ rest
        = .char '\x7b' :: (symbols (commaSeparated members) ++ .char '\x7d' :: rest) := by
      simp [symbols, braced]
    have hfront : ∀ input, front (.char '\x7b' :: input) = .ok (.map, input) := fun _ => rfl
    have hclose : closeObject (.char '\x7d' :: rest) = .ok rest := rfl
    have hrounds : members.length
        < (symbols (commaSeparated members) ++ Symbol.char '\x7d' :: rest).length + 1 := by
      have hlength := length_le_commaSeparated members hfills.ne_nil
      rw [List.length_append, symbols, List.length_map]
      omega
    rw [hsplit]
    simp only [read, hfront, bind, Except.bind, membersInto_list hfills rest hrounds, hfinish,
      hclose]

end Structure

end Idempotency.Json
