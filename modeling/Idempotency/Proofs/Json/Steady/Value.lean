import Idempotency.Json.Structure
import Idempotency.Json.Typed
import Idempotency.Proofs.Json.Steady.Number

/-!
# `Idempotency.Proofs.Json.Steady.Value`: lists and objects end with their brackets

A list or an object is over with its closing bracket, so what follows never
matters to it, and no condition on what is left is needed: `readList_append` for
lists with steady items, `Structure.read_append` for structures with steady
fields. Whatever stands inside is followed by a comma or a bracket, which is why
the items and fields only have to be steady.
-/

set_option autoImplicit false

namespace Idempotency.Json

open Idempotency.Text (Symbol)

variable {α β : Type} {input rest : List Symbol}

/-! ### Parts of values -/

/-- A word is over with its last letter. -/
theorem readWord_append {word : List Char} (h : readWord word input = .ok rest)
    (more : List Symbol) : readWord word (input ++ more) = .ok (rest ++ more) := by
  induction word generalizing input with
  | nil =>
    cases h
    rfl
  | cons c word ih =>
    cases input with
    | nil => exact nomatch h
    | cons symbol input =>
      rw [readWord] at h
      rw [List.cons_append, readWord]
      split at h
      · next heq =>
        rw [if_pos heq]
        exact ih h
      · exact nomatch h

/-- A colon is one symbol, blanks before it or not. -/
theorem readColon_append (h : readColon input = .ok rest) (more : List Symbol) :
    readColon (input ++ more) = .ok (rest ++ more) := by
  unfold readColon at h ⊢
  split at h
  · exact nomatch h
  · next after heq =>
    cases h
    rw [dropSpace_append_of_eq heq]
    rfl
  · exact nomatch h

/-- A scalar or a bracket is taken from the front, and only a number needs what follows. -/
theorem steady_front : Steady front := by
  intro input value rest more hrest h
  unfold front at h ⊢
  split at h
  case h_1 => exact nomatch h
  case h_2 heq | h_3 heq =>
    cases h
    rw [dropSpace_append_of_eq heq]
    rfl
  case h_4 heq | h_5 heq | h_6 heq =>
    obtain ⟨after, hword, h⟩ := of_map_eq_ok h
    cases h
    rw [dropSpace_append_of_eq heq]
    simp only [readWord_append hword more, Except.map]
  case h_7 heq =>
    obtain ⟨⟨text, after⟩, hstring, h⟩ := of_map_eq_ok h
    cases h
    rw [dropSpace_append_of_eq heq]
    simp only [readString_append hstring more, Except.map]
  case h_8 heq =>
    obtain ⟨⟨n, after⟩, hnumber, h⟩ := of_map_eq_ok h
    cases h
    rw [dropSpace_append_of_eq heq]
    simp only [steady_readNumber true _ _ _ more hrest hnumber, Except.map]
  case h_9 symbol after h₁ h₂ h₃ h₄ h₅ h₆ h₇ heq =>
    rw [dropSpace_append_of_eq heq]
    split at h
    · next hdigit =>
      obtain ⟨⟨n, after⟩, hnumber, h⟩ := of_map_eq_ok h
      cases h
      have hlonger := steady_readNumber false _ _ _ more hrest hnumber
      rw [List.cons_append] at hlonger
      simp [hdigit, hlonger, Except.map]
    · exact nomatch h

/-- Where the next item starts, or that there is none, is seen at once. -/
theorem nextItem_append {first : Bool} {found : Option (List Symbol)}
    (h : nextItem first input = .ok found) (more : List Symbol) :
    nextItem first (input ++ more) = .ok (found.map (· ++ more)) := by
  unfold nextItem at h ⊢
  split at h
  case h_1 => exact nomatch h
  case h_2 heq =>
    cases h
    rw [dropSpace_append_of_eq heq]
    rfl
  case h_3 symbol after hclose heq =>
    rw [dropSpace_append_of_eq heq]
    split at h
    · next hfirst =>
      cases h
      simp [hfirst]
    · next hfirst =>
      split at h
      · next hcomma =>
        subst hcomma
        -- After a comma there is something, and it is not the closing bracket.
        split at h
        · exact nomatch h
        · exact nomatch h
        · next hnil hbracket =>
          cases h
          have hbracket' := not_starts_append hnil hbracket more
          rw [← dropSpace_append hnil] at hbracket'
          simp only [Option.map_some, ← dropSpace_append hnil more]
          simp only [hfirst, if_false, Bool.false_eq_true, if_true]
          split
          · next heq' =>
            rw [dropSpace_append hnil] at heq'
            exact absurd (List.append_eq_nil_iff.1 heq').1 hnil
          · next heq' => exact (hbracket' _ heq').elim
          · rfl
      · exact nomatch h

/-- A closing bracket ends the list. -/
theorem closeList_append (h : closeList input = .ok rest) (more : List Symbol) :
    closeList (input ++ more) = .ok (rest ++ more) := by
  unfold closeList at h ⊢
  split at h
  case h_2 after heq =>
    cases h
    rw [dropSpace_append_of_eq heq]
    rfl
  case h_3 => split at h <;> exact nomatch h
  all_goals exact nomatch h

/-- A closing brace ends the object. -/
theorem closeObject_append (h : closeObject input = .ok rest) (more : List Symbol) :
    closeObject (input ++ more) = .ok (rest ++ more) := by
  unfold closeObject at h ⊢
  split at h
  case h_2 after heq =>
    cases h
    rw [dropSpace_append_of_eq heq]
    rfl
  all_goals exact nomatch h

/-- A name is over with its closing mark. -/
theorem mapSome_readString_append {found : Option (String × List Symbol)}
    (h : (readString input).map some = .ok found) (more : List Symbol) :
    (readString (input ++ more)).map some
      = .ok (found.map fun (name, after) => (name, after ++ more)) := by
  obtain ⟨⟨name, after⟩, hstring, h⟩ := of_map_eq_ok h
  cases h
  simp only [readString_append hstring more, Except.map, Option.map_some]

/-- The next name, or that there is none, is seen at once. -/
theorem nextName_append {first : Bool} {found : Option (String × List Symbol)}
    (h : nextName first input = .ok found) (more : List Symbol) :
    nextName first (input ++ more)
      = .ok (found.map fun (name, after) => (name, after ++ more)) := by
  unfold nextName at h ⊢
  split at h
  case h_1 => exact nomatch h
  case h_2 heq =>
    cases h
    rw [dropSpace_append_of_eq heq]
    rfl
  case h_3 symbol after hclose heq =>
    rw [dropSpace_append_of_eq heq]
    split at h
    · next hfirst =>
      split at h
      · next hquote =>
        subst hquote
        simpa [hfirst] using mapSome_readString_append h more
      · exact nomatch h
    · next hfirst =>
      split at h
      · next hcomma =>
        subst hcomma
        split at h
        · exact nomatch h
        · next heq' =>
          simpa [hfirst, dropSpace_append_of_eq heq'] using mapSome_readString_append h more
        · exact nomatch h
        · exact nomatch h
      · exact nomatch h

/-! ### Values that are passed over -/

/-- A scalar or a bracket is passed over at the front, and only a number needs what
follows. -/
theorem skipFront_append {bracket : Option Bracket} (h : skipFront input = .ok (bracket, rest))
    (hrest : rest ≠ []) (more : List Symbol) :
    skipFront (input ++ more) = .ok (bracket, rest ++ more) := by
  unfold skipFront at h ⊢
  split at h
  case h_1 => exact nomatch h
  case h_2 heq | h_3 heq =>
    cases h
    rw [dropSpace_append_of_eq heq]
    rfl
  case h_4 heq | h_5 heq | h_6 heq =>
    obtain ⟨after, hword, h⟩ := of_map_eq_ok h
    cases h
    rw [dropSpace_append_of_eq heq]
    simp only [readWord_append hword more, Except.map]
  case h_7 heq =>
    obtain ⟨after, hstring, h⟩ := of_map_eq_ok h
    cases h
    rw [dropSpace_append_of_eq heq]
    simp only [skipString_append hstring more, Except.map]
  case h_8 heq =>
    obtain ⟨after, hnumber, h⟩ := of_map_eq_ok h
    cases h
    rw [dropSpace_append_of_eq heq]
    simp only [skipNumber_append hnumber hrest more, Except.map]
  case h_9 symbol after h₁ h₂ h₃ h₄ h₅ h₆ h₇ heq =>
    rw [dropSpace_append_of_eq heq]
    split at h
    · next hdigit =>
      obtain ⟨after, hnumber, h⟩ := of_map_eq_ok h
      cases h
      have hlonger := skipNumber_append hnumber hrest more
      rw [List.cons_append] at hlonger
      simp [hdigit, hlonger, Except.map]
    · exact nomatch h

/-- A name and its colon are over with the colon. -/
theorem skipName_append {bracket : Bracket} (h : skipName bracket input = .ok rest)
    (more : List Symbol) : skipName bracket (input ++ more) = .ok (rest ++ more) := by
  cases bracket with
  | list =>
    cases h
    rfl
  | object =>
    unfold skipName at h ⊢
    simp only at h ⊢
    split at h
    · exact nomatch h
    · next heq =>
      obtain ⟨after, hstring, hcolon⟩ := of_bind_eq_ok h
      rw [dropSpace_append_of_eq heq]
      simp only [skipString_append hstring more, readColon_append hcolon more, bind, Except.bind]
    · exact nomatch h

/-- Nothing is passed over where nothing is. -/
theorem ne_nil_of_skipFrom {rounds : Nat} {place : Place} {brackets : List Bracket}
    (h : skipFrom rounds place brackets input = .ok rest) (hrest : rest ≠ []) : input ≠ [] := by
  rintro rfl
  cases rounds with
  | zero => exact nomatch h
  | succ rounds =>
    cases place with
    | value => exact nomatch h
    | opened =>
      cases brackets with
      | nil =>
        cases h
        exact hrest rfl
      | cons bracket brackets => exact nomatch h
    | valued =>
      cases brackets with
      | nil =>
        cases h
        exact hrest rfl
      | cons bracket brackets => exact nomatch h

/-- Passing over a value goes from step to step in the same way, with the same brackets
open at each. With more text there may be more rounds than it takes. -/
theorem skipFrom_append {rounds later : Nat} {place : Place} {brackets : List Bracket}
    (h : skipFrom rounds place brackets input = .ok rest) (hrest : rest ≠ [])
    (hle : rounds ≤ later) (more : List Symbol) :
    skipFrom later place brackets (input ++ more) = .ok (rest ++ more) := by
  induction rounds, place, brackets, input using skipFrom.induct generalizing later with
  | case1 => exact nomatch h
  | case2 rounds input | case3 rounds input =>
    obtain ⟨later, rfl⟩ : ∃ k, later = k + 1 := ⟨later - 1, by omega⟩
    cases h
    rfl
  | case4 rounds brackets input hopened hvalued =>
    obtain ⟨later, rfl⟩ : ∃ k, later = k + 1 := ⟨later - 1, by omega⟩
    rw [skipFrom] at h
    obtain ⟨⟨bracket, after⟩, hfront, hskip⟩ := of_bind_eq_ok h
    rw [skipFrom]
    cases bracket with
    | none =>
      simp only [skipFront_append hfront (ne_nil_of_skipFrom hskip hrest) more, bind, Except.bind]
      exact hvalued after hskip (by omega)
    | some bracket =>
      simp only [skipFront_append hfront (ne_nil_of_skipFrom hskip hrest) more, bind, Except.bind]
      exact hopened bracket after hskip (by omega)
  | case5 rounds bracket brackets input hnil | case8 rounds bracket brackets input hnil =>
    simp only [skipFrom, hnil] at h
    exact nomatch h
  | case6 rounds bracket brackets input after hclose ih
  | case9 rounds bracket brackets input after hclose ih =>
    obtain ⟨later, rfl⟩ : ∃ k, later = k + 1 := ⟨later - 1, by omega⟩
    simp only [skipFrom, hclose, if_true] at h
    simp only [skipFrom, dropSpace_append_of_eq hclose, if_true]
    exact ih h (by omega)
  | case7 rounds bracket brackets input symbol after hfirst hclose ih =>
    obtain ⟨later, rfl⟩ : ∃ k, later = k + 1 := ⟨later - 1, by omega⟩
    simp only [skipFrom, hfirst, hclose, if_false] at h
    obtain ⟨named, hname, hskip⟩ := of_bind_eq_ok h
    have hlonger := skipName_append hname more
    rw [List.cons_append] at hlonger
    simp only [skipFrom, dropSpace_append_of_eq hfirst, hclose, if_false, hlonger, bind,
      Except.bind]
    exact ih named hskip (by omega)
  | case10 rounds bracket brackets input after hcomma hclose ih =>
    obtain ⟨later, rfl⟩ : ∃ k, later = k + 1 := ⟨later - 1, by omega⟩
    simp only [skipFrom, hcomma, hclose, if_false, if_true] at h
    obtain ⟨named, hname, hskip⟩ := of_bind_eq_ok h
    simp only [skipFrom, dropSpace_append_of_eq hcomma, hclose, if_false, if_true,
      skipName_append hname more, bind, Except.bind]
    exact ih named hskip (by omega)
  | case11 rounds bracket brackets input symbol after hfirst hclose hcomma =>
    simp only [skipFrom, hfirst, hclose, hcomma, if_false] at h
    exact nomatch h

/-- A value that is passed over ends at the same place, if something follows it. -/
theorem skip_append (h : skip input = .ok rest) (hrest : rest ≠ []) (more : List Symbol) :
    skip (input ++ more) = .ok (rest ++ more) :=
  skipFrom_append h hrest (by rw [List.length_append]; omega) more

/-! ### Lists and structures -/

/-- Whether there is a further item is not seen from nothing. -/
theorem ne_nil_of_nextItem {first : Bool} {found : Option (List Symbol)}
    (h : nextItem first input = .ok found) : input ≠ [] := by
  rintro rfl
  exact nomatch h

/-- Nor is whether there is a further member. -/
theorem ne_nil_of_nextName {first : Bool} {found : Option (String × List Symbol)}
    (h : nextName first input = .ok found) : input ≠ [] := by
  rintro rfl
  exact nomatch h

/-- The items of a list are the same up to its bracket. Each of them is followed by a
comma or the bracket, so that it is enough for its reader to be steady. -/
theorem itemsFrom_append {read : Reader α} (hread : Steady read) {rounds later : Nat}
    {items all : List α} (h : itemsFrom read rounds items input = .ok (all, rest))
    (hle : rounds ≤ later) (more : List Symbol) :
    itemsFrom read later items (input ++ more) = .ok (all, rest ++ more) := by
  induction rounds generalizing later items input with
  | zero => exact nomatch h
  | succ rounds ih =>
    obtain ⟨later, rfl⟩ : ∃ k, later = k + 1 := ⟨later - 1, by omega⟩
    rw [itemsFrom] at h ⊢
    obtain ⟨found, hnext, h⟩ := of_bind_eq_ok h
    simp only [nextItem_append hnext more, bind, Except.bind]
    cases found with
    | none =>
      cases h
      rfl
    | some start =>
      obtain ⟨⟨item, after⟩, hitem, h⟩ := of_bind_eq_ok h
      -- The list goes on or ends after the item, so the item is not the last there is.
      have hafter : after ≠ [] := by
        rintro rfl
        cases rounds with
        | zero => exact nomatch h
        | succ rounds =>
          obtain ⟨_, hnext, _⟩ := of_bind_eq_ok h
          exact ne_nil_of_nextItem hnext rfl
      simp only [Option.map_some, hread _ _ _ more hafter hitem]
      exact ih h (by omega)

/-- A list is over with its closing bracket. -/
theorem readList_append {read : Reader α} (hread : Steady read) {items : List α}
    (h : readList read input = .ok (items, rest)) (more : List Symbol) :
    readList read (input ++ more) = .ok (items, rest ++ more) := by
  unfold readList at h ⊢
  obtain ⟨⟨found, after⟩, hfront, h⟩ := of_bind_eq_ok h
  cases found with
  | sequence =>
    obtain ⟨⟨items, last⟩, hitems, h⟩ := of_bind_eq_ok h
    obtain ⟨closed, hclose, h⟩ := of_bind_eq_ok h
    cases h
    have hafter : after ≠ [] := by
      rintro rfl
      exact nomatch hitems
    have hle : after.length + 1 ≤ (after ++ more).length + 1 := by
      rw [List.length_append]
      omega
    simp only [steady_front _ _ _ more hafter hfront, readItems,
      itemsFrom_append hread hitems hle more, closeList_append hclose more, bind, Except.bind]
  | _ => exact nomatch h

namespace Structure

variable {σ : Type} {s : Structure σ α}

/-- The members of an object are the same up to its brace, and each of them is followed
by a comma or the brace. -/
theorem membersInto_append (hfields : ∀ field ∈ s.fields, ∀ draft, Steady (field.read draft))
    {rounds later : Nat} {first : Bool} {draft final : σ}
    (h : s.membersInto rounds first draft input = .ok (final, rest)) (hle : rounds ≤ later)
    (more : List Symbol) :
    s.membersInto later first draft (input ++ more) = .ok (final, rest ++ more) := by
  induction rounds generalizing later first draft input with
  | zero => exact nomatch h
  | succ rounds ih =>
    obtain ⟨later, rfl⟩ : ∃ k, later = k + 1 := ⟨later - 1, by omega⟩
    rw [membersInto] at h ⊢
    obtain ⟨found, hnext, h⟩ := of_bind_eq_ok h
    simp only [nextName_append hnext more, bind, Except.bind]
    -- Whatever has been read of a member, another name or the closing brace follows.
    have hlast : ∀ {draft : σ} {after : List Symbol},
        s.membersInto rounds false draft after = .ok (final, rest) → after ≠ [] := by
      rintro draft after h rfl
      cases rounds with
      | zero => exact nomatch h
      | succ rounds =>
        obtain ⟨_, hnext, _⟩ := of_bind_eq_ok h
        exact ne_nil_of_nextName hnext rfl
    cases found with
    | none =>
      cases h
      rfl
    | some named =>
      obtain ⟨name, after⟩ := named
      simp only [Option.map_some]
      dsimp only at h
      split at h
      · next field hfield =>
        split at h
        · exact nomatch h
        · next hnew =>
          obtain ⟨colon, hcolon, h⟩ := of_bind_eq_ok h
          obtain ⟨⟨draft', valued⟩, hvalue, h⟩ := of_bind_eq_ok h
          have hmem := List.mem_of_find?_eq_some hfield
          simp only [hnew, readColon_append hcolon more,
            hfields field hmem draft _ _ _ more (hlast h) hvalue]
          exact ih h (by omega)
      · next hfield =>
        split at h
        · exact nomatch h
        · next hclosed =>
          obtain ⟨colon, hcolon, h⟩ := of_bind_eq_ok h
          obtain ⟨skipped, hskip, h⟩ := of_bind_eq_ok h
          simp only [hclosed, readColon_append hcolon more,
            skip_append hskip (hlast h) more]
          exact ih h (by omega)

/-- Elements that leave something have been given something. -/
theorem ne_nil_of_elementsInto {fields : List (Field σ)} {count : Nat} {draft final : σ}
    (h : s.elementsInto fields count draft input = .ok (final, rest)) (hrest : rest ≠ []) :
    input ≠ [] := by
  rintro rfl
  cases fields with
  | nil =>
    cases h
    exact hrest rfl
  | cons field fields =>
    obtain ⟨_, hnext, _⟩ := of_bind_eq_ok h
    exact ne_nil_of_nextItem hnext rfl

/-- The elements of a list that stands for a structure are the same, if something
follows them. -/
theorem elementsInto_append {fields : List (Field σ)}
    (hfields : ∀ field ∈ fields, ∀ draft, Steady (field.read draft))
    {count : Nat} {draft final : σ} (hrest : rest ≠ [])
    (h : s.elementsInto fields count draft input = .ok (final, rest)) (more : List Symbol) :
    s.elementsInto fields count draft (input ++ more) = .ok (final, rest ++ more) := by
  induction fields generalizing count draft input with
  | nil =>
    cases h
    rfl
  | cons field fields ih =>
    rw [elementsInto] at h ⊢
    obtain ⟨found, hnext, h⟩ := of_bind_eq_ok h
    simp only [nextItem_append hnext more, bind, Except.bind]
    cases found with
    | none =>
      dsimp only at h
      simp only [Option.map_none]
      split at h
      · next hdefaulted =>
        cases h
        rw [if_pos hdefaulted]
      · exact nomatch h
    | some start =>
      obtain ⟨⟨draft', after⟩, hvalue, h⟩ := of_bind_eq_ok h
      have hafter : after ≠ [] := ne_nil_of_elementsInto h hrest
      simp only [Option.map_some, hfields field List.mem_cons_self draft _ _ _ more hafter hvalue]
      exact ih (fun f hf => hfields f (List.mem_cons_of_mem _ hf)) h

/-- A structure is over with its closing bracket, whichever it is. -/
theorem read_append (hfields : ∀ field ∈ s.fields, ∀ draft, Steady (field.read draft))
    {value : α} (h : s.read input = .ok (value, rest)) (more : List Symbol) :
    s.read (input ++ more) = .ok (value, rest ++ more) := by
  unfold read at h ⊢
  obtain ⟨⟨found, after⟩, hfront, h⟩ := of_bind_eq_ok h
  cases found with
  | map =>
    obtain ⟨⟨draft, last⟩, hmembers, h⟩ := of_bind_eq_ok h
    obtain ⟨final, hfinish, h⟩ := of_bind_eq_ok h
    obtain ⟨closed, hclose, h⟩ := of_bind_eq_ok h
    cases h
    have hafter : after ≠ [] := by
      rintro rfl
      exact nomatch hmembers
    have hle : after.length + 1 ≤ (after ++ more).length + 1 := by
      rw [List.length_append]
      omega
    simp only [steady_front _ _ _ more hafter hfront,
      membersInto_append hfields hmembers hle more, hfinish, closeObject_append hclose more, bind,
      Except.bind]
  | sequence =>
    obtain ⟨⟨draft, last⟩, helements, h⟩ := of_bind_eq_ok h
    obtain ⟨final, hfinish, h⟩ := of_bind_eq_ok h
    obtain ⟨closed, hclose, h⟩ := of_bind_eq_ok h
    cases h
    have hlast : last ≠ [] := by
      rintro rfl
      exact nomatch hclose
    have hafter : after ≠ [] := ne_nil_of_elementsInto helements hlast
    simp only [steady_front _ _ _ more hafter hfront,
      elementsInto_append hfields hlast helements more, hfinish, closeList_append hclose more,
      bind, Except.bind]
  | _ => exact nomatch h

end Structure

/-! ### Values of a known kind -/

/-- An integer is a number, and ends where another symbol is. -/
theorem steady_readInteger (low high : Int) (expected : String) :
    Steady (readInteger low high expected) := by
  intro input value rest more hrest h
  unfold readInteger at h ⊢
  obtain ⟨⟨found, after⟩, hfront, h⟩ := of_bind_eq_ok h
  split at h
  · next i after heq =>
    cases heq
    split at h
    · next hrange =>
      cases h
      simp only [steady_front _ _ _ more hrest hfront, hrange, if_true, bind, Except.bind]
    · exact nomatch h
  · exact nomatch h

/-- So does a byte. -/
theorem steady_readByte : Steady readByte := by
  intro input value rest more hrest h
  unfold readByte at h ⊢
  obtain ⟨⟨i, after⟩, hinteger, h⟩ := of_bind_eq_ok h
  cases h
  simp only [steady_readInteger _ _ _ _ _ _ more hrest hinteger, bind, Except.bind]

/-- A string is over with its mark. -/
theorem steady_readStringAs (expected : String) : Steady (readStringAs expected) := by
  intro input value rest more hrest h
  unfold readStringAs at h ⊢
  obtain ⟨⟨found, after⟩, hfront, h⟩ := of_bind_eq_ok h
  cases found with
  | string text =>
    cases h
    simp only [steady_front _ _ _ more hrest hfront, bind, Except.bind]
  | _ => exact nomatch h

/-- A field is read as steadily as its value. -/
theorem steady_fieldOf {σ : Type} {name : String} {get : σ → Option β} {set : σ → β → σ}
    {read : Reader β} (hread : Steady read) (draft : σ) :
    Steady ((Field.of name get set read).read draft) := by
  intro input value rest more hrest h
  obtain ⟨⟨v, after⟩, hvalue, h⟩ := of_map_eq_ok h
  cases h
  simp only [Field.of, hread _ _ _ more hrest hvalue, Except.map]

end Idempotency.Json
