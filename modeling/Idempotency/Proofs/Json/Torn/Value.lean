import Idempotency.Proofs.Json.Steady.Value
import Idempotency.Proofs.Json.Structure
import Idempotency.Proofs.Json.Torn.Basic

/-!
# `Idempotency.Proofs.Json.Torn.Value`: a written object that breaks off before another

Whatever part of a written object is there, from nothing but its brace up to all but
its last one, it does not read as one with an object that comes after it
(`Structure.read_torn`).

Strings, lists and objects have an end of their own, and are `Enclosed`: they read
whatever follows, and get stuck if they break off. A number has not, so that one that
is whole gets stuck too (`TearsAt`). The members of an object are read one after the
other up to the one with the cut, which is in its name or behind it.
-/

set_option autoImplicit false

namespace Idempotency.Json

open Idempotency.Text (Symbol symbols)
open Idempotency.Decimal (decimal)

variable {α σ : Type}

/-! ### Values that have an end of their own -/

/-- The text reads whatever follows it, and sticks if it breaks off before the
intruder. -/
structure Enclosed (read : Reader α) (text : List Char) (value : α) : Prop where
  reads : ∀ rest, read (symbols text ++ rest) = .ok (value, rest)
  torn : ∀ front back more, text = front ++ back → back ≠ [] →
    Sticks (read (symbols front ++ intruder more))

/-- A string is closed by its mark. -/
theorem enclosed_string (expected : String) (s : String) :
    Enclosed (readStringAs expected) (quote s.toList) s where
  reads rest := by
    simp only [readStringAs, front_quote, bind, Except.bind, String.ofList_toList]
  torn front back more h hback := by
    cases front with
    | nil => exact .inl ⟨_, rfl⟩
    | cons c front =>
      obtain ⟨rfl, hbody⟩ := List.cons.inj h
      show Sticks (((readString (symbols front ++ intruder more)).map _).bind _)
      rcases sticks_readString hbody hback more with
        ⟨e, he⟩ | ⟨text, symbol, rest, hread, hforeign⟩
      · rw [he]
        exact .inl ⟨e, rfl⟩
      · rw [hread]
        exact .inr ⟨text, symbol, rest, rfl, hforeign⟩

/-! ### Lists of bytes -/

/-- The digits of a number that breaks off end before the intruder's brace. -/
theorem takeDigits_brace {ds : List Char} (hds : ∀ c ∈ ds, c.isDigit = true)
    (rest : List Symbol) :
    takeDigits (symbols ds ++ .char '\x7b' :: rest)
      = (ds.map fun c => c.toNat - '0'.toNat, .char '\x7b' :: rest) := by
  induction ds with
  | nil => rfl
  | cons c ds ih =>
    rw [show symbols (c :: ds) ++ .char '\x7b' :: rest
        = .char c :: (symbols ds ++ .char '\x7b' :: rest) from rfl, takeDigits,
      digit?_char (hds c List.mem_cons_self), ih fun d hd => hds d (List.mem_cons_of_mem c hd)]
    rfl

/-- Digits end before the brace. -/
theorem sticks_readNumber {ds : List Char} (hds : ∀ c ∈ ds, c.isDigit = true)
    (more : List Symbol) : Sticks (readNumber false (symbols ds ++ intruder more)) := by
  rw [readNumber_eq, intruder, takeDigits_brace hds]
  have hfurther : ∀ g, Sticks (readFurther g false (intruder more)) := by
    intro g
    show Sticks ((g.integer false).bind _)
    cases g.integer false with
    | error e => exact .inl ⟨e, rfl⟩
    | ok number => exact .inr ⟨number, _, _, rfl, .inl rfl⟩
  split
  · exact .inl ⟨_, rfl⟩
  · exact .inl ⟨_, rfl⟩
  · exact .inl ⟨_, rfl⟩
  · next heq =>
    rw [← (Prod.mk.inj heq).2]
    exact hfurther _

/-- A byte gets stuck before the intruder, with all of its digits or some or none. -/
theorem sticks_readByte {ds : List Char} (hds : ∀ c ∈ ds, c.isDigit = true)
    (more : List Symbol) : Sticks (readByte (symbols ds ++ intruder more)) := by
  cases ds with
  | nil => exact .inl ⟨_, rfl⟩
  | cons c ds =>
    have hfront : front (symbols (c :: ds) ++ intruder more) = _ :=
      front_digit (hds c List.mem_cons_self) (symbols ds ++ intruder more)
    unfold readByte readInteger
    rw [hfront]
    rcases sticks_readNumber hds more with ⟨e, he⟩ | ⟨number, symbol, rest, hread, hforeign⟩
    · rw [show readNumber false (.char c :: (symbols ds ++ intruder more)) = _ from he]
      exact .inl ⟨e, rfl⟩
    · rw [show readNumber false (.char c :: (symbols ds ++ intruder more)) = _ from hread]
      cases number with
      | double x finite => exact .inl ⟨_, rfl⟩
      | integer i =>
        by_cases hrange : ((0 : Int) ≤ i && i ≤ 255) = true
        · simp only [Except.map, bind, Except.bind, hrange, if_true]
          exact .inr ⟨_, symbol, rest, rfl, hforeign⟩
        · simp only [Except.map, bind, Except.bind, hrange]
          exact .inl ⟨_, rfl⟩

section Lists

variable {read : Reader α} {text : α → List Char} {items : List α}

/-- An item that is cut sticks, and so does one that is whole and followed by the
intruder. -/
def TearsAt (read : Reader α) (text : List Char) : Prop :=
  ∀ front back more, text = front ++ back → Sticks (read (symbols front ++ intruder more))

/-- A list does not go on with what cannot follow an item. -/
theorem itemsFrom_foreign {symbol : Symbol} (h : Foreign symbol) (rest : List Symbol)
    (rounds : Nat) (hitems : items ≠ []) :
    ∃ e, itemsFrom read rounds items (symbol :: rest) = .error e := by
  cases rounds with
  | zero => exact ⟨_, rfl⟩
  | succ rounds =>
    have hnotempty : items.isEmpty = false := by simpa using hitems
    obtain ⟨e, he⟩ := h.nextItem rest
    refine ⟨e, ?_⟩
    rw [itemsFrom, hnotempty, he]
    rfl

/-- An item that sticks leaves nothing for the next round. -/
theorem Sticks.itemsFrom {outcome : Except Error (α × List Symbol)} (h : Sticks outcome)
    (rounds : Nat) :
    ∃ e, (outcome.bind fun (item, input) => itemsFrom read rounds (item :: items) input)
      = .error e := by
  rcases h with ⟨e, rfl⟩ | ⟨value, symbol, rest, rfl, hforeign⟩
  · exact ⟨e, rfl⟩
  · exact itemsFrom_foreign hforeign rest rounds (List.cons_ne_nil _ _)

/-- An item and what follows it in the list, cut somewhere. -/
theorem item_torn {x : α} {later front back : List Char} (hreads : Reads read (text x) x)
    (htears : TearsAt read (text x)) (h : text x ++ later = front ++ back)
    (hend : AtEnd (symbols later)) (rounds : Nat) (more : List Symbol)
    (hmore : ∀ rest, later = rest ++ back →
      ∃ e, itemsFrom read rounds (x :: items) (symbols rest ++ intruder more) = .error e) :
    ∃ e, ((read (symbols front ++ intruder more)).bind fun (item, input) =>
      itemsFrom read rounds (item :: items) input) = .error e := by
  rcases cut_cases h with ⟨left, _, htext⟩ | ⟨rest, rfl, hrest⟩
  · exact (htears front left more htext).itemsFrom rounds
  · cases rest with
    | nil =>
      refine (htears (text x ++ []) [] more ?_).itemsFrom rounds
      rw [List.append_nil, List.append_nil]
    | cons c rest =>
      have hsplit : symbols (text x ++ c :: rest) ++ intruder more
          = symbols (text x) ++ (symbols (c :: rest) ++ intruder more) := by
        simp [symbols]
      have hcut : AtEnd (symbols (c :: rest) ++ intruder more) := by
        intro symbol after heq
        refine hend symbol (symbols (rest ++ back)) ?_
        rw [hrest, ← (List.cons.inj heq).1]
        rfl
      rw [hsplit, hreads.reads _ hcut]
      exact hmore (c :: rest) hrest

/-- A value that is cut starts like a value, or like the intruder. -/
theorem starts_torn {text later front back : List Char} (hstarts : StartsValue text)
    (h : text ++ later = front ++ back) (more : List Symbol) :
    ∃ symbol rest, symbols front ++ intruder more = symbol :: rest ∧ isSpace symbol = false
      ∧ symbol ≠ .char ']' := by
  obtain ⟨c, text, rfl, hspace, hne⟩ := hstarts
  cases front with
  | nil => exact ⟨_, _, rfl, by decide, by decide⟩
  | cons a front =>
    obtain ⟨rfl, _⟩ := List.cons.inj h
    exact ⟨.char c, _, rfl, hspace, fun heq => hne (Symbol.char.inj heq)⟩

/-- The first symbol of an item says that there is one, at first or after a comma. -/
theorem nextItem_some {symbol : Symbol} (hspace : isSpace symbol = false)
    (hne : symbol ≠ .char ']') (rest : List Symbol) :
    nextItem true (symbol :: rest) = .ok (some (symbol :: rest))
      ∧ nextItem false (.char ',' :: symbol :: rest) = .ok (some (symbol :: rest)) := by
  have hcomma := dropSpace_cons (show isSpace (.char ',') = false by decide)
  constructor
  · simp [nextItem, dropSpace_cons hspace]
  · simp [nextItem, hcomma, dropSpace_cons hspace, hne]

/-- Items after the first, cut somewhere. -/
theorem itemsFrom_more_torn (xs : List α) (hreads : ∀ x ∈ xs, Reads read (text x) x)
    (htears : ∀ x ∈ xs, TearsAt read (text x)) (hitems : items ≠ []) {front back : List Char}
    (h : (xs.map text).flatMap (',' :: ·) ++ [']'] = front ++ back) (hback : back ≠ [])
    (rounds : Nat) (more : List Symbol) :
    ∃ e, itemsFrom read rounds items (symbols front ++ intruder more) = .error e := by
  induction xs generalizing items front rounds with
  | nil =>
    cases front with
    | nil => exact itemsFrom_foreign (.inl rfl) _ rounds hitems
    | cons c front =>
      have hnil := (List.append_eq_nil_iff.1 (List.cons.inj h).2.symm).2
      exact absurd hnil hback
  | cons x xs ih =>
    cases front with
    | nil => exact itemsFrom_foreign (.inl rfl) _ rounds hitems
    | cons c front =>
      cases rounds with
      | zero => exact ⟨_, rfl⟩
      | succ rounds =>
        rw [List.map_cons, List.flatMap_cons, List.append_assoc] at h
        obtain ⟨rfl, hitem⟩ := List.cons.inj h
        have hnotempty : items.isEmpty = false := by simpa using hitems
        have hnext : nextItem false (.char ',' :: (symbols front ++ intruder more))
            = .ok (some (symbols front ++ intruder more)) := by
          obtain ⟨symbol, rest, hsplit, hspace, hne⟩ :=
            starts_torn (hreads x List.mem_cons_self).starts hitem more
          rw [hsplit]
          exact (nextItem_some hspace hne rest).2
        show ∃ e, itemsFrom read (rounds + 1) items
          (.char ',' :: (symbols front ++ intruder more)) = .error e
        rw [itemsFrom, hnotempty, hnext]
        exact item_torn (hreads x List.mem_cons_self) (htears x List.mem_cons_self) hitem
          (atEnd_rest id _ (atEnd_bracket [])) rounds more fun rest hrest =>
            ih (fun y hy => hreads y (List.mem_cons_of_mem x hy))
              (fun y hy => htears y (List.mem_cons_of_mem x hy)) (List.cons_ne_nil _ _) hrest
              rounds

/-- The items of a list from the first, cut somewhere. -/
theorem itemsFrom_first_torn {xs : List α} (hreads : ∀ x ∈ xs, Reads read (text x) x)
    (htears : ∀ x ∈ xs, TearsAt read (text x)) (hintruder : ∀ more, Sticks (read (intruder more)))
    {front back : List Char} (h : commaSeparated (xs.map text) ++ [']'] = front ++ back)
    (hback : back ≠ []) (rounds : Nat) (more : List Symbol) :
    ∃ e, itemsFrom read (rounds + 1) [] (symbols front ++ intruder more) = .error e := by
  cases xs with
  | nil =>
    cases front with
    | nil =>
      rw [itemsFrom]
      exact (hintruder more).itemsFrom rounds
    | cons c front =>
      have hnil := (List.append_eq_nil_iff.1 (List.cons.inj h).2.symm).2
      exact absurd hnil hback
  | cons x xs =>
    rw [List.map_cons, commaSeparated_cons, List.append_assoc] at h
    obtain ⟨symbol, rest, hsplit, hspace, hne⟩ :=
      starts_torn (hreads x List.mem_cons_self).starts h more
    have hnext : nextItem true (symbols front ++ intruder more)
        = .ok (some (symbols front ++ intruder more)) := by
      rw [hsplit]
      exact (nextItem_some hspace hne rest).1
    rw [itemsFrom, List.isEmpty_nil, hnext]
    exact item_torn (hreads x List.mem_cons_self) (htears x List.mem_cons_self) h
      (atEnd_rest id _ (atEnd_bracket [])) rounds more fun rest hrest =>
        itemsFrom_more_torn xs (fun y hy => hreads y (List.mem_cons_of_mem x hy))
          (fun y hy => htears y (List.mem_cons_of_mem x hy)) (List.cons_ne_nil _ _) hrest hback
          rounds more

/-- A list that breaks off before the intruder is not read. -/
theorem enclosed_list {xs : List α} (hreads : ∀ x ∈ xs, Reads read (text x) x)
    (hsteady : Steady read) (htears : ∀ x ∈ xs, TearsAt read (text x))
    (hintruder : ∀ more, Sticks (read (intruder more))) :
    Enclosed (readList read) (bracketed (xs.map text)) xs where
  reads rest := by
    have hread := (reads_list hreads).reads [] atEnd_nil
    rw [List.append_nil] at hread
    exact readList_append hsteady hread rest
  torn front back more h hback := by
    cases front with
    | nil => exact .inl ⟨_, rfl⟩
    | cons c front =>
      obtain ⟨rfl, hitems⟩ := List.cons.inj h
      have hround : ∀ rounds, ∃ e, itemsFrom read rounds []
          (symbols front ++ intruder more) = .error e := by
        intro rounds
        cases rounds with
        | zero => exact ⟨_, rfl⟩
        | succ rounds => exact itemsFrom_first_torn hreads htears hintruder hitems hback rounds more
      obtain ⟨e, he⟩ := hround ((symbols front ++ intruder more).length + 1)
      refine .inl ⟨e, ?_⟩
      show readItems read (symbols front ++ intruder more) = .error e
      simp only [readItems, he, bind, Except.bind]

end Lists

/-- A byte tears wherever it is cut. -/
theorem tears_byte (b : UInt8) : TearsAt readByte (decimal b.toNat) := by
  intro front back more h
  refine sticks_readByte (fun c hc => ?_) more
  exact Decimal.isDigit_of_mem_decimal (n := b.toNat) (by rw [h]; exact List.mem_append_left _ hc)

/-- A list of bytes is closed by its bracket. -/
theorem enclosed_bytes (bytes : Bytes) :
    Enclosed (readList readByte) (bracketed (bytes.map fun b => decimal b.toNat)) bytes :=
  enclosed_list (fun b _ => reads_byte b) steady_readByte (fun b _ => tears_byte b)
    fun more => show Sticks (readByte (symbols [] ++ intruder more)) from
      sticks_readByte (fun _ hc => absurd hc List.not_mem_nil) more

/-! ### Structures -/

/-- A field is enclosed if its value is. -/
theorem Enclosed.field {β : Type} {name : String} {get : σ → Option β} {set : σ → β → σ}
    {read : Reader β} {text : List Char} {value : β} (h : Enclosed read text value)
    (draft : σ) : Enclosed ((Field.of name get set read).read draft) text (set draft value) where
  reads rest := by simp only [Field.of, h.reads rest, Except.map]
  torn front back more htext hback := (h.torn front back more htext hback).map _

namespace Structure

variable {s : Structure σ α}

/-- The members give fields of the structure, none of them twice, and each of them
has an end of its own. -/
inductive Encloses (s : Structure σ α) : σ → List (List Char) → Prop
  | nil (draft : σ) : Encloses s draft []
  | cons {draft draft' : σ} {name : String} {field : Field σ} {text : List Char}
      {members : List (List Char)} (hfield : s.fields.find? (·.name == name) = some field)
      (hnew : field.isGiven draft = false) (htext : Enclosed (field.read draft) text draft')
      (hrest : Encloses s draft' members) : Encloses s draft (member name text :: members)

/-- The input that a member is read from: its name comes first, or after a comma. -/
def lead (first : Bool) (input : List Symbol) : List Symbol :=
  if first then input else .char ',' :: input

/-- Where a member is due and a mark comes, its name is read. -/
theorem nextName_lead_quote (first : Bool) (input : List Symbol) :
    nextName first (lead first (.char '"' :: input)) = (readString input).map some := by
  cases first with
  | true => rfl
  | false => rfl

/-- Where a member is due and the intruder comes, there is no name. -/
theorem nextName_lead_intruder (first : Bool) (more : List Symbol) :
    ∃ e, nextName first (lead first (intruder more)) = .error e := by
  cases first with
  | true => exact ⟨_, rfl⟩
  | false => exact ⟨_, rfl⟩

/-- An object does not go on with what cannot follow a member. -/
theorem membersInto_foreign {symbol : Symbol} (h : Foreign symbol) (rest : List Symbol)
    (rounds : Nat) (draft : σ) :
    ∃ e, s.membersInto rounds false draft (symbol :: rest) = .error e := by
  cases rounds with
  | zero => exact ⟨_, rfl⟩
  | succ rounds =>
    obtain ⟨e, he⟩ := h.nextName rest
    refine ⟨e, ?_⟩
    rw [membersInto, he]
    rfl

/-- A name that is not followed by a colon is the name of no member. -/
theorem membersInto_name_torn {first : Bool} {input : List Symbol} {draft : σ}
    (h : (∃ e, nextName first input = .error e) ∨ ∃ name symbol rest,
      nextName first input = .ok (some (name, symbol :: rest)) ∧ Foreign symbol)
    (rounds : Nat) : ∃ e, s.membersInto (rounds + 1) first draft input = .error e := by
  rcases h with ⟨e, he⟩ | ⟨name, symbol, rest, hname, hforeign⟩
  · refine ⟨e, ?_⟩
    rw [membersInto, he]
    rfl
  · obtain ⟨e, he⟩ := hforeign.readColon rest
    rw [membersInto, hname]
    simp only [bind, Except.bind]
    split
    · split
      · exact ⟨_, rfl⟩
      · exact ⟨e, by rw [he]⟩
    · split
      · exact ⟨_, rfl⟩
      · exact ⟨e, by rw [he]⟩

/-- The name of a member, cut somewhere. -/
theorem nextName_torn (first : Bool) {name : String} {front back : List Char}
    (h : quote name.toList = front ++ back) (hback : back ≠ []) (more : List Symbol) :
    (∃ e, nextName first (lead first (symbols front ++ intruder more)) = .error e)
      ∨ ∃ read symbol rest, nextName first (lead first (symbols front ++ intruder more))
          = .ok (some (read, symbol :: rest)) ∧ Foreign symbol := by
  cases front with
  | nil => exact .inl (nextName_lead_intruder first more)
  | cons c front =>
    obtain ⟨rfl, hbody⟩ := List.cons.inj h
    show (∃ e, nextName first (lead first (.char '"' :: (symbols front ++ intruder more)))
      = .error e) ∨ ∃ read symbol rest, nextName first
        (lead first (.char '"' :: (symbols front ++ intruder more)))
          = .ok (some (read, symbol :: rest)) ∧ Foreign symbol
    rw [nextName_lead_quote]
    rcases sticks_readString hbody hback more with
      ⟨e, he⟩ | ⟨read, symbol, rest, hread, hforeign⟩
    · rw [he]
      exact .inl ⟨e, rfl⟩
    · rw [hread]
      exact .inr ⟨read, symbol, rest, rfl, hforeign⟩

/-- A name that is whole is read, whatever follows it. -/
theorem nextName_lead_whole (first : Bool) (name : String) (front : List Char)
    (more : List Symbol) :
    nextName first (lead first (symbols (quote name.toList ++ front) ++ intruder more))
      = .ok (some (name, symbols front ++ intruder more)) := by
  rw [symbols, List.map_append, List.append_assoc]
  cases first with
  | true => exact nextName_first name _
  | false => exact nextName_comma name _

/-- A member and what follows it, cut somewhere. -/
theorem member_torn (first : Bool) {draft draft' : σ} {name : String} {field : Field σ}
    {text later front back : List Char}
    (hfield : s.fields.find? (·.name == name) = some field)
    (hnew : field.isGiven draft = false) (htext : Enclosed (field.read draft) text draft')
    (h : member name text ++ later = front ++ back) (rounds : Nat) (more : List Symbol)
    (hmore : ∀ rest, later = rest ++ back →
      ∃ e, s.membersInto rounds false draft' (symbols rest ++ intruder more) = .error e) :
    ∃ e, s.membersInto (rounds + 1) first draft (lead first (symbols front ++ intruder more))
      = .error e := by
  rw [member, List.append_assoc] at h
  rcases cut_cases h with ⟨left, hleft, hname⟩ | ⟨front, rfl, hafter⟩
  · exact membersInto_name_torn (nextName_torn first hname hleft more) rounds
  · have hname := nextName_lead_whole first name front more
    cases front with
    | nil => exact membersInto_name_torn (.inr ⟨name, _, _, hname, .inl rfl⟩) rounds
    | cons c front =>
      obtain ⟨rfl, hvalue⟩ := List.cons.inj hafter
      have hread : s.membersInto (rounds + 1) first draft
            (lead first (symbols (quote name.toList ++ ':' :: front) ++ intruder more))
          = (field.read draft (symbols front ++ intruder more)).bind
              fun (draft, input) => s.membersInto rounds false draft input := by
        rw [membersInto, hname]
        simp only [bind, Except.bind, hfield, hnew]
        rfl
      rw [hread]
      rcases cut_cases hvalue with ⟨left, hleft, hcut⟩ | ⟨rest, rfl, hrest⟩
      · -- The cut is in the value.
        rcases htext.torn front left more hcut hleft with
          ⟨e, he⟩ | ⟨value, symbol, rest, hstuck, hforeign⟩
        · rw [he]
          exact ⟨e, rfl⟩
        · rw [hstuck]
          exact membersInto_foreign hforeign rest rounds value
      · rw [symbols, List.map_append, List.append_assoc]
        have hwhole := htext.reads (symbols rest ++ intruder more)
        rw [symbols] at hwhole
        rw [show rest.map Symbol.char = symbols rest from rfl, hwhole]
        exact hmore rest hrest

/-- Members after the first, cut somewhere. -/
theorem membersInto_more_torn {draft : σ} {members : List (List Char)}
    (hencloses : s.Encloses draft members) {front back : List Char}
    (h : members.flatMap (',' :: ·) ++ ['\x7d'] = front ++ back) (hback : back ≠ [])
    (rounds : Nat) (more : List Symbol) :
    ∃ e, s.membersInto rounds false draft (symbols front ++ intruder more) = .error e := by
  induction hencloses generalizing front rounds with
  | nil draft =>
    cases front with
    | nil => exact membersInto_foreign (.inl rfl) _ rounds draft
    | cons c front =>
      have hnil := (List.append_eq_nil_iff.1 (List.cons.inj h).2.symm).2
      exact absurd hnil hback
  | @cons draft draft' name field text members hfield hnew htext hrest ih =>
    cases front with
    | nil => exact membersInto_foreign (.inl rfl) _ rounds draft
    | cons c front =>
      cases rounds with
      | zero => exact ⟨_, rfl⟩
      | succ rounds =>
        rw [List.flatMap_cons, List.append_assoc] at h
        obtain ⟨rfl, hmember⟩ := List.cons.inj h
        exact member_torn false hfield hnew htext hmember rounds more fun rest hrest =>
          ih hrest rounds

/-- An object that breaks off before the intruder is not read. -/
theorem read_torn {members : List (List Char)} (hencloses : s.Encloses s.blank members)
    {front back : List Char} (h : braced members = front ++ back) (hfront : front ≠ [])
    (hback : back ≠ []) (more : List Symbol) :
    ∃ e, s.read (symbols front ++ intruder more) = .error e := by
  obtain ⟨c, front, rfl⟩ := List.exists_cons_of_ne_nil hfront
  obtain ⟨rfl, hmembers⟩ := List.cons.inj h
  have hround : ∀ rounds, ∃ e, s.membersInto (rounds + 1) true s.blank
      (symbols front ++ intruder more) = .error e := by
    intro rounds
    cases hencloses with
    | nil =>
      cases front with
      | nil => exact membersInto_name_torn (.inl (nextName_lead_intruder true more)) rounds
      | cons c front =>
        have hnil := (List.append_eq_nil_iff.1 (List.cons.inj hmembers).2.symm).2
        exact absurd hnil hback
    | cons hfield hnew htext hrest =>
      have hmembers' : commaSeparated _ ++ ['\x7d'] = front ++ back := hmembers
      rw [commaSeparated_cons, List.append_assoc] at hmembers'
      exact member_torn true hfield hnew htext hmembers' rounds more fun rest hcut =>
        membersInto_more_torn hrest hcut hback rounds more
  obtain ⟨e, he⟩ := hround (symbols front ++ intruder more).length
  refine ⟨e, ?_⟩
  have hopen : ∀ input, Json.front (.char '\x7b' :: input) = .ok (.map, input) := fun _ => rfl
  show s.read (.char '\x7b' :: (symbols front ++ intruder more)) = .error e
  simp only [read, hopen, bind, Except.bind, he]

end Structure

end Idempotency.Json
