import Idempotency.Json.Typed
import Idempotency.Json.Writer
import Idempotency.Proofs.Json.Literal
import Idempotency.Proofs.Json.Number

/-!
# `Idempotency.Proofs.Json.Reader`: written values read back

`Reads read text value` says that a reader takes a text for a value wherever a
value may end after it. Strings, bytes and lists read back in this sense
(`reads_string`, `reads_byte`, `reads_list`); a list does if its items do.

Written text has no blanks between its parts, so a reader finds at once what it
looks for.
-/

set_option autoImplicit false

namespace Idempotency.Json

open Idempotency.Text (Symbol symbols)
open Idempotency.Decimal (decimal)

variable {α : Type}

/-- A text starts like a value: not with a blank, and not with the bracket that
closes a list. -/
def StartsValue (text : List Char) : Prop :=
  ∃ c more, text = c :: more ∧ isSpace (.char c) = false ∧ c ≠ ']'

/-- A text that starts like a value has a character. -/
theorem StartsValue.ne_nil {text : List Char} (h : StartsValue text) : text ≠ [] := by
  obtain ⟨c, more, rfl, _⟩ := h
  exact List.cons_ne_nil c more

/-- The reader takes the text for the value. -/
structure Reads (read : Reader α) (text : List Char) (value : α) : Prop where
  starts : StartsValue text
  reads : ∀ rest, AtEnd rest → read (symbols text ++ rest) = .ok (value, rest)

/-! ### The front of a value -/

/-- Where the next symbol is not blank there is nothing to drop. -/
theorem dropSpace_cons {symbol : Symbol} (h : isSpace symbol = false) (rest : List Symbol) :
    dropSpace (symbol :: rest) = symbol :: rest := by
  simp [dropSpace, h]

/-- There are no blanks in front of a text that starts like a value. -/
theorem dropSpace_text {text : List Char} (h : StartsValue text) (rest : List Symbol) :
    dropSpace (symbols text ++ rest) = symbols text ++ rest := by
  obtain ⟨c, more, rfl, hspace, _⟩ := h
  exact dropSpace_cons hspace _

/-- A quoted text is a mark, the text as it is escaped, and a mark. -/
theorem symbols_quote (cs : List Char) (rest : List Symbol) :
    symbols (quote cs) ++ rest
      = .char '"' :: (symbols (cs.flatMap escaped) ++ .char '"' :: rest) := by
  simp [symbols, quote]

/-- A quoted text starts with its mark. -/
theorem startsValue_quote (cs : List Char) : StartsValue (quote cs) :=
  ⟨'"', cs.flatMap escaped ++ ['"'], rfl, by decide, by decide⟩

/-- A quoted text is the string that it quotes, whatever follows. -/
theorem front_quote (cs : List Char) (rest : List Symbol) :
    front (symbols (quote cs) ++ rest) = .ok (.string (String.ofList cs), rest) := by
  rw [symbols_quote]
  unfold front
  rw [dropSpace_cons (by decide)]
  simp only [readString_quote, Except.map]

/-- A string reads back. -/
theorem reads_string (expected : String) (s : String) :
    Reads (readStringAs expected) (quote s.toList) s where
  starts := startsValue_quote s.toList
  reads rest _ := by
    simp only [readStringAs, front_quote, bind, Except.bind, String.ofList_toList]

/-- A digit is not a blank. -/
theorem isSpace_digit {c : Char} (h : c.isDigit = true) : isSpace (.char c) = false := by
  simp only [isSpace, Bool.or_eq_false_iff, beq_eq_false_iff_ne]
  refine ⟨⟨⟨?_, ?_⟩, ?_⟩, ?_⟩ <;> (rintro rfl; exact absurd h (by decide))

/-- A whole number starts with a digit. -/
theorem startsValue_decimal (n : Nat) : StartsValue (decimal n) := by
  obtain ⟨c, more, hdecimal⟩ := List.exists_cons_of_ne_nil (Decimal.decimal_ne_nil n)
  have hc : c.isDigit = true := Decimal.isDigit_of_mem_decimal (n := n) (by simp [hdecimal])
  refine ⟨c, more, hdecimal, isSpace_digit hc, ?_⟩
  rintro rfl
  exact absurd hc (by decide)

/-- What starts with a digit is a number. -/
theorem front_digit {c : Char} (hc : c.isDigit = true) (rest : List Symbol) :
    front (.char c :: rest)
      = (readNumber false (.char c :: rest)).map fun (n, rest) => (.number n, rest) := by
  have hne : ∀ d : Char, d.isDigit = false → ¬ Symbol.char c = .char d := by
    rintro d hd ⟨⟩
    exact absurd hc (by simp [hd])
  unfold front
  rw [dropSpace_cons (isSpace_digit hc)]
  -- Every other case of the match asks for a character that is no digit.
  split
  case h_9 heq =>
    cases heq
    simp only [digit?_char hc, Option.isSome_some, if_true]
  case h_1 heq => exact nomatch heq
  all_goals
    next heq => exact absurd (List.cons.inj heq).1 (hne _ (by decide))

/-- A whole number that fits sixty-four bits is that integer. -/
theorem front_decimal {n : Nat} (hfits : n ≤ maxSignificand) {rest : List Symbol}
    (hend : AtEnd rest) :
    front (symbols (decimal n) ++ rest) = .ok (.number (.integer n), rest) := by
  obtain ⟨c, more, hdecimal⟩ := List.exists_cons_of_ne_nil (Decimal.decimal_ne_nil n)
  have hc : c.isDigit = true := Decimal.isDigit_of_mem_decimal (n := n) (by simp [hdecimal])
  have hsplit : symbols (decimal n) ++ rest = .char c :: (symbols more ++ rest) := by
    rw [hdecimal]
    rfl
  have hread := readNumber_decimal hfits hend
  rw [hsplit] at hread ⊢
  rw [front_digit hc, hread]
  rfl

/-- A byte reads back from its decimal digits. -/
theorem reads_byte (b : UInt8) : Reads readByte (decimal b.toNat) b where
  starts := startsValue_decimal b.toNat
  reads rest hend := by
    have hlt := b.toNat_lt
    have hfront := front_decimal (n := b.toNat) (by unfold maxSignificand; omega) hend
    have hrange : (decide ((0 : Int) ≤ b.toNat) && decide ((b.toNat : Int) ≤ 255)) = true := by
      simp only [Bool.and_eq_true, decide_eq_true_eq]
      omega
    simp only [readByte, readInteger, hfront, bind, Except.bind, hrange, if_true]
    rw [Int.toNat_natCast, UInt8.ofNat_toNat]

/-! ### Lists -/

/-- Each text but the first has a comma before it. -/
theorem commaSeparated_cons (text : List Char) (texts : List (List Char)) :
    commaSeparated (text :: texts) = text ++ texts.flatMap (',' :: ·) := by
  induction texts generalizing text with
  | nil => simp [commaSeparated]
  | cons next texts ih => rw [commaSeparated, ih, List.flatMap_cons, List.cons_append]; simp

/-- A value ends where more of them follow, each after a comma, or the closing bracket if
there are no more. -/
theorem atEnd_more {β : Type} (text : β → List Char) (xs : List β) {close : List Symbol}
    (hclose : AtEnd close) : AtEnd (symbols (xs.flatMap fun x => ',' :: text x) ++ close) := by
  cases xs with
  | nil => exact hclose
  | cons y ys => exact atEnd_comma _

/-- After an item a value may end, since there is a comma or what follows the items. -/
theorem atEnd_rest {β : Type} (text : β → List Char) (xs : List β) {rest : List Char}
    (hrest : AtEnd (symbols rest)) :
    AtEnd (symbols (xs.flatMap (fun x => ',' :: text x) ++ rest)) := by
  rw [symbols, List.map_append]
  exact atEnd_more text xs hrest

/-- The first item starts right after the bracket. -/
theorem nextItem_first {text : List Char} (h : StartsValue text) (rest : List Symbol) :
    nextItem true (symbols text ++ rest) = .ok (some (symbols text ++ rest)) := by
  unfold nextItem
  rw [dropSpace_text h]
  obtain ⟨c, more, rfl, _, hne⟩ := h
  simp [symbols, hne]

/-- Any later item starts right after its comma. -/
theorem nextItem_comma {text : List Char} (h : StartsValue text) (rest : List Symbol) :
    nextItem false (.char ',' :: (symbols text ++ rest))
      = .ok (some (symbols text ++ rest)) := by
  obtain ⟨c, more, rfl, hspace, hne⟩ := h
  have hcomma := dropSpace_cons (show isSpace (.char ',') = false by decide)
  have hnext := dropSpace_cons hspace (symbols more ++ rest)
  show nextItem false (.char ',' :: .char c :: (symbols more ++ rest))
    = .ok (some (.char c :: (symbols more ++ rest)))
  simp [nextItem, hcomma, hnext, hne]

/-- The closing bracket is no item. -/
theorem nextItem_close (first : Bool) (rest : List Symbol) :
    nextItem first (.char ']' :: rest) = .ok none := rfl

/-- Items after the first, each after a comma, are read up to the closing
bracket. -/
theorem itemsFrom_more {read : Reader α} {text : α → List Char} (xs : List α)
    (hreads : ∀ x ∈ xs, Reads read (text x) x) (items : List α) (hitems : items ≠ [])
    (rest : List Symbol) {rounds : Nat} (hrounds : xs.length < rounds) :
    itemsFrom read rounds items
        (symbols (xs.flatMap fun x => ',' :: text x) ++ .char ']' :: rest)
      = .ok (items.reverse ++ xs, .char ']' :: rest) := by
  have hnotempty : items.isEmpty = false := by simpa using hitems
  -- Items are gathered in reverse, those read before included.
  induction xs generalizing items rounds with
  | nil =>
    obtain ⟨rounds, rfl⟩ : ∃ k, rounds = k + 1 := ⟨rounds - 1, by simp at hrounds; omega⟩
    show itemsFrom read (rounds + 1) items (.char ']' :: rest) = _
    rw [itemsFrom, nextItem_close]
    simp [bind, Except.bind]
  | cons x xs ih =>
    obtain ⟨rounds, rfl⟩ : ∃ k, rounds = k + 1 := ⟨rounds - 1, by omega⟩
    have hx := hreads x List.mem_cons_self
    have hsplit : symbols ((x :: xs).flatMap fun x => ',' :: text x) ++ .char ']' :: rest
        = .char ',' :: (symbols (text x)
            ++ (symbols (xs.flatMap fun x => ',' :: text x) ++ .char ']' :: rest)) := by
      simp [symbols]
    have hend := atEnd_more text xs (atEnd_bracket rest)
    rw [hsplit, itemsFrom, hnotempty, nextItem_comma hx.starts]
    simp only [bind, Except.bind, hx.reads _ hend]
    rw [ih (fun y hy => hreads y (List.mem_cons_of_mem x hy)) (x :: items) (by simp)
      (by simpa using hrounds) rfl]
    simp

/-- Items with commas between them are read up to the closing bracket. -/
theorem itemsFrom_list {read : Reader α} {text : α → List Char} (xs : List α)
    (hreads : ∀ x ∈ xs, Reads read (text x) x) (rest : List Symbol) {rounds : Nat}
    (hrounds : xs.length < rounds) :
    itemsFrom read rounds [] (symbols (commaSeparated (xs.map text)) ++ .char ']' :: rest)
      = .ok (xs, .char ']' :: rest) := by
  obtain ⟨rounds, rfl⟩ : ∃ k, rounds = k + 1 := ⟨rounds - 1, by omega⟩
  cases xs with
  | nil =>
    show itemsFrom read (rounds + 1) [] (.char ']' :: rest) = _
    rw [itemsFrom, nextItem_close]
    rfl
  | cons x xs =>
    have hx := hreads x List.mem_cons_self
    have hsplit : symbols (commaSeparated ((x :: xs).map text)) ++ .char ']' :: rest
        = symbols (text x)
            ++ (symbols (xs.flatMap fun x => ',' :: text x) ++ .char ']' :: rest) := by
      rw [List.map_cons, commaSeparated_cons]
      simp [symbols, List.flatMap_map]
    have hend := atEnd_more text xs (atEnd_bracket rest)
    rw [hsplit, itemsFrom]
    simp only [List.isEmpty_nil, nextItem_first hx.starts, bind, Except.bind, hx.reads _ hend]
    rw [itemsFrom_more xs (fun y hy => hreads y (List.mem_cons_of_mem x hy)) [x] (by simp) rest
      (by simpa using hrounds)]
    rfl

/-- There are no more texts than characters in them and between them. -/
theorem length_le_commaSeparated (texts : List (List Char)) (hne : ∀ text ∈ texts, text ≠ []) :
    texts.length ≤ (commaSeparated texts).length := by
  cases texts with
  | nil => exact Nat.le_refl 0
  | cons text texts =>
    have htext : 0 < text.length := List.length_pos_iff.2 (hne text List.mem_cons_self)
    have hmore : ∀ later : List (List Char),
        later.length ≤ (later.flatMap (',' :: ·)).length := by
      intro later
      induction later with
      | nil => exact Nat.le_refl 0
      | cons next later ih =>
        rw [List.flatMap_cons, List.length_append, List.length_cons, List.length_cons]
        omega
    have := hmore texts
    rw [commaSeparated_cons, List.length_append, List.length_cons]
    omega

/-- A list reads back if its items do. -/
theorem reads_list {read : Reader α} {text : α → List Char} {xs : List α}
    (hreads : ∀ x ∈ xs, Reads read (text x) x) :
    Reads (readList read) (bracketed (xs.map text)) xs where
  starts := ⟨'[', commaSeparated (xs.map text) ++ [']'], rfl, by decide, by decide⟩
  reads rest _ := by
    have hlength : (xs.map text).length ≤ (commaSeparated (xs.map text)).length := by
      refine length_le_commaSeparated _ fun t ht => ?_
      obtain ⟨x, hx, rfl⟩ := List.mem_map.1 ht
      exact (hreads x hx).starts.ne_nil
    have hsplit : symbols (bracketed (xs.map text)) ++ rest
        = .char '[' :: (symbols (commaSeparated (xs.map text)) ++ .char ']' :: rest) := by
      simp [symbols, bracketed]
    have hrounds : xs.length
        < (symbols (commaSeparated (xs.map text)) ++ Symbol.char ']' :: rest).length + 1 := by
      rw [List.length_map] at hlength
      rw [List.length_append, symbols, List.length_map]
      omega
    have hfront : ∀ input, front (.char '[' :: input) = .ok (.sequence, input) := fun _ => rfl
    have hclose : closeList (.char ']' :: rest) = .ok rest := rfl
    rw [hsplit]
    simp only [readList, hfront, readItems, bind, Except.bind,
      itemsFrom_list xs hreads rest hrounds, hclose]

end Idempotency.Json
