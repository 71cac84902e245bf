import Idempotency.Json.Reader
import Idempotency.Proofs.Json.Literal

/-!
# `Idempotency.Proofs.Json.Torn.Basic`: where a reader gets stuck

When writing an object breaks off, the next one comes right after what is there.
`intruder` is how it starts: with a brace, a mark, and the first letter of a name.
Reading gets stuck where the intruder starts, or one symbol further on. A string
that is open takes the intruder's brace in and ends at its mark, and then there is
a letter where a comma, a colon or a bracket should be (`sticks_readString`);
everywhere else it is the brace that cannot stand there. `Sticks` says that a reader
has come to such a place: it has refused, or what it leaves starts with what nothing
goes on with.
-/

set_option autoImplicit false

namespace Idempotency.Json

open Idempotency.Text (Symbol symbols)

variable {α : Type}

/-- The start of an object whose first name starts with a `k`, and what follows. -/
def intruder (more : List Symbol) : List Symbol :=
  .char '\x7b' :: .char '"' :: .char 'k' :: more

/-- What neither ends a value, nor follows one, nor follows a name. -/
def Foreign (symbol : Symbol) : Prop := symbol = .char '\x7b' ∨ symbol = .char 'k'

/-- The reader has refused, or leaves what it cannot go on with. -/
def Sticks (outcome : Except Error (α × List Symbol)) : Prop :=
  (∃ e, outcome = .error e)
    ∨ ∃ value symbol rest, outcome = .ok (value, symbol :: rest) ∧ Foreign symbol

/-- What is made of a value does not get a reader any further. -/
theorem Sticks.map {β : Type} {outcome : Except Error (α × List Symbol)} (h : Sticks outcome)
    (f : α → β) : Sticks (outcome.map fun (value, rest) => (f value, rest)) := by
  rcases h with ⟨e, rfl⟩ | ⟨value, symbol, rest, rfl, hforeign⟩
  · exact .inl ⟨e, rfl⟩
  · exact .inr ⟨f value, symbol, rest, rfl, hforeign⟩

/-- What is cut is cut in its first part or behind it. -/
theorem cut_cases {first later front back : List Char} (h : first ++ later = front ++ back) :
    (∃ left, left ≠ [] ∧ first = front ++ left)
      ∨ ∃ rest, front = first ++ rest ∧ later = rest ++ back := by
  rcases List.append_eq_append_iff.1 h with ⟨rest, hfront, hlater⟩ | ⟨left, hfirst, hback⟩
  · exact .inr ⟨rest, hfront, hlater⟩
  · by_cases hnil : left = []
    · subst hnil
      exact .inr ⟨[], by rw [hfirst, List.append_nil, List.append_nil], hback.symm⟩
    · exact .inl ⟨left, hnil, hfirst⟩

/-! ### Where a reader cannot go on -/

/-- No item of a list follows without a comma. -/
theorem Foreign.nextItem {symbol : Symbol} (h : Foreign symbol) (rest : List Symbol) :
    ∃ e, nextItem false (symbol :: rest) = .error e := by
  rcases h with rfl | rfl <;> exact ⟨_, rfl⟩

/-- No member of an object follows without a comma. -/
theorem Foreign.nextName {symbol : Symbol} (h : Foreign symbol) (rest : List Symbol) :
    ∃ e, nextName false (symbol :: rest) = .error e := by
  rcases h with rfl | rfl <;> exact ⟨_, rfl⟩

/-- No colon is there. -/
theorem Foreign.readColon {symbol : Symbol} (h : Foreign symbol) (rest : List Symbol) :
    ∃ e, readColon (symbol :: rest) = .error e := by
  rcases h with rfl | rfl <;> exact ⟨_, rfl⟩

/-! ### Strings -/

/-- Fewer than four digits are not made up for by a brace. -/
theorem readHex_cut {ds : List Char} (h : ds.length < 4) (rest : List Symbol) :
    ∃ e, readHex (symbols ds ++ .char '\x7b' :: rest) = .error e := by
  have hbrace : hexValue? (.char '\x7b') = none := by decide
  have hnone : ((symbols ds ++ .char '\x7b' :: rest).take 4).mapM hexValue? = none := by
    match ds, h with
    | [], _ => rfl
    | [a], _ => cases ha : hexValue? (.char a) <;> simp [symbols, List.mapM_cons, ha, hbrace]
    | [a, b], _ =>
      cases ha : hexValue? (.char a) <;> cases hb : hexValue? (.char b) <;>
        simp [symbols, List.mapM_cons, ha, hb, hbrace]
    | [a, b, c], _ =>
      cases ha : hexValue? (.char a) <;> cases hb : hexValue? (.char b) <;>
        cases hc : hexValue? (.char c) <;> simp [symbols, List.mapM_cons, ha, hb, hc, hbrace]
  unfold readHex
  rw [hnone]
  dsimp only
  split
  · exact ⟨_, rfl⟩
  · exact ⟨_, rfl⟩

/-- A character is written as itself, or after a backslash. -/
theorem escaped_cases (c : Char) :
    escaped c = [c] ∨ (∃ d, escaped c = ['\\', d])
      ∨ ∃ high low, escaped c = ['\\', 'u', '0', '0', high, low] := by
  unfold escaped
  split
  · exact .inr (.inl ⟨_, rfl⟩)
  split
  · exact .inr (.inl ⟨_, rfl⟩)
  split
  · exact .inr (.inl ⟨_, rfl⟩)
  split
  · exact .inr (.inl ⟨_, rfl⟩)
  split
  · exact .inr (.inl ⟨_, rfl⟩)
  split
  · exact .inr (.inl ⟨_, rfl⟩)
  split
  · exact .inr (.inl ⟨_, rfl⟩)
  split
  · exact .inr (.inr ⟨_, _, rfl⟩)
  · exact .inl rfl

/-- A string that is open takes the brace and ends at the mark. -/
theorem sticks_readRest_intruder (rounds : Nat) (read more : List Symbol) :
    Sticks (readRest rounds read (intruder more)) := by
  cases rounds with
  | zero => exact .inl ⟨_, rfl⟩
  | succ rounds =>
    have hbrace : readRest (rounds + 1) read (intruder more)
        = readRest rounds (.char '\x7b' :: read) (.char '"' :: .char 'k' :: more) :=
      readRest_plain (by decide) (by decide) (by decide)
    rw [hbrace]
    cases rounds with
    | zero => exact .inl ⟨_, rfl⟩
    | succ rounds =>
      rw [readRest]
      split
      · exact .inr ⟨_, _, _, rfl, .inr rfl⟩
      · exact .inl ⟨_, rfl⟩

/-- Four digits do not come together where there are less. -/
theorem readEscape_digits_cut {digits : List Char} (hdigits : digits.length < 4)
    (more : List Symbol) :
    ∃ e, readEscape (.char 'u' :: (symbols digits ++ intruder more)) = .error e := by
  obtain ⟨e, he⟩ := readHex_cut hdigits (.char '"' :: .char 'k' :: more)
  refine ⟨e, ?_⟩
  show (readHex (symbols digits ++ .char '\x7b' :: .char '"' :: .char 'k' :: more)).bind _ = _
  rw [he]
  rfl

/-- A string with an escape that is not read is not read. -/
theorem readRest_of_escape {after : List Symbol} (h : ∃ e, readEscape after = .error e)
    (rounds : Nat) (read : List Symbol) :
    ∃ e, readRest (rounds + 1) read (.char '\\' :: after) = .error e := by
  obtain ⟨e, he⟩ := h
  refine ⟨e, ?_⟩
  rw [readRest, he]
  rfl

/-- An escape that breaks off is not one that there is. -/
theorem readRest_escape_cut {front back : List Char} {c : Char} (h : escaped c = front ++ back)
    (hfront : front ≠ []) (hback : back ≠ []) (rounds : Nat) (read more : List Symbol) :
    ∃ e, readRest rounds read (symbols front ++ intruder more) = .error e := by
  have hlength := congrArg List.length h
  have hpos := List.length_pos_iff.2 hback
  rw [List.length_append] at hlength
  cases front with
  | nil => exact absurd rfl hfront
  | cons a front =>
    -- What is there is a backslash, and perhaps more.
    have hslash : a = '\\' ∧ ∃ e, readEscape (symbols front ++ intruder more) = .error e := by
      rcases escaped_cases c with hself | ⟨d, hd⟩ | ⟨high, low, hu⟩
      · rw [hself, List.length_singleton, List.length_cons] at hlength
        omega
      · rw [hd] at h hlength
        simp only [List.length_cons, List.length_nil] at hlength
        obtain rfl : front = [] := List.length_eq_zero_iff.1 (by omega)
        exact ⟨(List.cons.inj h).1.symm, _, rfl⟩
      · rw [hu] at h hlength
        simp only [List.length_cons, List.length_nil] at hlength
        cases front with
        | nil => exact ⟨(List.cons.inj h).1.symm, _, rfl⟩
        | cons b digits =>
          simp only [List.cons_append, List.cons.injEq] at h
          obtain ⟨rfl, rfl, h⟩ := h
          rw [List.length_cons] at hlength
          exact ⟨rfl, readEscape_digits_cut (by omega) more⟩
    obtain ⟨rfl, hescape⟩ := hslash
    cases rounds with
    | zero => exact ⟨_, rfl⟩
    | succ rounds => exact readRest_of_escape hescape rounds read

/-- A string that breaks off ends at the intruder's mark, if it ends at all. -/
theorem sticks_readRest {cs front back : List Char}
    (h : cs.flatMap escaped ++ ['"'] = front ++ back) (hback : back ≠ []) (rounds : Nat)
    (read more : List Symbol) :
    Sticks (readRest rounds read (symbols front ++ intruder more)) := by
  induction cs generalizing front rounds read with
  | nil =>
    cases front with
    | nil => exact sticks_readRest_intruder rounds read more
    | cons c front =>
      have hnil := (List.append_eq_nil_iff.1 (List.cons.inj h).2.symm).2
      exact absurd hnil hback
  | cons c cs ih =>
    rw [List.flatMap_cons, List.append_assoc] at h
    rcases cut_cases h with ⟨left, hleft, hescaped⟩ | ⟨later, rfl, hlater⟩
    · by_cases hfront : front = []
      · rw [hfront]
        exact sticks_readRest_intruder rounds read more
      · exact .inl (readRest_escape_cut hescaped hfront hleft rounds read more)
    · -- The character is there, and the string breaks off after it.
      cases rounds with
      | zero => exact .inl ⟨_, rfl⟩
      | succ rounds =>
        have hsplit : symbols (escaped c ++ later) ++ intruder more
            = symbols (escaped c) ++ (symbols later ++ intruder more) := by
          simp [symbols]
        rw [hsplit, readRest_escaped]
        exact ih hlater rounds _

/-- A string that breaks off, at the latest before its closing mark, gets stuck. It is
closed by the intruder's mark, or not at all. -/
theorem sticks_readString {cs front back : List Char}
    (h : cs.flatMap escaped ++ ['"'] = front ++ back) (hback : back ≠ []) (more : List Symbol) :
    Sticks (readString (symbols front ++ intruder more)) := by
  unfold readString
  rcases sticks_readRest h hback ((symbols front ++ intruder more).length + 1) [] more with
    ⟨e, he⟩ | ⟨read, symbol, rest, hread, hforeign⟩
  · rw [he]
    exact .inl ⟨e, rfl⟩
  · rw [hread]
    exact .inr ⟨_, symbol, rest, rfl, hforeign⟩

end Idempotency.Json
