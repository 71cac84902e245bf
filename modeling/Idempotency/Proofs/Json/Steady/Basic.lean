import Idempotency.Json.Skip

/-!
# `Idempotency.Proofs.Json.Steady.Basic`: what a reader leaves may go on

Reading goes from the left and stops where the value is over, so what comes
after that does not change it. A reader is `Steady` if this holds whenever it
leaves something: then the value is over for sure, and the reader takes the same
value off the front of any longer text. A number that ends with the text is the
exception, since more digits may follow; a string is not, and its readers need
no such condition (`readString_append`, `skipString_append`).

The readers have the same order here as in the program: strings in this module,
then numbers, then lists and structures.
-/

set_option autoImplicit false

namespace Idempotency.Json

open Idempotency.Text (Symbol)

variable {α β : Type} {input rest : List Symbol}

/-- A step succeeds only if those before it do. -/
theorem of_bind_eq_ok {x : Except Error α} {f : α → Except Error β} {b : β}
    (h : (x >>= f) = .ok b) : ∃ a, x = .ok a ∧ f a = .ok b := by
  cases x with
  | error e => exact nomatch h
  | ok a => exact ⟨a, rfl, h⟩

/-- What a step makes of a value comes from that value. -/
theorem of_map_eq_ok {x : Except Error α} {f : α → β} {b : β} (h : x.map f = .ok b) :
    ∃ a, x = .ok a ∧ f a = b := by
  cases x with
  | error e => exact nomatch h
  | ok a => exact ⟨a, rfl, Except.ok.inj h⟩

/-- Where the reader leaves something, it reads the same value when what is left
goes on. -/
def Steady (read : Reader α) : Prop :=
  ∀ input value rest more, rest ≠ [] → read input = .ok (value, rest) →
    read (input ++ more) = .ok (value, rest ++ more)

/-- Blanks end at the same symbol, if there is one that is not blank. -/
theorem dropSpace_append (h : dropSpace input ≠ []) (more : List Symbol) :
    dropSpace (input ++ more) = dropSpace input ++ more := by
  unfold dropSpace at h ⊢
  induction input with
  | nil => exact absurd rfl h
  | cons symbol input ih =>
    rw [List.cons_append, List.dropWhile_cons, List.dropWhile_cons]
    rw [List.dropWhile_cons] at h
    split
    · next hspace => rw [if_pos hspace] at h; exact ih h
    · rfl

/-- The symbol after the blanks stays the next one. -/
theorem dropSpace_append_of_eq {symbol : Symbol} (h : dropSpace input = symbol :: rest)
    (more : List Symbol) : dropSpace (input ++ more) = symbol :: (rest ++ more) := by
  rw [dropSpace_append (by rw [h]; exact List.cons_ne_nil _ _), h, List.cons_append]

/-! ### Strings -/

/-- Each digit has one value. -/
theorem length_hexValues {digits : List Symbol} {values : List Nat}
    (h : digits.mapM hexValue? = some values) : values.length = digits.length := by
  induction digits generalizing values with
  | nil =>
    cases h
    rfl
  | cons digit digits ih =>
    rw [List.mapM_cons] at h
    obtain ⟨value, _, h⟩ := Option.bind_eq_some_iff.1 h
    obtain ⟨others, hothers, h⟩ := Option.bind_eq_some_iff.1 h
    cases h
    rw [List.length_cons, List.length_cons, ih hothers]

/-- Four digits are read from the front. -/
theorem readHex_append {n : Nat} (h : readHex input = .ok (n, rest)) (more : List Symbol) :
    readHex (input ++ more) = .ok (n, rest ++ more) := by
  unfold readHex at h ⊢
  split at h
  · next a b c d hdigits =>
    have hfour := length_hexValues hdigits
    rw [List.length_take] at hfour
    have hlength : 4 ≤ input.length := by
      simp only [List.length_cons, List.length_nil] at hfour
      omega
    cases h
    rw [List.take_append_of_le_length hlength, List.drop_append_of_le_length hlength, hdigits]
  · split at h
    · exact nomatch h
    · exact nomatch h

/-- The second half of a pair is over with its four digits. -/
theorem readTrailing_append {leading : Nat} {c : Char}
    (h : readTrailing leading input = .ok (c, rest)) (more : List Symbol) :
    readTrailing leading (input ++ more) = .ok (c, rest ++ more) := by
  unfold readTrailing at h
  split at h
  · exact nomatch h
  · exact nomatch h
  · next after =>
    obtain ⟨⟨trailing, after⟩, hhex, hread⟩ := of_bind_eq_ok h
    simp only [List.cons_append, readTrailing, readHex_append hhex more, bind, Except.bind]
    dsimp only at hread
    split at hread
    · next htrailing =>
      obtain ⟨rfl, rfl⟩ := Prod.mk.inj (Except.ok.inj hread)
      rw [if_pos htrailing]
    · exact nomatch hread
  · exact nomatch h

/-- An escape is over with its letter, or with its digits. -/
theorem readEscape_append {c : Char} (h : readEscape input = .ok (c, rest))
    (more : List Symbol) : readEscape (input ++ more) = .ok (c, rest ++ more) := by
  unfold readEscape at h
  split at h
  case h_2 after =>
    obtain ⟨⟨n, after⟩, hhex, hread⟩ := of_bind_eq_ok h
    simp only [List.cons_append, readEscape, readHex_append hhex more, bind, Except.bind]
    dsimp only at hread
    split at hread
    · exact nomatch hread
    · next htrailing =>
      rw [if_neg htrailing]
      split at hread
      · next hleading =>
        rw [if_pos hleading]
        exact readTrailing_append hread more
      · next hleading =>
        cases hread
        rw [if_neg hleading]
  all_goals cases h <;> rfl

/-- The rounds are only there to bound the recursion: more of them change nothing. -/
theorem readRest_append {rounds later : Nat} {read : List Symbol} {cs : List Char}
    (h : readRest rounds read input = .ok (cs, rest)) (hle : rounds ≤ later)
    (more : List Symbol) : readRest later read (input ++ more) = .ok (cs, rest ++ more) := by
  induction rounds, read, input using readRest.induct generalizing later with
  | case1 | case2 | case4 | case6 => simp_all [readRest]
  | case3 rounds read after chars hchars =>
    obtain ⟨later, rfl⟩ : ∃ k, later = k + 1 := ⟨later - 1, by omega⟩
    rw [readRest, hchars] at h
    cases h
    rw [List.cons_append, readRest, hchars]
  | case5 rounds read after ih =>
    obtain ⟨later, rfl⟩ : ∃ k, later = k + 1 := ⟨later - 1, by omega⟩
    rw [readRest] at h
    obtain ⟨⟨c, after⟩, hescape, hread⟩ := of_bind_eq_ok h
    rw [List.cons_append, readRest]
    simp only [readEscape_append hescape more, bind, Except.bind]
    exact ih c after hread (by omega)
  | case7 rounds read symbol after hquote hslash hcontrol ih =>
    obtain ⟨later, rfl⟩ : ∃ k, later = k + 1 := ⟨later - 1, by omega⟩
    have hround : ∀ k after, readRest (k + 1) read (symbol :: after)
        = readRest k (symbol :: read) after := by
      intro k after
      rw [readRest, if_neg hcontrol]
      · exact hquote
      · exact hslash
    rw [hround] at h
    rw [List.cons_append, hround]
    exact ih h (by omega)

/-- A string is over with its closing mark. -/
theorem readString_append {text : String} (h : readString input = .ok (text, rest))
    (more : List Symbol) : readString (input ++ more) = .ok (text, rest ++ more) := by
  unfold readString at h ⊢
  obtain ⟨⟨cs, after⟩, hread, h⟩ := of_bind_eq_ok h
  cases h
  have hle : input.length + 1 ≤ (input ++ more).length + 1 := by
    rw [List.length_append]
    omega
  simp only [readRest_append hread hle more, bind, Except.bind]

/-- An escape that is passed over ends where one that is read does. -/
theorem skipEscape_append (h : skipEscape input = .ok rest) (more : List Symbol) :
    skipEscape (input ++ more) = .ok (rest ++ more) := by
  unfold skipEscape at h
  split at h
  · exact nomatch h
  · next after =>
    obtain ⟨⟨n, after⟩, hhex, h⟩ := of_bind_eq_ok h
    cases h
    simp only [List.cons_append, skipEscape, readHex_append hhex more, bind, Except.bind]
  · next c after hletter =>
    split at h
    · next hmem =>
      cases h
      rw [List.cons_append, skipEscape, if_pos hmem]
      exact hletter
    · exact nomatch h
  · exact nomatch h

/-- A string is passed over up to its closing mark. With more text there may be more
rounds than it takes. -/
theorem skipRest_append {rounds later : Nat} (h : skipRest rounds input = .ok rest)
    (hle : rounds ≤ later) (more : List Symbol) :
    skipRest later (input ++ more) = .ok (rest ++ more) := by
  induction rounds, input using skipRest.induct generalizing later with
  | case1 | case2 | case5 => simp_all [skipRest]
  | case3 rounds after =>
    obtain ⟨later, rfl⟩ : ∃ k, later = k + 1 := ⟨later - 1, by omega⟩
    cases h
    rfl
  | case4 rounds after ih =>
    obtain ⟨later, rfl⟩ : ∃ k, later = k + 1 := ⟨later - 1, by omega⟩
    rw [skipRest] at h
    obtain ⟨after, hescape, hskip⟩ := of_bind_eq_ok h
    rw [List.cons_append, skipRest]
    simp only [skipEscape_append hescape more, bind, Except.bind]
    exact ih after hskip (by omega)
  | case6 rounds symbol after hquote hslash hcontrol ih =>
    obtain ⟨later, rfl⟩ : ∃ k, later = k + 1 := ⟨later - 1, by omega⟩
    have hround : ∀ k after, skipRest (k + 1) (symbol :: after) = skipRest k after := by
      intro k after
      rw [skipRest, if_neg hcontrol]
      · exact hquote
      · exact hslash
    rw [hround] at h
    rw [List.cons_append, hround]
    exact ih h (by omega)

/-- A string that is passed over ends with its closing mark. -/
theorem skipString_append (h : skipString input = .ok rest) (more : List Symbol) :
    skipString (input ++ more) = .ok (rest ++ more) :=
  skipRest_append h (by rw [List.length_append]; omega) more

end Idempotency.Json
