import Idempotency.Proofs.Json.Steady.Basic

/-!
# `Idempotency.Proofs.Json.Steady.Number`: numbers do not depend on what follows

A number ends at the first symbol that cannot go on with it. So the readers of
numbers are steady (`steady_readNumber`), and a number that is passed over ends at
the same place (`skipNumber_append`). Digits that end with the text may go on, so
each statement asks for something after the number.
-/

set_option autoImplicit false

namespace Idempotency.Json

open Idempotency.Text (Symbol)

variable {α : Type} {input rest : List Symbol}

/-- Digits end at the symbol that follows them. -/
theorem takeDigits_append_of_ne_nil {ds : List Nat} (h : takeDigits input = (ds, rest))
    (hrest : rest ≠ []) (more : List Symbol) : takeDigits (input ++ more) = (ds, rest ++ more) := by
  induction input generalizing ds with
  | nil =>
    cases h
    exact absurd rfl hrest
  | cons symbol input ih =>
    rw [takeDigits] at h
    rw [List.cons_append, takeDigits]
    split at h
    · next d hd =>
      obtain ⟨ds, after, htake⟩ : ∃ ds after, takeDigits input = (ds, after) := ⟨_, _, rfl⟩
      rw [htake] at h
      cases h
      simp only [ih htake]
    · next hd =>
      cases h
      rw [List.cons_append]

/-- A text that goes on starts as before. -/
theorem not_starts_append {symbol : Symbol} (hne : input ≠ [])
    (h : ∀ after, input = symbol :: after → False) (more : List Symbol) :
    ∀ after, input ++ more = symbol :: after → False := by
  intro after heq
  cases input with
  | nil => exact hne rfl
  | cons first input => exact h input (by rw [(List.cons.inj heq).1])

/-- The digits of an exponent whose sign has been read. -/
def readShift (g : Gathered) (negative down : Bool) : Reader Number := fun input =>
  match takeDigits input with
  | ([], []) => .error .endInValue
  | ([], _) => .error .invalidNumber
  | (ds, rest) => do
    let shift : Int := digitsValue ds
    let number ←
      { g with exponent := if down then g.exponent - shift else g.exponent + shift }.double negative
    .ok (number, rest)

/-- The text after a sign, if it starts with one. -/
def unsigned : List Symbol → List Symbol
  | .char '+' :: rest => rest
  | .char '-' :: rest => rest
  | input => input

/-- A sign is taken off the front, if there is anything there. -/
theorem unsigned_append (hne : input ≠ []) (more : List Symbol) :
    unsigned (input ++ more) = unsigned input ++ more := by
  cases input with
  | nil => exact absurd rfl hne
  | cons symbol input =>
    by_cases hplus : symbol = .char '+'
    · subst hplus
      rfl
    by_cases hminus : symbol = .char '-'
    · subst hminus
      rfl
    simp [unsigned, hplus, hminus]

/-- An exponent is read in two steps, its sign and then its digits. -/
theorem readExponent_eq (g : Gathered) (negative : Bool) (input : List Symbol) :
    readExponent g negative input
      = readShift g negative (input.head? == some (.char '-')) (unsigned input) := by
  cases input with
  | nil => rfl
  | cons symbol input =>
    by_cases hplus : symbol = .char '+'
    · subst hplus
      rfl
    by_cases hminus : symbol = .char '-'
    · subst hminus
      rfl
    have hdown : (symbol == .char '-') = false := beq_eq_false_iff_ne.2 hminus
    simp [readExponent, unsigned, hplus, hminus, hdown]
    rfl

/-- The digits of an exponent end where another symbol is. -/
theorem steady_readShift (g : Gathered) (negative down : Bool) :
    Steady (readShift g negative down) := by
  intro input value rest more hrest h
  unfold readShift at h ⊢
  obtain ⟨ds, after, htake⟩ : ∃ ds after, takeDigits input = (ds, after) := ⟨_, _, rfl⟩
  rw [htake] at h
  cases ds with
  | nil => cases after <;> exact nomatch h
  | cons d ds =>
    obtain ⟨number, hdouble, h⟩ := of_bind_eq_ok h
    cases h
    rw [takeDigits_append_of_ne_nil htake hrest more]
    simp only [hdouble, bind, Except.bind]

/-- An exponent ends with its digits. -/
theorem steady_readExponent (g : Gathered) (negative : Bool) :
    Steady (readExponent g negative) := by
  intro input value rest more hrest h
  have hne : input ≠ [] := by
    rintro rfl
    exact nomatch h
  have hsign : (input ++ more).head? = input.head? := by
    cases input with
    | nil => exact absurd rfl hne
    | cons symbol input => rfl
  rw [readExponent_eq] at h ⊢
  rw [unsigned_append hne, hsign]
  exact steady_readShift g negative _ _ value rest more hrest h

/-- If no exponent follows, the symbol that does is still there to say so. -/
theorem steady_readScale (g : Gathered) (negative : Bool) : Steady (readScale g negative) := by
  intro input value rest more hrest h
  unfold readScale at h
  split at h
  · exact steady_readExponent g negative _ _ _ more hrest h
  · exact steady_readExponent g negative _ _ _ more hrest h
  · next hsmall hlarge =>
    obtain ⟨number, hdouble, h⟩ := of_bind_eq_ok h
    cases h
    rw [readScale]
    · simp only [hdouble, bind, Except.bind]
    · exact not_starts_append hrest hsmall more
    · exact not_starts_append hrest hlarge more

/-- What is left after a scale was there before it. -/
theorem ne_nil_of_readScale {g : Gathered} {negative : Bool} {value : Number}
    (h : readScale g negative input = .ok (value, rest)) (hrest : rest ≠ []) : input ≠ [] := by
  rintro rfl
  obtain ⟨number, _, h⟩ := of_bind_eq_ok h
  cases h
  exact hrest rfl

/-- Digits after a point end where another symbol is, and so does an exponent after
them. -/
theorem steady_readDecimals (g : Gathered) (negative : Bool) :
    Steady (readDecimals g negative) := by
  intro input value rest more hrest h
  unfold readDecimals at h ⊢
  obtain ⟨ds, after, htake⟩ : ∃ ds after, takeDigits input = (ds, after) := ⟨_, _, rfl⟩
  rw [htake] at h
  cases ds with
  | nil => cases after <;> exact nomatch h
  | cons d ds =>
    rw [takeDigits_append_of_ne_nil htake (ne_nil_of_readScale h hrest) more]
    exact steady_readScale _ negative after value rest more hrest h

/-- The rest of a number after its first digits. -/
def readFurther (g : Gathered) (negative : Bool) : Reader Number
  | .char '.' :: rest => readDecimals g negative rest
  | .char 'e' :: rest => readExponent g negative rest
  | .char 'E' :: rest => readExponent g negative rest
  | rest => do
    let number ← g.integer negative
    .ok (number, rest)

/-- What follows the first digits of a number ends where another symbol is. -/
theorem steady_readFurther (g : Gathered) (negative : Bool) : Steady (readFurther g negative) := by
  intro input value rest more hrest h
  unfold readFurther at h
  split at h
  · exact steady_readDecimals g negative _ _ _ more hrest h
  · exact steady_readExponent g negative _ _ _ more hrest h
  · exact steady_readExponent g negative _ _ _ more hrest h
  · next hpoint hsmall hlarge =>
    obtain ⟨number, hinteger, h⟩ := of_bind_eq_ok h
    cases h
    rw [readFurther]
    · simp only [hinteger, bind, Except.bind]
    · exact not_starts_append hrest hpoint more
    · exact not_starts_append hrest hsmall more
    · exact not_starts_append hrest hlarge more

/-- A number is read by its first digits and what follows them. -/
theorem readNumber_eq (negative : Bool) (input : List Symbol) :
    readNumber negative input
      = match takeDigits input with
        | ([], []) => .error .endInValue
        | ([], _) => .error .invalidNumber
        | (0 :: _ :: _, _) => .error .invalidNumber
        | (ds, rest) => readFurther (ds.foldl Gathered.whole ⟨0, 0, false⟩) negative rest := by
  rfl

/-- What leaves something has been given something. -/
theorem ne_nil_of_readFurther {g : Gathered} {negative : Bool} {value : Number}
    (h : readFurther g negative input = .ok (value, rest)) (hrest : rest ≠ []) : input ≠ [] := by
  rintro rfl
  obtain ⟨number, _, h⟩ := of_bind_eq_ok h
  cases h
  exact hrest rfl

/-- A number ends where another symbol is. -/
theorem steady_readNumber (negative : Bool) : Steady (readNumber negative) := by
  intro input value rest more hrest h
  rw [readNumber_eq] at h ⊢
  obtain ⟨ds, after, htake⟩ : ∃ ds after, takeDigits input = (ds, after) := ⟨_, _, rfl⟩
  have hmore : after ≠ [] → takeDigits (input ++ more) = (ds, after ++ more) := fun hafter =>
    takeDigits_append_of_ne_nil htake hafter more
  rw [htake] at h
  match ds, htake, hmore, h with
  | [], _, _, h => cases after <;> exact nomatch h
  | [d], _, hmore, h =>
    -- Only a second digit would make a difference to a zero.
    have h' : readFurther ([d].foldl Gathered.whole ⟨0, 0, false⟩) negative after
        = .ok (value, rest) := by cases d <;> exact h
    rw [hmore (ne_nil_of_readFurther h' hrest)]
    have hlonger := steady_readFurther _ negative after value rest more hrest h'
    cases d <;> exact hlonger
  | 0 :: _ :: _, _, _, h => exact nomatch h
  | (d + 1) :: e :: ds, _, hmore, h =>
    rw [hmore (ne_nil_of_readFurther h hrest)]
    exact steady_readFurther _ negative after value rest more hrest h

/-! ### Numbers that are passed over -/

/-- The digits of an exponent whose sign has been passed over. -/
def skipShift (input : List Symbol) : Except Error (List Symbol) :=
  match takeDigits input with
  | ([], _) => .error .invalidNumber
  | (_, rest) => .ok rest

/-- An exponent that is passed over ends where another symbol is. -/
theorem skipExponent_append (h : skipExponent input = .ok rest) (hrest : rest ≠ [])
    (more : List Symbol) : skipExponent (input ++ more) = .ok (rest ++ more) := by
  have hne : input ≠ [] := by
    rintro rfl
    exact nomatch h
  have heq : ∀ input, skipExponent input = skipShift (unsigned input) := fun _ => rfl
  rw [heq, skipShift] at h ⊢
  obtain ⟨ds, after, htake⟩ : ∃ ds after, takeDigits (unsigned input) = (ds, after) := ⟨_, _, rfl⟩
  rw [htake] at h
  cases ds with
  | nil => exact nomatch h
  | cons d ds =>
    cases h
    rw [unsigned_append hne, takeDigits_append_of_ne_nil htake hrest more]

/-- So it does where there may be none. -/
theorem skipScale_append (h : skipScale input = .ok rest) (hrest : rest ≠ [])
    (more : List Symbol) : skipScale (input ++ more) = .ok (rest ++ more) := by
  unfold skipScale at h
  split at h
  · exact skipExponent_append h hrest more
  · exact skipExponent_append h hrest more
  · next hsmall hlarge =>
    cases h
    rw [skipScale]
    · exact not_starts_append hrest hsmall more
    · exact not_starts_append hrest hlarge more

/-- What passing over an exponent leaves was there before. -/
theorem ne_nil_of_skipScale (h : skipScale input = .ok rest) (hrest : rest ≠ []) :
    input ≠ [] := by
  rintro rfl
  cases h
  exact hrest rfl

/-- Passes over the digits after a point, if a point follows, and an exponent. -/
def skipDecimals (input : List Symbol) : Except Error (List Symbol) :=
  match input with
  | .char '.' :: rest =>
    match takeDigits rest with
    | ([], _) => .error .invalidNumber
    | (_, rest) => skipScale rest
  | rest => skipScale rest

/-- Digits after a point that are passed over end where another symbol is. -/
theorem skipDecimals_append (h : skipDecimals input = .ok rest) (hrest : rest ≠ [])
    (more : List Symbol) : skipDecimals (input ++ more) = .ok (rest ++ more) := by
  unfold skipDecimals at h
  split at h
  · next digits =>
    obtain ⟨ds, after, htake⟩ : ∃ ds after, takeDigits digits = (ds, after) := ⟨_, _, rfl⟩
    rw [htake] at h
    cases ds with
    | nil => exact nomatch h
    | cons d ds =>
      rw [List.cons_append, skipDecimals,
        takeDigits_append_of_ne_nil htake (ne_nil_of_skipScale h hrest) more]
      exact skipScale_append h hrest more
  · next hpoint =>
    rw [skipDecimals]
    · exact skipScale_append h hrest more
    · exact not_starts_append (ne_nil_of_skipScale h hrest) hpoint more

/-- Only the number of digits before the point and their first one matter. -/
theorem skipNumber_eq (input : List Symbol) :
    skipNumber input = match (takeDigits input).1 with
      | [] => .error .invalidNumber
      | 0 :: _ :: _ => .error .invalidNumber
      | _ => skipDecimals (takeDigits input).2 := by
  unfold skipNumber skipDecimals
  split
  · next heq => rw [heq]
  · next heq =>
    rw [heq]
    rfl
  · next ds after hnil hzero heq =>
    rw [heq]
    match ds with
    | [] => exact (hnil rfl).elim
    | [0] => rfl
    | [d + 1] => rfl
    | 0 :: e :: ds => exact (hzero e ds rfl).elim
    | (d + 1) :: e :: ds => rfl
  · next ds after hnil hzero hpoint heq =>
    rw [heq]
    have hdecimals : skipDecimals after = skipScale after := by
      rw [skipDecimals]
      exact hpoint
    match ds with
    | [] => exact (hnil rfl).elim
    | [0] => exact hdecimals.symm
    | [d + 1] => exact hdecimals.symm
    | 0 :: e :: ds => exact (hzero e ds rfl).elim
    | (d + 1) :: e :: ds => exact hdecimals.symm

/-- A number that is passed over ends where another symbol is. -/
theorem skipNumber_append (h : skipNumber input = .ok rest) (hrest : rest ≠ [])
    (more : List Symbol) : skipNumber (input ++ more) = .ok (rest ++ more) := by
  rw [skipNumber_eq] at h ⊢
  have hafter : (takeDigits input).2 ≠ [] := by
    rintro hnil
    rw [hnil] at h
    split at h
    · exact nomatch h
    · exact nomatch h
    · cases h
      exact hrest rfl
  have htake : takeDigits input = ((takeDigits input).1, (takeDigits input).2) := rfl
  rw [takeDigits_append_of_ne_nil htake hafter more]
  split at h
  · exact nomatch h
  · exact nomatch h
  · exact skipDecimals_append h hrest more

end Idempotency.Json
