import Mathlib.Data.List.TakeWhile
import Idempotency.Text.Blank

/-!
# `Idempotency.Proofs.Text.Blank`: trimming a text

Trimming takes blanks from the ends and nothing else. So when more is put after a
text, what trimming leaves of the two together starts with what it leaves of the
first (`trimChars_append`); a text that is all blank leaves no trace
(`trimChars_append_of_blank`).

What is left has no blank at either end (`trimmed_trimChars`), and such a text is left
as it is (`Trimmed.trimChars_eq`). Blanks put around a text do not show once it is
trimmed (`trimChars_padded`).
-/

set_option autoImplicit false

namespace Idempotency.Text

variable {c : Char} {cs more : List Char}

/-- Nothing is dropped before a character that is no blank. -/
theorem trimStart_cons (h : isBlank c = false) (rest : List Char) :
    trimStart (c :: rest) = c :: rest := by
  simp [trimStart, h]

/-- Nothing is dropped after a character that is no blank. -/
theorem trimEnd_concat (h : isBlank c = false) (cs : List Char) :
    trimEnd (cs ++ [c]) = cs ++ [c] := by
  rw [trimEnd, List.reverse_append, List.reverse_singleton, List.singleton_append,
    trimStart_cons h, List.reverse_cons, List.reverse_reverse]

/-- Only a blank text is dropped from the start to its end. -/
theorem trimStart_eq_nil_iff : trimStart cs = [] ↔ ∀ c ∈ cs, isBlank c = true :=
  List.dropWhile_eq_nil_iff

/-- Only a blank text is dropped from the end to its start. -/
theorem trimEnd_eq_nil_iff : trimEnd cs = [] ↔ ∀ c ∈ cs, isBlank c = true := by
  rw [trimEnd, List.reverse_eq_nil_iff, trimStart_eq_nil_iff]
  simp

/-- What is dropped from the end is blank. -/
theorem exists_trimEnd (cs : List Char) :
    ∃ blanks, cs = trimEnd cs ++ blanks ∧ ∀ c ∈ blanks, isBlank c = true := by
  have hsplit := congrArg List.reverse (List.takeWhile_append_dropWhile (p := isBlank)
    (l := cs.reverse))
  rw [List.reverse_append, List.reverse_reverse] at hsplit
  refine ⟨(cs.reverse.takeWhile isBlank).reverse, hsplit.symm, fun c hc => ?_⟩
  exact List.mem_takeWhile_imp (List.mem_reverse.1 hc)

/-- What is dropped from the start does not depend on what follows, if something stays. -/
theorem trimStart_append (h : trimStart cs ≠ []) (more : List Char) :
    trimStart (cs ++ more) = trimStart cs ++ more := by
  unfold trimStart at h ⊢
  rw [List.dropWhile_append, if_neg (by simpa using h)]

/-- A blank text is dropped, and then what is blank behind it. -/
theorem trimStart_append_of_blank (h : ∀ c ∈ cs, isBlank c = true) (more : List Char) :
    trimStart (cs ++ more) = trimStart more := by
  have hnil : cs.dropWhile isBlank = [] := trimStart_eq_nil_iff.2 h
  rw [trimStart, List.dropWhile_append, hnil, List.isEmpty_nil, if_pos rfl,
    trimStart]

/-- A text is blank if trimming leaves nothing. -/
theorem trimChars_eq_nil_iff : trimChars cs = [] ↔ ∀ c ∈ cs, isBlank c = true := by
  rw [trimChars, trimEnd_eq_nil_iff]
  constructor
  · intro hrest c hc
    rw [← List.takeWhile_append_dropWhile (p := isBlank) (l := cs), List.mem_append] at hc
    rcases hc with hc | hc
    · exact List.mem_takeWhile_imp hc
    · exact hrest c hc
  · intro hblank c hc
    exact hblank c ((List.dropWhile_suffix isBlank).mem hc)

/-- A string is blank if trimming leaves nothing. -/
theorem trim_eq_empty_iff {s : String} : trim s = "" ↔ ∀ c ∈ s.toList, isBlank c = true := by
  rw [← trimChars_eq_nil_iff, trim, String.ofList_eq_empty_iff]

/-- What is trimmed from a text that is not blank stays where more that is no
blank follows. -/
theorem trimChars_append (hcs : trimChars cs ≠ []) (h : isBlank c = false) (more : List Char) :
    ∃ blanks, trimChars (cs ++ (more ++ [c])) = trimChars cs ++ (blanks ++ (more ++ [c])) := by
  have hstart : trimStart cs ≠ [] := by
    intro hnil
    rw [trimChars, hnil] at hcs
    exact hcs rfl
  obtain ⟨blanks, hblanks, _⟩ := exists_trimEnd (trimStart cs)
  refine ⟨blanks, ?_⟩
  rw [trimChars, trimStart_append hstart, ← List.append_assoc, trimEnd_concat h, trimChars,
    ← List.append_assoc, ← List.append_assoc, ← hblanks]

/-- A blank text is dropped from before a text that has nothing to trim. -/
theorem trimChars_append_of_blank (hcs : trimChars cs = []) (hmore : trimChars more = more)
    (hstart : trimStart more = more) : trimChars (cs ++ more) = more := by
  rw [trimChars, trimStart_append_of_blank (trimChars_eq_nil_iff.1 hcs), hstart]
  rw [trimChars, hstart] at hmore
  exact hmore

/-! ### Trimmed texts -/

/-- The text has no blank at either end. -/
structure Trimmed (cs : List Char) : Prop where
  first : ∀ c ∈ cs.head?, isBlank c = false
  last : ∀ c ∈ cs.getLast?, isBlank c = false

/-- Nothing is dropped from a text that does not start with a blank. -/
theorem trimStart_eq_self (h : ∀ c ∈ cs.head?, isBlank c = false) : trimStart cs = cs := by
  cases cs with
  | nil => rfl
  | cons c cs => exact trimStart_cons (h c rfl) cs

/-- There is nothing to trim from a trimmed text. -/
theorem Trimmed.trimChars_eq (h : Trimmed cs) : trimChars cs = cs := by
  have hend : trimStart cs.reverse = cs.reverse :=
    trimStart_eq_self (by rw [List.head?_reverse]; exact h.last)
  rw [trimChars, trimStart_eq_self h.first, trimEnd, hend, List.reverse_reverse]

/-- What is left does not start with a blank. -/
theorem isBlank_head_trimStart (cs : List Char) :
    ∀ c ∈ (trimStart cs).head?, isBlank c = false := by
  intro c hc
  have hhead := List.head?_dropWhile_not isBlank cs
  rw [← trimStart, Option.mem_def.1 hc] at hhead
  exact hhead

/-- What is trimmed has no blank at either end. -/
theorem trimmed_trimChars (cs : List Char) : Trimmed (trimChars cs) where
  first c hc := by
    -- What is dropped from the end leaves the first character, unless nothing stays.
    obtain ⟨blanks, hsplit, -⟩ := exists_trimEnd (trimStart cs)
    have hhead : (trimEnd (trimStart cs)).head? = some c := hc
    refine isBlank_head_trimStart cs c ?_
    rw [hsplit, List.head?_append, hhead]
    rfl
  last c hc := by
    rw [trimChars, trimEnd, List.getLast?_reverse] at hc
    exact isBlank_head_trimStart _ c hc

/-- A blank text is dropped from behind another. -/
theorem trimEnd_append_of_blank (h : ∀ c ∈ more, isBlank c = true) (cs : List Char) :
    trimEnd (cs ++ more) = trimEnd cs := by
  rw [trimEnd, List.reverse_append,
    trimStart_append_of_blank (fun c hc => h c (List.mem_reverse.1 hc)), trimEnd]

/-- Blanks around a text do not show once it is trimmed. -/
theorem trimChars_padded {before after : List Char} (hbefore : ∀ c ∈ before, isBlank c = true)
    (hafter : ∀ c ∈ after, isBlank c = true) (cs : List Char) :
    trimChars (before ++ cs ++ after) = trimChars cs := by
  rw [List.append_assoc, trimChars, trimStart_append_of_blank hbefore, trimChars]
  by_cases hcs : trimStart cs = []
  · -- All of it is blank.
    rw [trimStart_append_of_blank (trimStart_eq_nil_iff.1 hcs), hcs,
      trimStart_eq_nil_iff.2 hafter]
  · rw [trimStart_append hcs, trimEnd_append_of_blank hafter]

end Idempotency.Text
