import Idempotency.Proofs.Text.Blank
import Idempotency.Proofs.Text.Utf8
import Idempotency.Text.LowerCase

/-!
# `Idempotency.Proofs.Text.LowerCase`: lower case stays lower case

A character is `Settled` if the mapping takes it nowhere and it is none of the two that
the mapping leaves out. Where a run of the table takes a character, no run takes what
comes of it further, and it is neither of the two (`settled_lower`): that is read off the
table. So lower-casing leaves settled characters only, and leaves them where they are,
whatever stands around them (`lowerChars_lowerChars`). What a word ends with is looked
at for capital sigma alone, and that is not settled.

No character becomes a blank (`isBlank_of_mem_lowerAt`), so a trimmed text is trimmed in
lower case (`Trimmed.lowerChars`).
-/

set_option autoImplicit false

namespace Idempotency.Text

variable {c x : Char} {n : Nat} {run : CaseRun} {cs before after : List Char}

/-! ### The table -/

/-- Whether the run has code points between the two. -/
def CaseRun.meets (run : CaseRun) (low high : Nat) : Bool :=
  Nat.ble run.first high && Nat.ble low run.last

/-- Whether a code point is a character that none of the runs takes anywhere, not a blank,
and none of the two that the runs leave out. -/
def isSettled (runs : List CaseRun) (n : Nat) : Bool :=
  n.isValidChar && !runs.any (·.covers n) && !isBlank (Char.ofNat n)
    && n != 'Σ'.toNat && n != 'İ'.toNat

/-- Whether no code point of the run is taken further. Only the runs that meet what comes
of it are looked at. -/
def CaseRun.settles (run : CaseRun) : Bool :=
  let runs := caseRuns.filter (·.meets (run.lower run.first) (run.lower run.last))
  (List.range ((run.last - run.first) / run.step + 1)).all fun i =>
    isSettled runs (run.lower (run.first + i * run.step))

/-- What the table says. -/
theorem settles_of_mem : ∀ run ∈ caseRuns, run.settles = true := by
  decide +kernel

/-- A run keeps the order of its code points. -/
theorem CaseRun.lower_le {m : Nat} (h : m ≤ n) : run.lower m ≤ run.lower n := by
  unfold lower
  omega

/-- The code points of a run, one by one. -/
theorem CaseRun.exists_of_covers (h : run.covers n = true) :
    ∃ i < (run.last - run.first) / run.step + 1, n = run.first + i * run.step := by
  simp only [covers, Bool.and_eq_true, decide_eq_true_eq, beq_iff_eq] at h
  obtain ⟨⟨hfirst, hlast⟩, hstep⟩ := h
  refine ⟨(n - run.first) / run.step, ?_, ?_⟩
  · have hle : (n - run.first) / run.step ≤ (run.last - run.first) / run.step :=
      Nat.div_le_div_right (by omega)
    omega
  · rw [Nat.div_mul_cancel (Nat.dvd_of_mod_eq_zero hstep)]
    omega

/-- A run that covers a code point meets what it lies between. -/
theorem CaseRun.meets_of_covers {low high : Nat} (h : run.covers n = true) (hlow : low ≤ n)
    (hhigh : n ≤ high) : run.meets low high = true := by
  simp only [covers, Bool.and_eq_true, decide_eq_true_eq, beq_iff_eq] at h
  rw [meets, Bool.and_eq_true, Nat.ble_eq, Nat.ble_eq]
  omega

/-- What comes of a run's code point is settled. -/
theorem isSettled_lower (hrun : run ∈ caseRuns) (hcovers : run.covers n = true) :
    isSettled caseRuns (run.lower n) = true := by
  have hsettles := settles_of_mem run hrun
  obtain ⟨i, hi, hn⟩ := CaseRun.exists_of_covers hcovers
  simp only [CaseRun.settles, List.all_eq_true, List.mem_range] at hsettles
  have hsettled := hsettles i hi
  rw [← hn] at hsettled
  -- A run that would take it further meets what comes of this run.
  simp only [CaseRun.covers, Bool.and_eq_true, decide_eq_true_eq] at hcovers
  simp only [isSettled, Bool.and_eq_true, Bool.not_eq_true', List.any_eq_false,
    List.mem_filter] at hsettled ⊢
  obtain ⟨⟨⟨⟨hvalid, huncovered⟩, hblank⟩, hsigma⟩, hdotted⟩ := hsettled
  refine ⟨⟨⟨⟨hvalid, fun other hother htaken => ?_⟩, hblank⟩, hsigma⟩, hdotted⟩
  exact huncovered other ⟨hother, CaseRun.meets_of_covers htaken
    (CaseRun.lower_le hcovers.1.1) (CaseRun.lower_le hcovers.1.2)⟩ htaken

/-! ### Characters -/

/-- The mapping takes the character nowhere, and it is none of the two that are not in the
table. -/
structure Settled (c : Char) : Prop where
  uncovered : ∀ run ∈ caseRuns, run.covers c.toNat = false
  ne_sigma : c ≠ 'Σ'
  ne_dotted : c ≠ 'İ'

/-- What the test says of a code point is so of its character. -/
theorem settled_of_isSettled (h : isSettled caseRuns c.toNat = true) :
    Settled c ∧ isBlank c = false := by
  simp only [isSettled, Bool.and_eq_true, Bool.not_eq_true', List.any_eq_false, bne_iff_ne,
    Bool.not_eq_true, Char.ofNat_toNat] at h
  obtain ⟨⟨⟨⟨-, huncovered⟩, hblank⟩, hsigma⟩, hdotted⟩ := h
  exact ⟨⟨huncovered, fun h => hsigma (congrArg Char.toNat h),
    fun h => hdotted (congrArg Char.toNat h)⟩, hblank⟩

/-- The mapping settles every character but the two that are not in the table, and makes
no blank. -/
theorem lowerChar_spec (hsigma : c ≠ 'Σ') (hdotted : c ≠ 'İ') :
    Settled (lowerChar c) ∧ (isBlank c = false → isBlank (lowerChar c) = false) := by
  unfold lowerChar
  cases hfind : caseRuns.find? (·.covers c.toNat) with
  | none =>
    have huncovered := List.find?_eq_none.1 hfind
    simp only [Bool.not_eq_true] at huncovered
    exact ⟨⟨huncovered, hsigma, hdotted⟩, id⟩
  | some run =>
    have hcovers := List.find?_some hfind
    have hsettled := isSettled_lower (List.mem_of_find?_eq_some hfind) hcovers
    have hvalid : (run.lower c.toNat).isValidChar := by
      simp only [isSettled, Bool.and_eq_true, decide_eq_true_eq] at hsettled
      exact hsettled.1.1.1.1
    rw [← toNat_charOfNat hvalid] at hsettled
    exact (settled_of_isSettled hsettled).imp_right fun hblank _ => hblank

/-- What comes of a character is settled, and no blank unless the character is one. -/
theorem lowerAt_spec (h : x ∈ lowerAt before c after) :
    Settled x ∧ (isBlank c = false → isBlank x = false) := by
  unfold lowerAt at h
  split at h
  · -- The two forms of small sigma.
    split at h
    · obtain rfl := List.mem_singleton.1 h
      exact (settled_of_isSettled (by decide +kernel)).imp_right fun hblank _ => hblank
    · obtain rfl := List.mem_singleton.1 h
      exact (settled_of_isSettled (by decide +kernel)).imp_right fun hblank _ => hblank
  · next hsigma =>
    split at h
    · -- Small I, and its dot.
      simp only [List.mem_cons, List.not_mem_nil, or_false] at h
      rcases h with rfl | rfl
      · exact (settled_of_isSettled (by decide +kernel)).imp_right fun hblank _ => hblank
      · exact (settled_of_isSettled (by decide +kernel)).imp_right fun hblank _ => hblank
    · next hdotted =>
      obtain rfl := List.mem_singleton.1 h
      exact lowerChar_spec hsigma hdotted

/-- A settled character stays where it is, whatever stands around it. -/
theorem Settled.lowerAt_eq (h : Settled c) (before after : List Char) :
    lowerAt before c after = [c] := by
  have hfind : caseRuns.find? (·.covers c.toNat) = none :=
    List.find?_eq_none.2 fun run hrun => by rw [h.uncovered run hrun]; exact Bool.false_ne_true
  rw [lowerAt, if_neg h.ne_sigma, if_neg h.ne_dotted, lowerChar, hfind]

/-- Something comes of each character. -/
theorem lowerAt_ne_nil (before : List Char) (c : Char) (after : List Char) :
    lowerAt before c after ≠ [] := by
  unfold lowerAt
  split
  · split
    · exact List.cons_ne_nil _ _
    · exact List.cons_ne_nil _ _
  · split
    · exact List.cons_ne_nil _ _
    · exact List.cons_ne_nil _ _

/-! ### Texts -/

/-- A text in lower case has settled characters only. -/
theorem settled_of_mem_lowerFrom (h : x ∈ lowerFrom before cs) : Settled x := by
  induction cs generalizing before with
  | nil => exact nomatch h
  | cons c cs ih =>
    rcases List.mem_append.1 h with h | h
    · exact (lowerAt_spec h).1
    · exact ih h

/-- A text of settled characters stays as it is. -/
theorem lowerFrom_of_settled (h : ∀ c ∈ cs, Settled c) (before : List Char) :
    lowerFrom before cs = cs := by
  induction cs generalizing before with
  | nil => rfl
  | cons c cs ih =>
    rw [lowerFrom, (h c List.mem_cons_self).lowerAt_eq,
      ih (fun d hd => h d (List.mem_cons_of_mem c hd))]
    rfl

/-- Text in lower case is not changed by lower-casing. -/
theorem lowerChars_lowerChars (cs : List Char) : lowerChars (lowerChars cs) = lowerChars cs :=
  lowerFrom_of_settled (fun _ => settled_of_mem_lowerFrom) []

/-- A text in lower case ends with what comes of its last character. -/
theorem exists_lowerFrom_concat (before cs : List Char) (c : Char) :
    ∃ front, lowerFrom before (cs ++ [c]) = front ++ lowerAt (cs.reverse ++ before) c [] := by
  induction cs generalizing before with
  | nil => exact ⟨[], by simp [lowerFrom]⟩
  | cons d cs ih =>
    obtain ⟨front, hfront⟩ := ih (d :: before)
    refine ⟨lowerAt before d (cs ++ [c]) ++ front, ?_⟩
    rw [List.cons_append, lowerFrom, hfront, List.reverse_cons, List.append_assoc,
      List.append_assoc]
    rfl

/-- A trimmed text is trimmed in lower case. -/
theorem Trimmed.lowerChars (h : Trimmed cs) : Trimmed (lowerChars cs) where
  first x hx := by
    cases cs with
    | nil => exact nomatch hx
    | cons c cs =>
      obtain ⟨y, ys, hlower⟩ := List.exists_cons_of_ne_nil (lowerAt_ne_nil [] c cs)
      rw [Text.lowerChars, lowerFrom, hlower] at hx
      cases hx
      exact (lowerAt_spec (by rw [hlower]; exact List.mem_cons_self)).2 (h.first c rfl)
  last x hx := by
    rcases List.eq_nil_or_concat cs with rfl | ⟨front, c, rfl⟩
    · exact nomatch hx
    · obtain ⟨ys, hlower⟩ := exists_lowerFrom_concat [] front c
      have hlast := List.getLast?_eq_some_getLast (lowerAt_ne_nil (front.reverse ++ []) c [])
      rw [List.concat_eq_append, Text.lowerChars, hlower, List.getLast?_append, hlast] at hx
      cases hx
      refine (lowerAt_spec (List.mem_of_getLast? hlast)).2 (h.last c ?_)
      rw [List.concat_eq_append, List.getLast?_concat]
      rfl

end Idempotency.Text
