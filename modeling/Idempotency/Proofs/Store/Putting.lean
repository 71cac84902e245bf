import Idempotency.Store

/-!
# `Idempotency.Proofs.Store.Putting`: what a put makes of the records

A store that is given a record stores it under a key that was free and says so, or
leaves its index as it was (`Index.Takes`). That is so in memory and in a journal,
whatever steps on the disk fail: a record gets into the index of a journal only after
its line has got into the file.
-/

set_option autoImplicit false

namespace Idempotency

namespace Index

/-- A put that says that it has inserted the record has done so, under a key that was
free. Any other put has changed nothing. -/
def Takes (ix : Index) (r : Record) (placed : Except Refusal Placement) (ix' : Index) : Prop :=
  placed = .ok .inserted ∧ ix.find? r.key = none ∧ ix' = ix.store r
    ∨ placed ≠ .ok .inserted ∧ ix' = ix

end Index

namespace Journal

/-- Appending a line does not touch the index. -/
theorem index_append (j : Journal) (r : Record) (d : Disk) :
    (j.append r d).2.1.index = j.index := by
  unfold append
  dsimp only
  split
  · rfl
  · rfl

/-- A put on a journal inserts its record under a free key, or leaves the index as it
is. -/
theorem takes_put (j : Journal) (r : Record) (d : Disk) :
    j.index.Takes r (j.put r d).1 (j.put r d).2.1.index := by
  unfold put
  cases hjudge : j.index.judge r with
  | error refusal => exact .inr ⟨nofun, rfl⟩
  | ok judged =>
    cases judged with
    | some placement =>
      refine .inr ⟨?_, rfl⟩
      -- Only what is already there is judged without being stored.
      rintro hinserted
      cases hinserted
      unfold Index.judge Record.judge at hjudge
      split at hjudge
      · cases hjudge
      · split at hjudge
        · cases hjudge
        · cases hjudge
    | none =>
      have hindex := j.index_append r d
      cases happend : j.append r d with
      | mk fault rest =>
        obtain ⟨j', d'⟩ := rest
        rw [happend] at hindex
        cases fault with
        | some fault => exact .inr ⟨nofun, hindex⟩
        | none =>
          exact .inl ⟨rfl, Index.judge_eq_none_iff.1 hjudge, congrArg (Index.store · r) hindex⟩

end Journal

namespace Store

/-- A store given an index has it. -/
theorem index_withIndex (s : Store) (ix : Index) : (s.withIndex ix).index = ix := by
  cases s with
  | memory _ => rfl
  | journal j => rfl

/-- A put on either store inserts its record under a free key, or leaves the index as it
is. -/
theorem takes_put (s : Store) (r : Record) (d : Disk) :
    s.index.Takes r (s.put r d).1 (s.put r d).2.1.index := by
  cases s with
  | journal j => exact j.takes_put r d
  | memory ix =>
    unfold Store.put
    cases hheld : ix.find? r.key with
    | none =>
      simp only [Index.put_of_free hheld]
      exact .inl ⟨rfl, hheld, rfl⟩
    | some held =>
      simp only [Index.put_of_held hheld]
      by_cases hhash : held.requestHash = r.requestHash
      · simp only [hhash, if_true]
        exact .inr ⟨nofun, rfl⟩
      · simp only [hhash, if_false]
        exact .inr ⟨nofun, rfl⟩

end Store

end Idempotency
