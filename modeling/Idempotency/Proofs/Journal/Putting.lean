import Idempotency.Proofs.Journal.Stands

/-!
# `Idempotency.Proofs.Journal.Putting`: what a put leaves, whatever happens

Giving a journal a record comes to one of three things (`put_cases`): the key is
taken and nothing happens; the record is in the index and its line at the end of
the file; or a step on the disk failed, the index is as before, and some of the
line may be at the end of the file.
-/

set_option autoImplicit false

namespace Idempotency.Journal

variable {j j' : Journal} {d d' : Disk} {content p : Bytes} {r : Record}

/-- The file has the bytes at its end and the journal stands behind them. It is at
its path, and no file or directory has come or gone. -/
structure Adds (j : Journal) (d : Disk) (content p : Bytes) (j' : Journal) (d' : Disk) :
    Prop where
  path : j'.path = j.path
  stands : j'.Stands d' (content ++ p)
  entries : d'.entries = d.entries

/-- Some of a line gets into the file, and all of it if no step fails. -/
theorem append_adds {fault : Option Fault} (h : j.Stands d content)
    (happend : j.append r d = (fault, j', d')) :
    j'.index = j.index ∧ ∃ p, p <+: line r ∧ (fault = none → p = line r)
      ∧ j.Adds d content p j' d' := by
  have hlt := Disk.lt_of_entryAt h.entry
  unfold append at happend
  simp only at happend
  obtain ⟨p, hcut, hextends⟩ := Disk.writeAll_extends hlt h.atEnd (pieces r)
  have hstands : ({ j with handle := (d.writeAll j.handle (pieces r)).handle } : Journal).Stands
      (d.writeAll j.handle (pieces r)).disk (content ++ p) := by
    refine ⟨?_, ?_, hextends.atEnd⟩
    · rw [Disk.entryAt_congr hextends.entries, hextends.file]
      exact h.entry
    · rw [hextends.file, hextends.read, h.holds]
  rw [flatten_pieces] at hcut
  split at happend
  · cases happend
    exact ⟨rfl, p, hcut, nofun, rfl, hstands, hextends.entries⟩
  · next hfault =>
    -- What the file holds says how much was written.
    have hwhole := Disk.writeAll_ok hlt h.atEnd hfault
    have hp : p = line r := by
      have hsame := hextends.read.symm.trans hwhole.read
      rw [flatten_pieces] at hsame
      exact List.append_cancel_left hsame
    simp only [Prod.mk.injEq] at happend
    obtain ⟨_, rfl, rfl⟩ := happend
    exact ⟨rfl, p, hcut, fun _ => hp, rfl,
      hstands.congr (Disk.entries_sync _) (Disk.contents_sync _),
      (Disk.entries_sync _).trans hextends.entries⟩

/-- A put under a key that is taken touches nothing. -/
theorem put_of_held {held : Record} (hheld : j.index.find? r.key = some held) (d : Disk) :
    j.put r d = (if held.requestHash = r.requestHash then .ok .duplicate
      else .error (.conflict r.key), j, d) := by
  unfold put Index.judge Record.judge
  rw [hheld]
  by_cases hhash : held.requestHash = r.requestHash
  · simp only [hhash, if_true]
  · simp only [hhash, if_false]

/-- Bringing a record into the file leaves the journal where it is. -/
theorem path_append (j : Journal) (r : Record) (d : Disk) :
    (j.append r d).2.1.path = j.path := by
  unfold append
  dsimp only
  split
  · rfl
  · rfl

/-- A put leaves the journal where it is. -/
theorem path_put (j : Journal) (r : Record) (d : Disk) : (j.put r d).2.1.path = j.path := by
  have happend := path_append j r d
  unfold put
  split
  · rfl
  · rfl
  · split
    · next heq => rw [← happend, heq]
    · next heq => rw [← happend, heq]

/-- What a put comes to. -/
theorem put_cases (h : j.Stands d content) (r : Record) :
    (∃ held, j.index.find? r.key = some held
      ∧ j.put r d = (if held.requestHash = r.requestHash then .ok .duplicate
          else .error (.conflict r.key), j, d))
    ∨ j.index.find? r.key = none ∧ ((∃ j' d', j.put r d = (.ok .inserted, j', d')
        ∧ j'.index = j.index.store r ∧ j.Adds d content (line r) j' d')
      ∨ ∃ j' d' p, j.put r d = (.error (appendRefusal j.path), j', d')
        ∧ j'.index = j.index ∧ p <+: line r ∧ j.Adds d content p j' d') := by
  cases hheld : j.index.find? r.key with
  | some held => exact .inl ⟨held, rfl, put_of_held hheld d⟩
  | none =>
    refine .inr ⟨rfl, ?_⟩
    unfold put
    simp only [Index.judge_eq_none_iff.2 hheld]
    cases happend : j.append r d with
    | mk fault rest =>
      obtain ⟨j', d'⟩ := rest
      obtain ⟨hindex, p, hcut, hwhole, hadds⟩ := append_adds h happend
      cases fault with
      | some fault =>
        refine .inr ⟨j', d', p, ?_, hindex, hcut, hadds⟩
        simp only [hadds.path]
      | none =>
        obtain rfl := hwhole rfl
        refine .inl ⟨{ j' with index := j'.index.store r }, d', rfl, by rw [hindex], hadds.path,
          hadds.stands.withIndex _, hadds.entries⟩

end Idempotency.Journal
