import Idempotency.Proofs.Journal.Replay

/-!
# `Idempotency.Proofs.Journal.Cover`: when a file stands for an index

A file keeps the lines of records long after the index has dropped them, and of
one key there may be several, of different requests. `Covers now rs ix` is what
is still true: apart from what has expired at `now`, the records on the lines
are the records of the index.

What an index goes through keeps it: time passes (`Covers.mono`), expired
records are dropped (`Covers.of_find?`), a record is stored and its line
appended (`Covers.store`). So a replay finds the index again, without what has
expired (`Covers.replay`).
-/

set_option autoImplicit false

namespace Idempotency.Journal

/-- Of what has not expired, the lines and the index have the same. -/
structure Covers (now : Instant) (rs : List Record) (ix : Index) : Prop where
  indexed : ∀ r ∈ rs, r.isExpiredAt now = false → ix.find? r.key = some r
  written : ∀ r, ix.find? r.key = some r → r.isExpiredAt now = false → r ∈ rs

variable {now late : Instant} {rs : List Record} {ix ix' : Index} {r : Record}

/-- An index without records goes with no lines. -/
theorem covers_empty (now : Instant) : Covers now [] .empty :=
  ⟨fun _ h => (nomatch h), fun _ h => (nomatch h)⟩

/-- The lines of an index cover it. -/
theorem covers_toList (now : Instant) (ix : Index) : Covers now ix.toList ix :=
  ⟨fun _ hmem _ => Index.mem_toList.1 hmem, fun _ hfind _ => Index.mem_toList.2 hfind⟩

/-- As time passes, there is less to agree on. -/
theorem Covers.mono (h : Covers now rs ix) (hle : now ≤ late) : Covers late rs ix where
  indexed r hr hlive := h.indexed r hr (Record.live_of_le hle hlive)
  written r hfind hlive := h.written r hfind (Record.live_of_le hle hlive)

/-- The file still covers an index that differs in expired records only. -/
theorem Covers.of_find? (h : Covers now rs ix)
    (hsame : ∀ r, r.isExpiredAt now = false →
      (ix'.find? r.key = some r ↔ ix.find? r.key = some r)) : Covers now rs ix' where
  indexed r hr hlive := (hsame r hlive).2 (h.indexed r hr hlive)
  written r hfind hlive := h.written r ((hsame r hlive).1 hfind) hlive

/-- A sweep of the index leaves the file covering it. -/
theorem Covers.live (h : Covers now rs ix) : Covers now rs (ix.live now) := by
  refine h.of_find? fun r hlive => ?_
  rw [Index.find?_live, Option.filter_eq_some_iff, hlive]
  simp

/-- So does a lookup, which drops a record only if it has expired. -/
theorem Covers.lookup (h : Covers now rs ix) (key : String) :
    Covers now rs (ix.lookup key now).index := by
  refine h.of_find? fun r hlive => ?_
  rw [Index.find?_lookup]
  split
  · next hkey =>
    rw [hkey, Option.filter_eq_some_iff, hlive]
    simp
  · exact Iff.rfl

/-- A record is stored under a free key, and its line comes after the others. -/
theorem Covers.store (h : Covers now rs ix) (hfree : ix.find? r.key = none) :
    Covers now (rs ++ [r]) (ix.store r) where
  indexed a ha hlive := by
    rw [Index.find?_store]
    rcases List.mem_append.1 ha with ha | ha
    · have hfind := h.indexed a ha hlive
      split
      · next hkey =>
        rw [hkey, hfree] at hfind
        exact nomatch hfind
      · exact hfind
    · rw [List.mem_singleton.1 ha, if_pos rfl]
  written a hfind hlive := by
    rw [Index.find?_store] at hfind
    split at hfind
    · cases hfind
      exact List.mem_append_right rs List.mem_cons_self
    · exact List.mem_append_left _ (h.written a hfind hlive)

/-- Of one key, what has not expired is one record. -/
theorem Covers.consistent (h : Covers now rs ix) : Consistent now rs := by
  intro a ha b hb halive hblive hkey
  have hfind := h.indexed a ha halive
  rw [hkey, h.indexed b hb hblive] at hfind
  rw [Option.some.inj hfind]

/-- A replay of the lines has the index of before, without what has expired. -/
theorem Covers.replay (h : Covers now rs ix) :
    ∃ s, Journal.replay now (rs.flatMap line) = .ok s ∧ s.index = ix.live now := by
  obtain ⟨s, htake, hholds⟩ :=
    Replay.holds_takeAll (Replay.holds_start now) h.consistent
  refine ⟨s, by rw [replay_lines, htake], ?_⟩
  refine Index.ext_find? fun key => Option.ext fun r => ?_
  rw [Index.find?_live, Option.filter_eq_some_iff]
  constructor
  · intro hfind
    have hstays := hholds.stays key r hfind
    rw [← Index.key_of_find? hfind]
    exact ⟨h.indexed r hstays.mem hstays.live, by rw [hstays.live]; rfl⟩
  · rintro ⟨hfind, hlive⟩
    -- The record is on a line, so the replay holds one for the key, and that is in
    -- the index too.
    have hlive' : r.isExpiredAt now = false := by simpa using hlive
    have hkey := Index.key_of_find? hfind
    subst hkey
    have hmem := h.written r hfind hlive'
    cases hheld : s.index.find? r.key with
    | none => exact absurd (hholds.expired r hmem hheld) (by rw [hlive']; decide)
    | some held =>
      have hstays := hholds.stays r.key held hheld
      have hindexed := h.indexed held hstays.mem hstays.live
      rw [Index.key_of_find? hheld, hfind] at hindexed
      rw [Option.some.inj hindexed]

end Idempotency.Journal
