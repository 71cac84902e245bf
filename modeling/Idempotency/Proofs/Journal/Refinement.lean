import Idempotency.Proofs.Journal.Cover
import Idempotency.Proofs.Store.Undisturbed

/-!
# `Idempotency.Proofs.Journal.Refinement`: a journal answers like a store in memory

A store in memory loses nothing that it does not drop, and knows no restarts. A
journal is compacted and opened again, and what it has dropped is still on its
file. `run_eq_memory` says that no reply tells them apart: from a file that is
not there or empty, as long as no step on the disk fails and the times do not go
back, every request gets the same reply from both, and leaves the same index.
For the store in memory, compacting and opening again are sweeps.

The proof is a simulation. `Mirrors` says that the indexes are the same, and
that the file at the journal's path has lines that cover them
(`Journal.Covers`). Each request keeps it (`Mirrors.serve`).
-/

set_option autoImplicit false

namespace Idempotency.Store

/-! ### The simulation -/

/-- At an instant, a journal on a disk is as good as an index in memory. -/
structure Mirrors (now : Instant) (j : Journal) (d : Disk) (ix : Index) : Prop where
  index : j.index = ix
  lines : ∃ rs, j.Stands d (rs.flatMap Journal.line) ∧ Journal.Covers now rs ix

/-- The request gets one reply from both, and they stay as good as each
other. -/
def Alike (request : Request) (j : Journal) (d : Disk) (ix : Index) (now : Instant) : Prop :=
  ∃ reply j' d' ix', serve request (.journal j) d = (reply, .journal j', d')
    ∧ (∀ d₀, serve request (.memory ix) d₀ = (reply, .memory ix', d₀)) ∧ Mirrors now j' d' ix'

variable {now moment : Instant} {j : Journal} {d : Disk} {ix : Index}

/-- A lookup gets the same reply from both. -/
theorem Mirrors.get (h : Mirrors now j d ix) (hle : now ≤ moment) (key : String) :
    Alike (.get key moment) j d ix moment := by
  obtain ⟨rfl, rs, hstands, hcovers⟩ := h
  exact ⟨_, _, _, _, rfl, fun _ => rfl, rfl, rs, hstands.withIndex _,
    (hcovers.mono hle).lookup key⟩

/-- A sweep drops the same records from both. -/
theorem Mirrors.purge (h : Mirrors now j d ix) (hle : now ≤ moment) :
    Alike (.purge moment) j d ix moment := by
  obtain ⟨rfl, rs, hstands, hcovers⟩ := h
  exact ⟨_, _, _, _, rfl, fun _ => rfl, rfl, rs, hstands.withIndex _, (hcovers.mono hle).live⟩

/-- Both have the same number of records. -/
theorem Mirrors.size (h : Mirrors now j d ix) : Alike .size j d ix now := by
  obtain ⟨rfl, rs, hstands, hcovers⟩ := h
  exact ⟨_, _, _, _, rfl, fun _ => rfl, rfl, rs, hstands, hcovers⟩

/-- A record goes to the index and to the end of the file, or to neither. -/
theorem Mirrors.put (h : Mirrors now j d ix) (r : Record)
    (hfault : (serve (.put r) (.journal j) d).1.isFault = false) :
    Alike (.put r) j d ix now := by
  obtain ⟨rfl, rs, hstands, hcovers⟩ := h
  -- Both decide by the index, and only a record with a free key is written.
  cases hjudge : j.index.judge r with
  | error refusal =>
    have hmemory : j.index.put r = .error refusal := by
      simp only [Index.put, hjudge, bind, Except.bind]
    have hjournal : j.put r d = (.error refusal, j, d) := by
      simp only [Journal.put, hjudge]
    refine ⟨.placed (.error refusal), j, d, j.index, ?_, fun d₀ => ?_, rfl, rs, hstands, hcovers⟩
    · simp only [serve, Store.put, hjournal]
    · simp only [serve, Store.put, hmemory]
  | ok placement? =>
    cases placement? with
    | some placement =>
      have hmemory : j.index.put r = .ok (placement, j.index) := by
        simp only [Index.put, hjudge, bind, Except.bind]
      have hjournal : j.put r d = (.ok placement, j, d) := by
        simp only [Journal.put, hjudge]
      refine ⟨.placed (.ok placement), j, d, j.index, ?_, fun d₀ => ?_, rfl, rs, hstands, hcovers⟩
      · simp only [serve, Store.put, hjournal]
      · simp only [serve, Store.put, hmemory]
    | none =>
      have hmemory : j.index.put r = .ok (.inserted, j.index.store r) := by
        simp only [Index.put, hjudge, bind, Except.bind]
      have hstored : ∀ reason, (j.put r d).1 ≠ .error (.storage reason) := by
        intro reason hstorage
        simp only [serve, Store.put, hstorage] at hfault
        cases hfault
      obtain ⟨j', d', hjournal, -, hindex, hstands'⟩ :=
        Journal.put_inserted hstands hjudge hstored
      refine ⟨.placed (.ok .inserted), j', d', j.index.store r, ?_, fun d₀ => ?_, hindex,
        rs ++ [r], ?_, hcovers.store (Index.judge_eq_none_iff.1 hjudge)⟩
      · simp only [serve, Store.put, hjournal]
      · simp only [serve, Store.put, hmemory]
      · rw [List.flatMap_append, List.flatMap_singleton]
        exact hstands'

/-- The lines that are left are those of the index that is left. -/
theorem Mirrors.compact (h : Mirrors now j d ix)
    (hfault : (serve (.compact moment) (.journal j) d).1.isFault = false) :
    Alike (.compact moment) j d ix moment := by
  obtain ⟨rfl, -⟩ := h
  cases hcompact : j.compact moment d with
  | mk outcome rest =>
    obtain ⟨j', events, d'⟩ := rest
    simp only [serve, hcompact] at hfault
    cases outcome with
    | error fault => cases hfault
    | ok dropped =>
      obtain ⟨rfl, -, hindex, hstands⟩ := Journal.compact_ok hcompact
      refine ⟨.compacted (.ok (j.index.expiredCount moment)), j', d', j.index.live moment, ?_,
        fun d₀ => rfl, hindex, _, hstands, Journal.covers_toList moment _⟩
      simp only [serve, hcompact]

/-- What is replayed is the index, without what has expired. -/
theorem Mirrors.reopen (h : Mirrors now j d ix) (hle : now ≤ moment)
    (hfault : (serve (.reopen moment) (.journal j) d).1.isFault = false) :
    Alike (.reopen moment) j d ix moment := by
  obtain ⟨rfl, rs, hstands, hcovers⟩ := h
  obtain ⟨s, hreplay, hindex⟩ := (hcovers.mono hle).replay
  rw [← hstands.contentAt] at hreplay
  -- The lines replay, so that only the disk could keep the journal from opening.
  have hopened : ∀ fault, (Journal.openAt j.path moment d).1 ≠ .error (.io fault) := by
    intro fault hio
    simp only [serve] at hfault
    split at hfault
    · next hopen => rw [hopen] at hio; cases hio
    · next hopen => rw [hopen] at hio; cases hio; cases hfault
  obtain ⟨j', events, d', hopen, hpath, hindex', hstands'⟩ := Journal.openAt_ok hreplay hopened
  rw [hstands.contentAt] at hstands'
  refine ⟨.reopened (.ok ()), j', d', j.index.live moment, ?_, fun d₀ => rfl,
    hindex'.trans hindex, rs, hstands', (hcovers.mono hle).live⟩
  simp only [serve, hopen]

/-- Every request keeps the two alike. -/
theorem Mirrors.serve {request : Request} (h : Mirrors now j d ix)
    (hle : ∀ moment ∈ request.moment?, now ≤ moment)
    (hfault : (serve request (.journal j) d).1.isFault = false) :
    Alike request j d ix (request.moment?.getD now) := by
  cases request with
  | get key moment => exact h.get (hle moment rfl) key
  | put r => exact h.put r hfault
  | purge moment => exact h.purge (hle moment rfl)
  | size => exact h.size
  | compact moment => exact h.compact hfault
  | reopen moment => exact h.reopen (hle moment rfl) hfault

/-- Runs from states that are alike are the same. -/
theorem Mirrors.run {requests : List Request} (h : Mirrors now j d ix)
    (hforward : Forward now requests)
    (hfault : Faultless requests (.journal j) d) (d₀ : Disk) :
    run requests (.journal j) d = run requests (.memory ix) d₀ := by
  -- The relation is for an instant, which each request moves on.
  induction requests generalizing now j d ix with
  | nil => rfl
  | cons request requests ih =>
    obtain ⟨reply, j', d', ix', hjournal, hmemory, hnext⟩ := h.serve hforward.head hfault.head
    have hlater := hfault.tail
    rw [hjournal] at hlater
    rw [Store.run, Store.run, hjournal, hmemory]
    show (reply, j'.index) :: _ = (reply, ix') :: _
    rw [hnext.index, ih hnext hforward.tail hlater]

/-- After requests, the two are still as good as each other. -/
theorem Mirrors.after {requests : List Request} (h : Mirrors now j d ix)
    (hforward : Forward now requests)
    (hfault : Faultless requests (.journal j) d) :
    ∃ j' d' ix', Store.after requests (.journal j) d = (.journal j', d')
      ∧ Mirrors (latest now requests) j' d' ix' := by
  induction requests generalizing now j d ix with
  | nil => exact ⟨j, d, ix, rfl, h⟩
  | cons request requests ih =>
    obtain ⟨reply, j', d', ix', hjournal, -, hnext⟩ := h.serve hforward.head hfault.head
    have hlater := hfault.tail
    rw [hjournal] at hlater
    obtain ⟨last, disk, final, hafter, hlast⟩ := ih hnext hforward.tail hlater
    refine ⟨last, disk, final, ?_, hlast⟩
    rw [Store.after, hjournal]
    exact hafter

/-! ### From an empty file -/

/-- A journal whose file is not there or empty opens without records. -/
theorem mirrors_opened {path : String} (hempty : d.contentAt (Path.ofText path).place = [])
    (hopened : ∀ fault, (Journal.openAt path now d).1 ≠ .error (.io fault)) :
    ∃ j events d', Journal.openAt path now d = (.ok j, events, d') ∧ Mirrors now j d' .empty := by
  have hreplay : Journal.replay now (d.contentAt (Path.ofText path).place)
      = .ok Journal.Replay.start := by
    rw [hempty]
    rfl
  obtain ⟨j, events, d', hopen, -, hindex, hstands⟩ := Journal.openAt_ok hreplay hopened
  rw [hempty] at hstands
  exact ⟨j, events, d', hopen, hindex, [], hstands, Journal.covers_empty now⟩

/-- A journal that has been opened on no bytes mirrors a store in memory that starts
empty. -/
theorem mirrors_of_openAt {path : String} {events : List Event} {d' : Disk}
    (hempty : d.contentAt (Path.ofText path).place = [])
    (hopen : Journal.openAt path now d = (.ok j, events, d')) : Mirrors now j d' .empty := by
  have hopened : ∀ fault, (Journal.openAt path now d).1 ≠ .error (.io fault) := by
    rw [hopen]
    exact fun _ => nofun
  obtain ⟨j', events', d'', hopen', hmirrors⟩ := mirrors_opened hempty hopened
  rw [hopen] at hopen'
  cases hopen'
  exact hmirrors

/-- A journal refines a store in memory. Let a journal be opened where no file is,
or an empty one, and serve requests whose times do not go back. If no step on the
disk fails, every reply and the index after every request are those of a store in
memory that starts empty and sweeps where the journal is compacted or opened
again; so the journal always opens. -/
theorem run_eq_memory {path : String} {start : Instant} {d : Disk} {requests : List Request}
    (hempty : d.contentAt (Path.ofText path).place = []) (hforward : Forward start requests)
    (hopened : ∀ fault, (Journal.openAt path start d).1 ≠ .error (.io fault))
    (hfault : ∀ j events d', Journal.openAt path start d = (.ok j, events, d') →
      Faultless requests (.journal j) d') :
    ∃ j events d', Journal.openAt path start d = (.ok j, events, d') ∧ j.index = .empty
      ∧ run requests (.journal j) d' = run requests (.memory .empty) Disk.empty := by
  obtain ⟨j, events, d', hopen, hmirrors⟩ := mirrors_opened hempty hopened
  exact ⟨j, events, d', hopen, hmirrors.index,
    hmirrors.run hforward (hfault j events d' hopen) Disk.empty⟩

/-- A key is used again for another request once its record has expired, so the
file has lines of both. Then the journal is opened again, compacted, given a
record that has expired before it comes, and opened once more. -/
def reused : List Request :=
  [ .put ⟨"key", "first", [0, 255], { seconds := 100, nanos := 0 }⟩,
    .reopen { seconds := 100, nanos := 0 },
    .get "key" { seconds := 101, nanos := 0 },
    .put ⟨"key", "second", [], { seconds := 900, nanos := 0 }⟩,
    .reopen { seconds := 120, nanos := 0 },
    .compact { seconds := 200, nanos := 0 },
    .put ⟨"late", "third", [7], { seconds := 5, nanos := 0 }⟩,
    .size,
    .reopen { seconds := 300, nanos := 0 },
    .purge { seconds := 901, nanos := 0 } ]

/-- The disk once the journal has been opened: a directory, and a file in it. -/
def emptyFile : Disk where
  entries := [(["data", "keys.log"], .file 0), (["data"], .directory)]
  contents := [[]]
  limit := none
  fates := []
  numbered := by simp

/-- Opened where no file is, the journal goes through all of this as the store in memory
does. -/
theorem run_eq_memory_reused :
    ∃ j events d', Journal.openAt "data/keys.log" { seconds := 0, nanos := 0 } .empty
        = (.ok j, events, d')
      ∧ j.index = .empty
      ∧ run reused (.journal j) d' = run reused (.memory .empty) .empty := by
  have hopen : Journal.openAt "data/keys.log" { seconds := 0, nanos := 0 } .empty
      = (.ok ⟨"data/keys.log", .empty, ⟨0, none⟩⟩, [.opened "data/keys.log" 0], emptyFile) := by
    decide +kernel
  have htakes : emptyFile.Takes (Journal.draftPath ⟨"data/keys.log", .empty, ⟨0, none⟩⟩) :=
    Disk.takes_of_entries (by decide +kernel) (by decide +kernel) (by decide +kernel)
  refine run_eq_memory (by decide +kernel) (by unfold Forward; decide) ?_ ?_
  · rw [hopen]
    exact fun _ => nofun
  · intro j events d' hopen'
    rw [hopen] at hopen'
    cases hopen'
    exact faultless_of_undisturbed ⟨rfl, rfl⟩ hopen fun _ _ => htakes

end Idempotency.Store
