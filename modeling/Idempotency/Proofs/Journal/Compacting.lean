import Idempotency.Proofs.Disk.Frame
import Idempotency.Proofs.Journal.Stands

/-!
# `Idempotency.Proofs.Journal.Compacting`: what a compaction leaves, whatever happens

A compaction takes four kinds of steps on the disk: it opens the draft, writes the
lines of the live records to it, syncs it and moves it to the journal's place.
`BreaksOff` says that one of them fails, and what disk that leaves. Either that
happens, and the compaction is refused, or the draft has been moved
(`compact_cases`).

What a compaction that breaks off does to the journal's file depends on where the
draft is. Elsewhere, it leaves the file as it was (`BreaksOff.sits`). In the journal's
own place, it leaves a part of the lines, from the start (`BreaksOff.draft`).
-/

set_option autoImplicit false

namespace Idempotency.Journal

variable {j : Journal} {now : Instant} {d d' : Disk} {fault : Fault} {content : Bytes}

/-- The lines of the live records are written to the draft. -/
def writeDraft (j : Journal) (now : Instant) (handle : Handle) (d : Disk) : Disk.Written :=
  d.writeAll handle ((j.index.live now).toList.flatMap pieces)

/-- A step of the compaction fails, whichever it is, and that leaves the disk. -/
inductive BreaksOff (j : Journal) (now : Instant) (d : Disk) : Fault → Disk → Prop
  /-- The draft is not opened. -/
  | opening {fault : Fault} {d' : Disk} (hopen : d.openFresh j.draftPath = (.error fault, d')) :
      BreaksOff j now d fault d'
  /-- A piece of a line is not written, or only in part. -/
  | writing {handle : Handle} {draft : Disk} {fault : Fault}
      (hopen : d.openFresh j.draftPath = (.ok handle, draft))
      (hwrite : (j.writeDraft now handle draft).fault = some fault) :
      BreaksOff j now d fault (j.writeDraft now handle draft).disk
  /-- The lines are written, and not brought to safety. -/
  | syncing {handle : Handle} {draft : Disk} {fault : Fault} {d' : Disk}
      (hopen : d.openFresh j.draftPath = (.ok handle, draft))
      (hwrite : (j.writeDraft now handle draft).fault = none)
      (hsync : (j.writeDraft now handle draft).disk.sync = (some fault, d')) :
      BreaksOff j now d fault d'
  /-- The draft is complete, and not moved. -/
  | moving {handle : Handle} {draft synced : Disk} {fault : Fault} {d' : Disk}
      (hopen : d.openFresh j.draftPath = (.ok handle, draft))
      (hwrite : (j.writeDraft now handle draft).fault = none)
      (hsync : (j.writeDraft now handle draft).disk.sync = (none, synced))
      (hmove : synced.rename j.draftPath (Path.ofText j.path) = (some fault, d')) :
      BreaksOff j now d fault d'

/-- Then the compaction is refused. What has expired is gone from the index. -/
theorem compact_of_breaksOff (h : BreaksOff j now d fault d') :
    j.compact now d = (.error fault, { j with index := j.index.live now }, [], d') := by
  unfold compact
  cases h with
  | opening hopen =>
    rw [draftPath] at hopen
    simp only [draftPath, hopen]
  | writing hopen hwrite =>
    rw [draftPath] at hopen
    rw [writeDraft] at hwrite ⊢
    simp only [draftPath, hopen, hwrite]
  | syncing hopen hwrite hsync =>
    rw [draftPath] at hopen
    rw [writeDraft] at hwrite hsync
    simp only [draftPath, hopen, hwrite, hsync]
  | moving hopen hwrite hsync hmove =>
    rw [draftPath] at hopen hmove
    rw [writeDraft] at hwrite hsync
    simp only [draftPath, hopen, hwrite, hsync, hmove]

/-- What a compaction comes to. -/
theorem compact_cases (j : Journal) (now : Instant) (d : Disk) :
    (∃ fault d', BreaksOff j now d fault d')
      ∨ ∃ dropped j' events, ∃ synced d' : Disk, j.compact now d = (.ok dropped, j', events, d')
        ∧ synced.rename j.draftPath (Path.ofText j.path) = (none, d') := by
  cases hopen : d.openFresh j.draftPath with
  | mk outcome draft =>
    cases outcome with
    | error fault => exact .inl ⟨fault, draft, .opening hopen⟩
    | ok handle =>
      cases hwrite : (j.writeDraft now handle draft).fault with
      | some fault => exact .inl ⟨fault, _, .writing hopen hwrite⟩
      | none =>
        cases hsync : (j.writeDraft now handle draft).disk.sync with
        | mk outcome synced =>
          cases outcome with
          | some fault => exact .inl ⟨fault, synced, .syncing hopen hwrite hsync⟩
          | none =>
            cases hmove : synced.rename j.draftPath (Path.ofText j.path) with
            | mk outcome d' =>
              cases outcome with
              | some fault => exact .inl ⟨fault, d', .moving hopen hwrite hsync hmove⟩
              | none =>
                refine .inr ⟨j.index.expiredCount now, { j with
                    index := j.index.live now
                    handle := (j.writeDraft now handle draft).handle },
                  [.compacted j.path (j.index.expiredCount now) (j.index.live now).size],
                  synced, d', ?_, hmove⟩
                rw [draftPath] at hopen hmove
                rw [writeDraft] at hwrite hsync
                unfold compact
                simp only [draftPath, writeDraft, hopen, hwrite, hsync, hmove]

/-- Where the draft goes depends on the journal's path only. -/
theorem draftPath_congr {j' : Journal} (h : j'.path = j.path) : j'.draftPath = j.draftPath := by
  rw [draftPath, draftPath, h]

/-- A compaction leaves the journal where it is. -/
theorem path_compact (j : Journal) (now : Instant) (d : Disk) :
    (j.compact now d).2.1.path = j.path := by
  unfold compact
  dsimp only
  split
  · rfl
  · split
    · rfl
    · split
      · rfl
      · split
        · rfl
        · rfl

/-- Nothing else makes a compaction fail. -/
theorem breaksOff_of_compact {j' : Journal} {events : List Event}
    (h : j.compact now d = (.error fault, j', events, d')) : BreaksOff j now d fault d' := by
  rcases compact_cases j now d with
    ⟨fault', left, hbreaks⟩ | ⟨dropped, next, events', synced, disk, hcompact, -⟩
  · rw [compact_of_breaksOff hbreaks] at h
    cases h
    exact hbreaks
  · rw [hcompact] at h
    exact nomatch (Prod.mk.inj h).1

/-! ### The journal's file -/

variable {place : Location} {n : Nat}

/-- Either the draft was not opened and nothing has changed, or files are where and
as they were when the writing ended. -/
theorem BreaksOff.leaves (h : BreaksOff j now d fault d') :
    (d.openFresh j.draftPath = (.error fault, d')
        ∧ d'.entries = d.entries ∧ d'.contents = d.contents)
      ∨ ∃ handle draft, d.openFresh j.draftPath = (.ok handle, draft)
        ∧ d'.entries = (j.writeDraft now handle draft).disk.entries
        ∧ d'.contents = (j.writeDraft now handle draft).disk.contents := by
  cases h with
  | opening hopen => exact .inl ⟨hopen, Disk.openFresh_failed hopen⟩
  | writing hopen hwrite => exact .inr ⟨_, _, hopen, rfl, rfl⟩
  | syncing hopen hwrite hsync =>
    obtain rfl : _ = d' := congrArg Prod.snd hsync
    exact .inr ⟨_, _, hopen, Disk.entries_sync _, Disk.contents_sync _⟩
  | moving hopen hwrite hsync hmove =>
    obtain rfl : _ = _ := congrArg Prod.snd hsync
    obtain ⟨hentries, hcontents⟩ := Disk.rename_failed hmove
    exact .inr ⟨_, _, hopen, hentries.trans (Disk.entries_sync _),
      hcontents.trans (Disk.contents_sync _)⟩

/-- A file that the draft's path does not lead to stays. -/
theorem BreaksOff.sits (h : BreaksOff j now d fault d')
    (hsits : d.Sits place j.draftPath.place n content) :
    d'.Sits place j.draftPath.place n content := by
  rcases h.leaves with ⟨-, hentries, hcontents⟩ | ⟨handle, draft, hopen, hentries, hcontents⟩
  · exact hsits.congr (Disk.sameFiles_of_entries hentries) (Disk.read_congr hcontents n)
  · -- With the draft open, nothing but the draft is written.
    obtain ⟨hne, hdraft⟩ := hsits.openFresh hopen
    exact (hdraft.writeAll hne).congr (Disk.sameFiles_of_entries hentries)
      (Disk.read_congr hcontents n)

/-- The draft is as it was if it was not opened. Otherwise it holds a part of the
lines, from the start. -/
theorem BreaksOff.draft (h : BreaksOff j now d fault d') :
    (d.openFresh j.draftPath = (.error fault, d')
        ∧ d'.contentAt j.draftPath.place = d.contentAt j.draftPath.place)
      ∨ (∃ handle draft, d.openFresh j.draftPath = (.ok handle, draft))
        ∧ d'.contentAt j.draftPath.place <+: (j.index.live now).toList.flatMap line := by
  rcases h.leaves with ⟨hopen, hentries, hcontents⟩ | ⟨handle, draft, hopen, hentries, hcontents⟩
  · exact .inl ⟨hopen, Disk.contentAt_congr hentries hcontents _⟩
  · refine .inr ⟨⟨handle, draft, hopen⟩, ?_⟩
    -- The draft is empty when it is opened, and the lines are written at its end.
    obtain ⟨hposition, hentry, hempty⟩ := Disk.openFresh_ok hopen
    obtain ⟨written, hwritten, hextends⟩ := Disk.writeAll_extends (Disk.lt_of_entryAt hentry)
      (Disk.writesAtEnd_start hposition hempty) ((j.index.live now).toList.flatMap pieces)
    have hentry' : (j.writeDraft now handle draft).disk.entryAt j.draftPath.place
        = some (.file handle.file) := by
      rw [writeDraft, Disk.entryAt_congr hextends.entries, hentry]
    rw [Disk.contentAt_congr hentries hcontents, Disk.contentAt_of_file hentry', writeDraft,
      hextends.read, hempty, List.nil_append, ← flatten_flatMap_pieces]
    exact hwritten

end Idempotency.Journal
