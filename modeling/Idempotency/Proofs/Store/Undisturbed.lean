import Idempotency.Proofs.Disk.Extension
import Idempotency.Proofs.Disk.Undisturbed
import Idempotency.Proofs.Journal.Compacting
import Idempotency.Proofs.Journal.Putting
import Idempotency.Proofs.Journal.Reopen
import Idempotency.Proofs.Store.Requests

/-!
# `Idempotency.Proofs.Store.Undisturbed`: runs in which no step on the disk fails

`Faultless` is said of the replies in a run. Here it is traced to the disk
(`faultless_of_undisturbed`): a journal that has been opened on a disk without a limit on
the length of files, and without a step that is to break off, can be asked anything, and
no reply is that a step has failed. A compaction needs somewhere to put its draft in
addition: the disk has to take the name, and no directory may be in the way.

`Ready` is what is asked of the disk. It speaks of directories only, and no request makes
or removes one (`Ready.serve`), so a run keeps it.
-/

set_option autoImplicit false

namespace Idempotency

variable {path : String} {start now : Instant} {j : Journal} {d d' opened : Disk}
  {events : List Event}

namespace Journal

/-- With no limit and no fates, a record gets into the file. -/
theorem append_of_undisturbed (h : d.Undisturbed) (j : Journal) (r : Record) :
    (j.append r d).1 = none ∧ (j.append r d).2.2.Undisturbed
      ∧ (j.append r d).2.2.entries = d.entries := by
  obtain ⟨hfault, hwritten⟩ := h.writeAll j.handle (pieces r)
  have hentries := Disk.entries_writeAll d j.handle (pieces r)
  unfold append
  simp only [hfault, hwritten.sync]
  exact ⟨trivial, hwritten, hentries⟩

/-- Then a put is refused for a conflict only. -/
theorem put_of_undisturbed (h : d.Undisturbed) (j : Journal) (r : Record) :
    ∃ outcome j' d', j.put r d = (outcome, j', d')
      ∧ (Store.Reply.placed outcome).isFault = false ∧ j'.path = j.path ∧ d'.Undisturbed
      ∧ d'.entries = d.entries := by
  cases hheld : j.index.find? r.key with
  | some held =>
    refine ⟨_, _, _, put_of_held hheld d, ?_, rfl, h, rfl⟩
    split
    · rfl
    · rfl
  | none =>
    obtain ⟨hfault, hundisturbed, hentries⟩ := append_of_undisturbed h j r
    have hpath := path_append j r d
    unfold put
    simp only [Index.judge_eq_none_iff.2 hheld]
    cases happend : j.append r d with
    | mk fault rest =>
      obtain ⟨j', d'⟩ := rest
      rw [happend] at hfault hundisturbed hentries hpath
      obtain rfl : fault = none := hfault
      exact ⟨_, _, _, rfl, rfl, hpath, hundisturbed, hentries⟩

end Journal

namespace Store

/-- Nothing about the disk keeps the journal at the path from being opened or written. -/
structure Ready (path : String) (d : Disk) : Prop where
  undisturbed : d.Undisturbed
  parent : d.createParent (Path.ofText path) = (.ok (), d)
  locate : d.locate (Path.ofText path) = .ok (Path.ofText path).place
  file : (Path.ofText path).isDirectory = false
  entry : d.entryAt (Path.ofText path).place ≠ some .directory

/-- With the same directories, a disk is as ready. -/
theorem Ready.congr (h : Ready path d) (hundisturbed : d'.Undisturbed)
    (hsame : d.SameDirectories d') : Ready path d' where
  undisturbed := hundisturbed
  parent := Disk.createParent_again h.parent hsame.has
  locate := Disk.locate_mono hsame.has h.locate
  file := h.file
  entry hdirectory := h.entry ((hsame _).1 hdirectory)

/-- A disk on which the journal has been opened is ready for it. -/
theorem ready_of_openAt (hdisk : d.Undisturbed)
    (hopen : Journal.openAt path start d = (.ok j, events, opened)) : Ready path opened := by
  rcases Journal.openAt_cases path start d with
    ⟨_, _, hfailed, _⟩ | ⟨made, handle, d', hparent, happend, hopening, _⟩
  · rw [hfailed] at hopen
    exact nomatch hopen
  · have hsame := Journal.disk_opening path start handle d'
    rw [← hopening, hopen] at hsame
    obtain rfl : opened = d' := hsame
    have hundisturbed := (hdisk.createParent (Path.ofText path))
    rw [hparent] at hundisturbed
    have hopened := hundisturbed.openAppend (Path.ofText path)
    rw [happend] at hopened
    obtain ⟨hlocate, hfile⟩ := Disk.locate_of_openAppend happend
    obtain ⟨-, hentry, -⟩ := Disk.openAppend_ok happend
    have hdirs := Disk.hasDirectoriesOf_openAppend happend
    refine ⟨hopened, Disk.createParent_again hparent hdirs, Disk.locate_mono hdirs hlocate,
      hfile, ?_⟩
    rw [hentry]
    exact nofun

end Store

namespace Journal

/-- A compaction goes through where there is somewhere to put the draft. -/
theorem compact_of_ready (h : Store.Ready j.path d) (hdraft : d.Takes j.draftPath)
    (now : Instant) :
    ∃ dropped j' events d', j.compact now d = (.ok dropped, j', events, d') ∧ j'.path = j.path
      ∧ d'.Undisturbed ∧ d.SameDirectories d' := by
  have hfile : j.draftPath.isDirectory = false := Path.isDirectory_withExtension h.file _
  obtain ⟨handle, fresh, hopen, hfresh, hsame⟩ := Disk.exists_openFresh h.undisturbed
    hdraft.locate hfile (hdraft.below _ (List.prefix_refl _))
  obtain ⟨-, hentry, -⟩ := Disk.openFresh_ok hopen
  -- Writing the draft leaves all entries.
  obtain ⟨hfault, hwritten⟩ := hfresh.writeAll handle ((j.index.live now).toList.flatMap pieces)
  have hentries := Disk.entries_writeAll fresh handle ((j.index.live now).toList.flatMap pieces)
  have hsame' := hsame.trans (Disk.sameDirectories_of_entries hentries)
  have hready := h.congr hwritten hsame'
  have htakes := hdraft.congr hsame'
  rw [← Disk.entryAt_congr hentries] at hentry
  obtain ⟨d', hrename, hmoved⟩ := Disk.rename_eq_none hwritten htakes.locate hready.locate hentry
    hready.entry
  have hcompact : (j.compact now d).1 = .ok (j.index.expiredCount now)
      ∧ (j.compact now d).2.2.2 = d' := by
    unfold compact
    simp only [draftPath] at hopen hrename
    simp only [draftPath, hopen, hfault, hwritten.sync, hrename]
    exact ⟨trivial, trivial⟩
  have hpath := path_compact j now d
  cases heq : j.compact now d with
  | mk outcome rest =>
    obtain ⟨j', events, last⟩ := rest
    rw [heq] at hcompact hpath
    obtain ⟨rfl, rfl⟩ := hcompact
    exact ⟨_, j', events, last, rfl, hpath, hmoved, hsame'.trans
      (Disk.sameDirectories_rename hrename htakes.below)⟩

end Journal

namespace Store

/-- On a disk that is ready, a request does not fail at the disk, and the disk has the
same directories afterwards. -/
theorem Ready.serve (h : Ready j.path d) {request : Request}
    (hdraft : ∀ now, request = .compact now → d.Takes j.draftPath) :
    ∃ reply j' d', serve request (.journal j) d = (reply, .journal j', d')
      ∧ reply.isFault = false ∧ j'.path = j.path ∧ d'.Undisturbed ∧ d.SameDirectories d' := by
  cases request with
  | get key now => exact ⟨_, _, _, rfl, rfl, rfl, h.undisturbed, .refl d⟩
  | purge now => exact ⟨_, _, _, rfl, rfl, rfl, h.undisturbed, .refl d⟩
  | size => exact ⟨_, _, _, rfl, rfl, rfl, h.undisturbed, .refl d⟩
  | put r =>
    obtain ⟨outcome, j', d', hput, hfault, hpath, hundisturbed, hentries⟩ :=
      Journal.put_of_undisturbed h.undisturbed j r
    refine ⟨.placed outcome, j', d', ?_, hfault, hpath, hundisturbed,
      Disk.sameDirectories_of_entries hentries⟩
    simp only [Store.serve, Store.put, hput]
  | compact now =>
    obtain ⟨dropped, j', events, d', hcompact, hpath, hundisturbed, hsame⟩ :=
      Journal.compact_of_ready h (hdraft now rfl) now
    refine ⟨.compacted (.ok dropped), j', d', ?_, rfl, hpath, hundisturbed, hsame⟩
    simp only [Store.serve, hcompact]
  | reopen now =>
    obtain ⟨handle, d', happend, hsame⟩ := Disk.exists_openAppend h.locate h.file h.entry
    have hundisturbed := h.undisturbed.openAppend (Path.ofText j.path)
    rw [happend] at hundisturbed
    have hopening : Journal.openAt j.path now d = Journal.opening j.path now handle d' := by
      simp only [Journal.openAt, h.parent, happend]
      rfl
    -- What is left to refuse is what the file holds.
    simp only [Store.serve, hopening, Journal.opening]
    cases Journal.replay now (d'.read handle.file) with
    | ok s => exact ⟨_, _, _, rfl, rfl, rfl, hundisturbed, hsame⟩
    | error damage => exact ⟨_, _, _, rfl, rfl, rfl, hundisturbed, hsame⟩

/-- A run on a disk that is ready has no fault in it. -/
theorem Ready.faultless (h : Ready j.path d) {requests : List Request}
    (hdraft : ∀ now, .compact now ∈ requests → d.Takes j.draftPath) :
    Faultless requests (.journal j) d := by
  induction requests generalizing j d with
  | nil => exact fun _ hsight => nomatch hsight
  | cons request requests ih =>
    obtain ⟨reply, j', d', hserve, hfault, hpath, hundisturbed, hsame⟩ :=
      h.serve fun now (heq : request = .compact now) => hdraft now (heq ▸ List.mem_cons_self)
    have hnext : Ready j'.path d' := by
      rw [hpath]
      exact h.congr hundisturbed hsame
    have hlater := ih hnext fun now hmem => by
      rw [Journal.draftPath_congr hpath]
      exact (hdraft now (List.mem_cons_of_mem _ hmem)).congr hsame
    refine Faultless.cons ?_ ?_
    · rw [hserve]
      exact hfault
    · rw [hserve]
      exact hlater

/-- Where no step is to fail, none does. Let a journal be opened on a disk without a limit
on the length of files, and without steps that are to break off. Then it can be asked
anything, and left and opened again, and no reply is that a step on the disk has failed.
If it is to be compacted, the disk has to take the name of the draft, and no directory may
be at the draft's place or below. -/
theorem faultless_of_undisturbed (hdisk : d.Undisturbed)
    (hopen : Journal.openAt path start d = (.ok j, events, opened)) {requests : List Request}
    (hdraft : ∀ now, .compact now ∈ requests → opened.Takes j.draftPath) :
    Faultless requests (.journal j) opened := by
  have hready := ready_of_openAt hdisk hopen
  rw [← (Journal.of_openAt hopen).1] at hready
  exact hready.faultless hdraft

end Store

end Idempotency
