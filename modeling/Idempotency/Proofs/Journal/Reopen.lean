import Idempotency.Proofs.Disk.Reopen
import Idempotency.Proofs.Journal.Stands

/-!
# `Idempotency.Proofs.Journal.Reopen`: opening a journal a second time

Whether a journal opens depends on what its file holds, once it has been opened:
no step on the disk is left that could fail (`openAt_again`). In between the file
may have been written to, by whomever. `Gives` and `Refuses` say what opening
comes to.
-/

set_option autoImplicit false

namespace Idempotency.Journal

variable {path : String} {now late : Instant} {j : Journal} {d d' opened : Disk}
  {events : List Event} {content : Bytes} {ix : Index}

/-- The journal opens, with these records, and writes to the end of its file. -/
def Gives (path : String) (now : Instant) (d : Disk) (ix : Index) : Prop :=
  ∃ j events d', openAt path now d = (.ok j, events, d') ∧ j.path = path ∧ j.index = ix
    ∧ j.Stands d' (d.contentAt (Path.ofText path).place)

/-- The journal does not open, because its file is damaged so. -/
def Refuses (path : String) (now : Instant) (d : Disk) (damage : Damage) : Prop :=
  ∃ events d', openAt path now d = (.error (.damaged damage), events, d')

/-- What opening comes to when the file is open. -/
def opening (path : String) (now : Instant) (handle : Handle) (d : Disk) :
    Except OpenError Journal × List Event × Disk :=
  match replay now (d.read handle.file) with
  | .error damage => (.error (.damaged damage), [], d)
  | .ok s =>
    (.ok ⟨path, s.index, handle⟩,
      (if s.skipped = 0 then [] else [.skippedExpired s.skipped]) ++ [.opened path s.index.size], d)

/-- Opening gets to the file or fails at a step on the way. Neither changes what
files hold. -/
theorem openAt_cases (path : String) (now : Instant) (d : Disk) :
    (∃ fault d', openAt path now d = (.error (.io fault), [], d')
      ∧ ∀ place, d'.contentAt place = d.contentAt place)
    ∨ ∃ made handle d', d.createParent (Path.ofText path) = (.ok (), made)
      ∧ made.openAppend (Path.ofText path) = (.ok handle, d')
      ∧ openAt path now d = opening path now handle d'
      ∧ ∀ place, d'.contentAt place = d.contentAt place := by
  unfold openAt
  cases hparent : d.createParent (Path.ofText path) with
  | mk outcome made =>
    have hsame := Disk.contentAt_createParent hparent
    cases outcome with
    | error fault =>
      refine .inl ⟨fault, made, ?_, hsame⟩
      simp only [hparent]
    | ok done =>
      have hkept : ∀ place, (made.openAppend (Path.ofText path)).2.contentAt place
          = d.contentAt place := fun place =>
        (Disk.contentAt_openAppend made (Path.ofText path) place).trans (hsame place)
      cases happend : made.openAppend (Path.ofText path) with
      | mk outcome d' =>
        rw [happend] at hkept
        cases outcome with
        | error fault =>
          refine .inl ⟨fault, d', ?_, hkept⟩
          simp only [hparent, happend]
        | ok handle =>
          refine .inr ⟨made, handle, d', rfl, happend, ?_, hkept⟩
          simp only [hparent, happend]
          rfl

/-- Reading an open file leaves the disk as it is. -/
theorem disk_opening (path : String) (now : Instant) (handle : Handle) (d : Disk) :
    (opening path now handle d).2.2 = d := by
  unfold opening
  split
  · rfl
  · rfl

/-- A journal that has been opened has the records of its file, and stands on
it. -/
theorem of_openAt (h : openAt path now d = (.ok j, events, opened)) :
    j.path = path ∧ (∃ s, replay now (d.contentAt (Path.ofText path).place) = .ok s
      ∧ j.index = s.index) ∧ j.Stands opened (d.contentAt (Path.ofText path).place) := by
  cases hreplay : replay now (d.contentAt (Path.ofText path).place) with
  | ok s =>
    obtain ⟨j', events', d', hopen, hpath, hindex, hstands⟩ := openAt_ok hreplay
      (by rw [h]; exact fun _ => nofun)
    rw [hopen] at h
    cases h
    exact ⟨hpath, ⟨s, rfl, hindex⟩, hstands⟩
  | error damage =>
    -- What is replayed is what the place held before.
    rcases openAt_cases path now d with
      ⟨fault, d', hopen, _⟩ | ⟨made, handle, d', _, happend, hopen, hkept⟩
    · rw [hopen] at h
      exact nomatch h
    · obtain ⟨_, hentry, _⟩ := Disk.openAppend_ok happend
      rw [← hkept, Disk.contentAt_of_file hentry] at hreplay
      rw [hopen, opening, hreplay] at h
      exact nomatch h

/-- On a disk with the directories and files of one on which the journal was
opened, what the file holds decides. -/
theorem openAt_again (h : openAt path now d = (.ok j, events, opened))
    (hentries : d'.entries = opened.entries) (late : Instant) :
    ∃ handle, openAt path late d' = opening path late handle d'
      ∧ d'.read handle.file = d'.contentAt (Path.ofText path).place := by
  rcases openAt_cases path now d with
    ⟨fault, disk, hopen, _⟩ | ⟨made, handle, disk, hparent, happend, hopen, _⟩
  · rw [hopen] at h
    exact nomatch h
  · have hdisk := disk_opening path now handle disk
    rw [← hopen, h] at hdisk
    subst hdisk
    have hdirs : d'.HasDirectoriesOf made := fun other hother => by
      rw [Disk.entryAt_congr hentries]
      exact Disk.hasDirectoriesOf_openAppend happend other hother
    have hagain := Disk.openAppend_again happend hentries
    obtain ⟨_, hentry, _⟩ := Disk.openAppend_ok hagain
    refine ⟨handle, ?_, (Disk.contentAt_of_file hentry).symm⟩
    simp only [openAt, Disk.createParent_again hparent hdirs, hagain]
    rfl

/-- What replays is opened. -/
theorem gives_of_replay (h : openAt path now d = (.ok j, events, opened))
    (hentries : d'.entries = opened.entries) {s : Replay}
    (hreplay : replay late (d'.contentAt (Path.ofText path).place) = .ok s) :
    Gives path late d' s.index := by
  obtain ⟨handle, hagain, hread⟩ := openAt_again h hentries late
  simp only [opening, hread, hreplay] at hagain
  obtain ⟨hpath, ⟨s', hreplay', hindex⟩, hstands⟩ := of_openAt hagain
  exact ⟨_, _, _, hagain, hpath, rfl, hstands⟩

/-- What does not replay is not opened. -/
theorem openAt_of_damage (h : openAt path now d = (.ok j, events, opened))
    (hentries : d'.entries = opened.entries) {damage : Damage}
    (hreplay : replay late (d'.contentAt (Path.ofText path).place) = .error damage) :
    openAt path late d' = (.error (.damaged damage), [], d') := by
  obtain ⟨handle, hagain, hread⟩ := openAt_again h hentries late
  simp only [opening, hread, hreplay] at hagain
  exact hagain

/-- Opening a journal, or not getting to it, leaves what files hold. -/
theorem contentAt_openAt (path : String) (now : Instant) (d : Disk) (place : Location) :
    (openAt path now d).2.2.contentAt place = d.contentAt place := by
  rcases openAt_cases path now d with ⟨_, _, hopen, hkept⟩ | ⟨_, _, _, _, _, hopen, hkept⟩
  · rw [hopen]
    exact hkept place
  · rw [hopen, disk_opening]
    exact hkept place

/-- The file at the journal's path may be written by others. -/
theorem Stands.contentAt_withContent (h : j.Stands d content) (bytes : Bytes) :
    (d.withContent j.handle.file bytes).contentAt (Path.ofText j.path).place = bytes := by
  have hentry : (d.withContent j.handle.file bytes).entryAt (Path.ofText j.path).place
      = some (.file j.handle.file) := h.entry
  rw [Disk.contentAt_of_file hentry, Disk.read_withContent (Disk.lt_of_entryAt h.entry)]

/-- Where nothing is, a journal opens. -/
theorem exists_openAt_empty : ∃ j events opened,
    openAt "data/keys.log" { seconds := 0, nanos := 0 } .empty = (.ok j, events, opened) := by
  have hopens : (openAt "data/keys.log" { seconds := 0, nanos := 0 } .empty).1.isOk = true := by
    decide +kernel
  cases hopen : openAt "data/keys.log" { seconds := 0, nanos := 0 } .empty with
  | mk outcome rest =>
    obtain ⟨events, opened⟩ := rest
    cases outcome with
    | error reason =>
      rw [hopen] at hopens
      exact nomatch hopens
    | ok j => exact ⟨j, events, opened, rfl⟩

end Idempotency.Journal
