import Idempotency.Proofs.Disk.Place

/-!
# `Idempotency.Proofs.Disk.Reopen`: what has been opened once opens again

Opening a file to append creates the directories on its way and the file itself,
where they are missing. Then they are there. So on every disk with the same
directories and files at the same places, whatever these hold, the path opens
again (`createParent_again`, `openAppend_again`), and that leaves the disk as it
is.

Going down a path only asks whether directories are there. More of them do no harm
(`walk_mono`).
-/

set_option autoImplicit false

namespace Idempotency.Disk

variable {d d' : Disk} {p : Path} {here place other : Location} {n : Nat} {names : List String}

/-! ### Directories stay -/

/-- Every directory of the one disk is one of the other. -/
def HasDirectoriesOf (d' d : Disk) : Prop :=
  ∀ other, d.entryAt other = some .directory → d'.entryAt other = some .directory

/-- Creating directories leaves those that are there. -/
theorem hasDirectoriesOf_createOn (names : List String) (d : Disk) (here : Location) :
    (d.createOn here names).2.HasDirectoriesOf d := by
  induction names generalizing d here with
  | nil => exact fun _ h => h
  | cons name names ih =>
    rw [createOn]
    split
    · exact ih d _
    · split
      · exact fun _ h => h
      · split
        · exact ih d _
        · exact fun _ h => h
        · next hnone =>
          intro other hother
          refine ih _ _ other ?_
          rw [withDirectory, entryAt_withEntry d (by simp), hother, ite_self]

/-- A file is opened, or created where nothing was. -/
theorem hasDirectoriesOf_fileFor (h : d.fileFor p = (.ok n, d')) : d'.HasDirectoriesOf d := by
  rcases fileFor_cases d p with
    ⟨fault, hfile⟩ | ⟨number, -, -, hfile⟩ | ⟨hnone, hplace, -, hfile⟩
  · rw [hfile] at h
    exact nomatch (Prod.mk.inj h).1
  · rw [hfile] at h
    cases h
    exact fun _ h => h
  · rw [hfile] at h
    cases h
    intro other hother
    rw [entryAt_create hplace, if_neg, hother]
    rintro rfl
    rw [hnone] at hother
    exact nomatch hother

/-- Opening a file leaves the directories that are there. -/
theorem hasDirectoriesOf_openAppend {handle : Handle} (h : d.openAppend p = (.ok handle, d')) :
    d'.HasDirectoriesOf d := by
  unfold openAppend at h
  split at h
  · exact nomatch h
  · next hfile =>
    cases h
    exact hasDirectoriesOf_fileFor hfile

/-! ### Ways down stay -/

/-- A way down that is found is found where the same directories are. -/
theorem walk_mono (hdirs : d'.HasDirectoriesOf d) (h : d.walk here names = .ok place) :
    d'.walk here names = .ok place := by
  induction names generalizing here with
  | nil => exact h
  | cons name names ih =>
    rw [walk] at h ⊢
    split at h
    · next hup =>
      rw [if_pos hup]
      exact ih h
    · next hup =>
      rw [if_neg hup]
      split at h
      · cases h
      · next hname =>
        rw [if_neg hname]
        split at h
        · next hentry =>
          rw [hdirs _ hentry]
          exact ih h
        · cases h
        · cases h

/-- Where directories have been created, there is a way down. -/
theorem walk_of_createOn (h : d.createOn here names = (.ok (), d')) :
    ∃ place, d'.walk here names = .ok place := by
  induction names generalizing d here with
  | nil => exact ⟨here, rfl⟩
  | cons name names ih =>
    rw [createOn] at h
    rw [walk]
    split at h
    · next hup =>
      rw [if_pos hup]
      exact ih h
    · next hup =>
      rw [if_neg hup]
      split at h
      · cases h
      · next hname =>
        rw [if_neg hname]
        -- The directory of this name is there at the end, because it was there
        -- before the later ones were looked at.
        have hlater : ∀ {e : Disk}, e.createOn (here ++ [name]) names = (.ok (), d') →
            e.entryAt (here ++ [name]) = some .directory →
            d'.entryAt (here ++ [name]) = some .directory := by
          intro e hcreate hentry
          have hstays := hasDirectoriesOf_createOn names e (here ++ [name])
          rw [hcreate] at hstays
          exact hstays _ hentry
        split at h
        · next hentry =>
          rw [hlater h hentry]
          exact ih h
        · cases h
        · rw [hlater h (by rw [withDirectory, entryAt_withEntry d (by simp), if_pos rfl])]
          exact ih h

/-- Where there is a way down, there is nothing to create. -/
theorem createOn_of_walk (h : d.walk here names = .ok place) :
    d.createOn here names = (.ok (), d) := by
  induction names generalizing here with
  | nil => rfl
  | cons name names ih =>
    rw [walk] at h
    rw [createOn]
    split at h
    · next hup =>
      rw [if_pos hup]
      exact ih h
    · next hup =>
      rw [if_neg hup]
      split at h
      · cases h
      · next hname =>
        rw [if_neg hname]
        split at h
        · next hentry =>
          exact ih h
        · cases h
        · cases h

/-- A path that is found is found where the same directories are. -/
theorem locate_mono (hdirs : d'.HasDirectoriesOf d) (h : d.locate p = .ok place) :
    d'.locate p = .ok place := by
  unfold locate at h ⊢
  split at h
  · exact nomatch h
  · next hvalid =>
    rw [if_neg hvalid]
    split at h
    · exact h
    · next name hlast =>
      cases hwalk : d.walk [] p.parts.dropLast with
      | error fault =>
        rw [hwalk] at h
        exact nomatch h
      | ok dir =>
        rw [hwalk] at h
        rw [walk_mono hdirs hwalk]
        exact h

/-! ### Opening again -/

/-- The directory that a path is in has been created, and is there. -/
theorem createParent_again {made : Disk} (h : d.createParent p = (.ok (), made))
    (hdirs : d'.HasDirectoriesOf made) : d'.createParent p = (.ok (), d') := by
  unfold createParent at h ⊢
  split at h
  · rfl
  · next parent _ =>
    unfold createDirectories at h ⊢
    split at h
    · exact nomatch h
    · next hvalid =>
      obtain ⟨place, hwalk⟩ := walk_of_createOn h
      rw [if_neg hvalid]
      exact createOn_of_walk (walk_mono hdirs hwalk)

/-- A file that has been opened is there. -/
theorem openAppend_again {opened : Disk} {handle : Handle}
    (h : d.openAppend p = (.ok handle, opened)) (hentries : d'.entries = opened.entries) :
    d'.openAppend p = (.ok handle, d') := by
  unfold openAppend at h ⊢
  split at h
  · exact nomatch h
  · next n disk hfile =>
    cases h
    have hentry : d'.entryAt p.place = some (.file n) := by
      rw [entryAt_congr hentries]
      exact (fileFor_ok hfile).1
    have hdirs : d'.HasDirectoriesOf d := fun other hother => by
      rw [entryAt_congr hentries]
      exact hasDirectoriesOf_fileFor hfile other hother
    have hagain : d'.fileFor p = (.ok n, d') := by
      unfold fileFor at hfile ⊢
      split at hfile
      · exact nomatch hfile
      · next place hlocate =>
        rw [locate_mono hdirs hlocate]
        split at hfile
        · exact nomatch hfile
        · next hdirectory =>
          dsimp only
          rw [if_neg hdirectory, fileAt, locate_eq hlocate, hentry]
    rw [hagain]

/-! ### Nothing is lost -/

/-- A new file holds nothing, and no other file changes. -/
theorem contentAt_create (hnone : d.entryAt place = none) (hplace : place ≠ [])
    (other : Location) : (d.create place).2.contentAt other = d.contentAt other := by
  have hentry := entryAt_create (d := d) hplace other
  have hempty : (d.create place).2.read d.contents.length = [] := (create_ok hplace rfl).2
  by_cases hother : other = place
  · rw [if_pos hother] at hentry
    rw [contentAt_of_file hentry, hempty, hother, contentAt_of_none hnone]
  · rw [if_neg hother] at hentry
    unfold contentAt
    rw [hentry]
    split
    · next n hn => exact read_create (lt_of_entryAt hn) place
    · rfl

/-- Opening a file, or not getting to it, leaves what files hold. -/
theorem contentAt_openAppend (d : Disk) (p : Path) (other : Location) :
    (d.openAppend p).2.contentAt other = d.contentAt other := by
  unfold openAppend
  rcases fileFor_cases d p with
    ⟨fault, hfile⟩ | ⟨number, -, -, hfile⟩ | ⟨hnone, hplace, -, hfile⟩
  · rw [hfile]
  · rw [hfile]
  · rw [hfile]
    exact contentAt_create hnone hplace other

end Idempotency.Disk
