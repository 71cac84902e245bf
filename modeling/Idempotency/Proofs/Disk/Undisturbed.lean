import Idempotency.Proofs.Disk.Frame

/-!
# `Idempotency.Proofs.Disk.Undisturbed`: a disk on which steps go through

Two things make a step of writing fail: the limit on the length of files, and the fate
of the step. On a disk with neither (`Disk.Undisturbed`) every write goes through, and so
does bringing it to safety. What is left is how a file is got to. One is opened where the
names on the way are found and no directory stands (`exists_openFresh`), and it is moved
to where one could be opened (`rename_eq_none`).

None of these steps makes a directory or takes one away, as long as no directory is below
a file that is moved. `SameDirectories` says so, and with it ways that have been found
once are found again.
-/

set_option autoImplicit false

namespace Idempotency.Disk

variable {d d' d'' : Disk} {p source target : Path} {place other : Location} {n : Nat}
  {handle : Handle}

/-! ### No limit and no fates -/

/-- Files can have any length, and no step is to break off. -/
structure Undisturbed (d : Disk) : Prop where
  unlimited : d.limit = none
  fateless : d.fates = []

/-- The next step goes through. -/
theorem Undisturbed.nextFate (h : d.Undisturbed) : d.nextFate = (none, d) := by
  rw [Disk.nextFate, h.fateless]

/-- A write goes through, and disturbs nothing. -/
theorem Undisturbed.write (h : d.Undisturbed) (handle : Handle) (bytes : Bytes) :
    (d.write handle bytes).fault = none ∧ (d.write handle bytes).disk.Undisturbed := by
  have hroom : ∀ position count, d.room position count = count := fun position count => by
    rw [room, h.unlimited]
  unfold Disk.write
  simp only [h.nextFate, hroom]
  exact ⟨by simp, h.unlimited, h.fateless⟩

/-- So do several. -/
theorem Undisturbed.writeAll (h : d.Undisturbed) (handle : Handle) (pieces : List Bytes) :
    (d.writeAll handle pieces).fault = none ∧ (d.writeAll handle pieces).disk.Undisturbed := by
  induction pieces generalizing d handle with
  | nil => exact ⟨rfl, h⟩
  | cons piece pieces ih =>
    obtain ⟨hfault, hnext⟩ := h.write handle piece
    rw [Disk.writeAll]
    cases hwrite : d.write handle piece with
    | mk failed next disk =>
      rw [hwrite] at hfault hnext
      obtain rfl : failed = none := hfault
      exact ih hnext next

/-- What was written is brought to safety. -/
theorem Undisturbed.sync (h : d.Undisturbed) : d.sync = (none, d) := by
  unfold Disk.sync
  simp only [h.nextFate]
  rfl

/-- Creating directories disturbs nothing, whatever comes of it. -/
theorem Undisturbed.createParent (h : d.Undisturbed) (p : Path) :
    (d.createParent p).2.Undisturbed := by
  have hcreate : ∀ (names : List String) (here : Location) (e : Disk), e.Undisturbed →
      (e.createOn here names).2.Undisturbed := by
    intro names
    induction names with
    | nil => exact fun _ _ he => he
    | cons name names ih =>
      intro here e he
      rw [createOn]
      split
      · exact ih _ e he
      · split
        · exact he
        · split
          · exact ih _ e he
          · exact he
          · exact ih _ _ ⟨he.unlimited, he.fateless⟩
  unfold Disk.createParent
  split
  · exact h
  · unfold createDirectories
    split
    · exact h
    · exact hcreate _ _ d h

/-- Nor does looking for a file and creating it. -/
theorem Undisturbed.fileFor (h : d.Undisturbed) (p : Path) : (d.fileFor p).2.Undisturbed := by
  rcases fileFor_cases d p with ⟨_, hfile⟩ | ⟨_, -, -, hfile⟩ | ⟨-, -, -, hfile⟩
  · rw [hfile]
    exact h
  · rw [hfile]
    exact h
  · rw [hfile]
    exact ⟨h.unlimited, h.fateless⟩

/-- Nor does opening it to append. -/
theorem Undisturbed.openAppend (h : d.Undisturbed) (p : Path) :
    (d.openAppend p).2.Undisturbed := by
  have hfile := h.fileFor p
  unfold Disk.openAppend
  split
  · next heq => rwa [heq] at hfile
  · next heq => rwa [heq] at hfile

/-! ### The same directories -/

/-- The same directories are on both disks. -/
def SameDirectories (d d' : Disk) : Prop :=
  ∀ other, d'.entryAt other = some .directory ↔ d.entryAt other = some .directory

/-- A disk has its own directories. -/
theorem SameDirectories.refl (d : Disk) : d.SameDirectories d := fun _ => Iff.rfl

/-- Directories that stay in two steps stay in both together. -/
theorem SameDirectories.trans (h : d.SameDirectories d') (h' : d'.SameDirectories d'') :
    d.SameDirectories d'' := fun other => (h' other).trans (h other)

/-- Each of the directories is still there. -/
theorem SameDirectories.has (h : d.SameDirectories d') : d'.HasDirectoriesOf d :=
  fun other hother => (h other).2 hother

/-- A step that leaves all entries leaves the directories. -/
theorem sameDirectories_of_entries (h : d'.entries = d.entries) : d.SameDirectories d' :=
  fun other => by rw [entryAt_congr h]

/-- A file is opened, or created where nothing was. -/
theorem sameDirectories_fileFor (d : Disk) (p : Path) : d.SameDirectories (d.fileFor p).2 := by
  rcases fileFor_cases d p with ⟨_, hfile⟩ | ⟨_, -, -, hfile⟩ | ⟨hnone, hplace, -, hfile⟩
  · rw [hfile]
    exact .refl d
  · rw [hfile]
    exact .refl d
  · rw [hfile]
    intro other
    rw [entryAt_create hplace]
    split
    · next heq =>
      rw [heq, hnone]
      simp
    · exact Iff.rfl

/-! ### Where a file can be written anew -/

/-- The disk takes the names of the path, and no directory is where it leads, or below. -/
structure Takes (d : Disk) (p : Path) : Prop where
  locate : d.locate p = .ok p.place
  below : ∀ other, p.place <+: other → d.entryAt other ≠ some .directory

/-- Whether a disk takes a path can be read off its entries. -/
theorem takes_of_entries (hfound : (d.locate p).isOk = true) (hplace : p.place ≠ [])
    (hentries : ∀ entry ∈ d.entries, p.place <+: entry.1 → entry.2 ≠ .directory) : d.Takes p where
  locate := by
    cases hlocate : d.locate p with
    | error fault =>
      rw [hlocate] at hfound
      exact nomatch hfound
    | ok place => rw [locate_eq hlocate]
  below other hbelow hdirectory := by
    have hother : other ≠ [] := by
      rintro rfl
      exact hplace (List.prefix_nil.1 hbelow)
    rw [entryAt_of_ne_nil hother] at hdirectory
    obtain ⟨entry, hfind, hentry⟩ := Option.map_eq_some_iff.1 hdirectory
    have hat : entry.1 = other := by simpa using List.find?_some hfind
    exact hentries entry (List.mem_of_find?_eq_some hfind) (by rw [hat]; exact hbelow) hentry

/-- With the same directories, a disk takes the same paths. -/
theorem Takes.congr (h : d.Takes p) (hsame : d.SameDirectories d') : d'.Takes p where
  locate := locate_mono hsame.has h.locate
  below other hbelow hdirectory := h.below other hbelow ((hsame other).1 hdirectory)

/-- A path whose file has been opened is found, and can name a file. -/
theorem locate_of_openAppend (h : d.openAppend p = (.ok handle, d')) :
    d.locate p = .ok p.place ∧ p.isDirectory = false := by
  unfold openAppend fileFor at h
  cases hlocate : d.locate p with
  | error fault =>
    rw [hlocate] at h
    exact nomatch (Prod.mk.inj h).1
  | ok place =>
    obtain rfl := locate_eq hlocate
    refine ⟨rfl, Bool.eq_false_iff.2 fun hdirectory => ?_⟩
    simp only [hlocate, hdirectory, if_true] at h
    exact nomatch (Prod.mk.inj h).1

/-- Where the names are found and no directory stands, a file is found or created. -/
theorem exists_fileFor (hlocate : d.locate p = .ok p.place) (hfile : p.isDirectory = false)
    (hentry : d.entryAt p.place ≠ some .directory) : ∃ n, (d.fileFor p).1 = .ok n := by
  unfold fileFor
  simp only [hlocate, hfile, Bool.false_eq_true, if_false, fileAt]
  split
  · next hdirectory => exact absurd hdirectory hentry
  · exact ⟨_, rfl⟩
  · exact ⟨_, rfl⟩

/-- Then a file is opened anew. -/
theorem exists_openFresh (h : d.Undisturbed) (hlocate : d.locate p = .ok p.place)
    (hfile : p.isDirectory = false) (hentry : d.entryAt p.place ≠ some .directory) :
    ∃ handle d', d.openFresh p = (.ok handle, d') ∧ d'.Undisturbed ∧ d.SameDirectories d' := by
  obtain ⟨n, hn⟩ := exists_fileFor hlocate hfile hentry
  have hundisturbed := h.fileFor p
  have hsame := sameDirectories_fileFor d p
  unfold openFresh
  simp only [h.nextFate]
  cases hopen : d.fileFor p with
  | mk outcome d' =>
    rw [hopen] at hn hundisturbed hsame
    obtain rfl : outcome = .ok n := hn
    exact ⟨_, _, rfl, ⟨hundisturbed.unlimited, hundisturbed.fateless⟩, hsame⟩

/-- And then a file is opened to append. -/
theorem exists_openAppend (hlocate : d.locate p = .ok p.place) (hfile : p.isDirectory = false)
    (hentry : d.entryAt p.place ≠ some .directory) :
    ∃ handle d', d.openAppend p = (.ok handle, d') ∧ d.SameDirectories d' := by
  obtain ⟨n, hn⟩ := exists_fileFor hlocate hfile hentry
  have hsame := sameDirectories_fileFor d p
  unfold openAppend
  cases hopen : d.fileFor p with
  | mk outcome d' =>
    rw [hopen] at hn hsame
    obtain rfl : outcome = .ok n := hn
    exact ⟨_, _, rfl, hsame⟩

/-! ### Moving -/

/-- A file is moved to a place that is found and holds no directory. -/
theorem rename_eq_none (h : d.Undisturbed) (hsource : d.locate source = .ok source.place)
    (htarget : d.locate target = .ok target.place)
    (hfile : d.entryAt source.place = some (.file n))
    (hentry : d.entryAt target.place ≠ some .directory) :
    ∃ d', d.rename source target = (none, d') ∧ d'.Undisturbed := by
  have hsame := entryAt_congr (entries_nextFate d) source.place
  unfold rename
  simp only [h.nextFate, hsource, htarget]
  split
  · next hsome => cases hsome
  · split
    · exact ⟨_, rfl, h.unlimited, h.fateless⟩
    · next hdirectory => cases hfile.symm.trans (hsame.symm.trans hdirectory)
    · next hnone => cases hfile.symm.trans (hsame.symm.trans hnone)

/-- If there is no directory below it, moving a file leaves the directories. -/
theorem sameDirectories_rename (h : d.rename source target = (none, d'))
    (hbelow : ∀ other, source.place <+: other → d.entryAt other ≠ some .directory) :
    d.SameDirectories d' := by
  have hentries := entries_nextFate d
  unfold rename at h
  simp only at h
  split at h
  · cases h
  · split at h
    · next hsource htarget =>
      obtain rfl := locate_eq hsource
      obtain rfl := locate_eq htarget
      split at h
      · split at h
        · cases h
        · next hdirectory =>
          cases h
          intro other
          rw [entryAt_congr hentries] at hdirectory
          rw [entryAt_withEntry _ (ne_nil_of_entryAt hdirectory)]
          split
          · next heq =>
            rw [heq]
            exact iff_of_false (by simp) hdirectory
          · by_cases hother : other = []
            · rw [hother]
              exact Iff.rfl
            · rw [entryAt_withoutEntry hother, entryAt_congr hentries]
              split
              · next hprefix => exact iff_of_false (by simp) (hbelow other hprefix)
              · exact Iff.rfl
      · cases h
      · cases h
    · cases h
    · cases h

end Idempotency.Disk
