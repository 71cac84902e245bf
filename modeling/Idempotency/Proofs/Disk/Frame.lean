import Idempotency.Proofs.Disk.Reopen
import Idempotency.Proofs.Disk.Writing

/-!
# `Idempotency.Proofs.Disk.Frame`: what steps on one file leave of another

What is done to one file does not touch another. `Disk.Sits` says that a file is at a
place, what it holds, and that a second place does not lead to it. Opening a file anew
at the second place and writing to that keep it so (`Sits.openFresh`,
`Sits.writeAll`), and so does a step that fails (`openFresh_failed`, `rename_failed`).
Opening a file that is there to append changes no file at all
(`openAppend_of_entry`).
-/

set_option autoImplicit false

namespace Idempotency.Disk

variable {d d' : Disk} {p : Path} {place other : Location} {n m : Nat} {handle : Handle}
  {content : Bytes} {fault : Fault}

/-! ### Files at one place -/

/-- No file is at two places. -/
def Separate (d : Disk) : Prop :=
  ∀ a b n, d.entryAt a = some (.file n) → d.entryAt b = some (.file n) → a = b

/-- Where no file is, none is at two places. -/
theorem separate_empty : empty.Separate := fun a _ n ha => by
  have hlt := lt_of_entryAt ha
  exact absurd hlt (Nat.not_lt_zero n)

/-- The same files are at the same places. -/
def SameFiles (d d' : Disk) : Prop :=
  ∀ other n, d'.entryAt other = some (.file n) ↔ d.entryAt other = some (.file n)

/-- A step that leaves all entries leaves the files where they are. -/
theorem sameFiles_of_entries (h : d'.entries = d.entries) : d.SameFiles d' := fun other n => by
  rw [entryAt_congr h]

/-- What is at a place depends on the entries and on what files hold. -/
theorem contentAt_congr (hentries : d'.entries = d.entries) (hcontents : d'.contents = d.contents)
    (place : Location) : d'.contentAt place = d.contentAt place := by
  unfold contentAt
  rw [entryAt_congr hentries]
  split
  · exact read_congr hcontents _
  · rfl

/-- The file with a number is at a place and holds the content, and another place does
not lead to it. -/
structure Sits (d : Disk) (place other : Location) (n : Nat) (content : Bytes) : Prop where
  entry : d.entryAt place = some (.file n)
  holds : d.read n = content
  apart : d.entryAt other ≠ some (.file n)

/-- The file stays if files stay where they are and it holds what it did. -/
theorem Sits.congr (h : d.Sits place other n content) (hfiles : d.SameFiles d')
    (hread : d'.read n = d.read n) : d'.Sits place other n content where
  entry := (hfiles place n).2 h.entry
  holds := hread.trans h.holds
  apart hother := h.apart ((hfiles other n).1 hother)

/-- So does the separation of files. -/
theorem Separate.congr (h : d.Separate) (hfiles : d.SameFiles d') : d'.Separate :=
  fun a b n ha hb => h a b n ((hfiles a n).1 ha) ((hfiles b n).1 hb)

/-- A new file is at no other place. -/
theorem Separate.create (h : d.Separate) (hplace : place ≠ []) : (d.create place).2.Separate := by
  have hnew : ∀ a, d.entryAt a ≠ some (.file d.contents.length) := fun a ha =>
    Nat.lt_irrefl _ (lt_of_entryAt ha)
  intro a b n ha hb
  rw [entryAt_create hplace] at ha hb
  by_cases haplace : a = place
  · by_cases hbplace : b = place
    · rw [haplace, hbplace]
    · rw [if_pos haplace] at ha
      rw [if_neg hbplace, ← ha] at hb
      exact absurd hb (hnew b)
  · by_cases hbplace : b = place
    · rw [if_pos hbplace] at hb
      rw [if_neg haplace, ← hb] at ha
      exact absurd ha (hnew a)
    · rw [if_neg haplace] at ha
      rw [if_neg hbplace] at hb
      exact h a b n ha hb

/-! ### Opening -/

/-- Whichever file is opened, or created, the others stay. -/
theorem fileFor_frame (h : d.fileFor p = (.ok n, d')) (hentry : d.entryAt other = some (.file m))
    (hapart : d.entryAt p.place ≠ some (.file m)) :
    n ≠ m ∧ d'.entryAt other = some (.file m) ∧ d'.read m = d.read m := by
  rcases fileFor_cases d p with
    ⟨fault, hfile⟩ | ⟨number, hthere, -, hfile⟩ | ⟨hnone, hplace, -, hfile⟩
  · rw [hfile] at h
    exact nomatch (Prod.mk.inj h).1
  · rw [hfile] at h
    cases h
    refine ⟨?_, hentry, rfl⟩
    rintro rfl
    exact hapart hthere
  · have hlt := lt_of_entryAt hentry
    have hne : other ≠ p.place := by
      rintro rfl
      rw [hnone] at hentry
      exact nomatch hentry
    rw [hfile] at h
    cases h
    refine ⟨Nat.ne_of_gt hlt, ?_, ?_⟩
    · rw [entryAt_create hplace, if_neg hne, hentry]
    · exact read_create hlt p.place

/-! ### Opening to append -/

/-- Creating directories touches no file. -/
theorem createParent_frame (d : Disk) (p : Path) :
    (d.createParent p).2.contents = d.contents ∧ d.SameFiles (d.createParent p).2 := by
  unfold createParent
  split
  · exact ⟨rfl, fun _ _ => Iff.rfl⟩
  · next parent _ =>
    unfold createDirectories
    split
    · exact ⟨rfl, fun _ _ => Iff.rfl⟩
    · exact createOn_frame parent.parts d []

/-- A file that is there is opened, or is not got to. -/
theorem openAppend_of_entry (h : d.entryAt p.place = some (.file n)) :
    (d.openAppend p).2 = d ∧ ∀ handle, (d.openAppend p).1 = .ok handle → handle.file = n := by
  unfold openAppend
  rcases fileFor_cases d p with
    ⟨fault, hfile⟩ | ⟨number, hthere, -, hfile⟩ | ⟨hnone, -, -, -⟩
  · rw [hfile]
    exact ⟨rfl, nofun⟩
  · rw [hfile]
    refine ⟨rfl, fun handle hok => ?_⟩
    cases hok
    rw [h] at hthere
    exact (Entry.file.inj (Option.some.inj hthere)).symm
  · rw [hnone] at h
    exact nomatch h

/-- Opening a file to append keeps files separate. The path that is opened is not
written as that of a directory. -/
theorem Separate.openAppend (hsep : d.Separate) (h : d.openAppend p = (.ok handle, d')) :
    d'.Separate ∧ p.isDirectory = false := by
  unfold Disk.openAppend at h
  rcases fileFor_cases d p with
    ⟨fault, hfile⟩ | ⟨number, -, hdirectory, hfile⟩ | ⟨-, hplace, hdirectory, hfile⟩
  · rw [hfile] at h
    exact nomatch (Prod.mk.inj h).1
  · rw [hfile] at h
    cases h
    exact ⟨hsep, hdirectory⟩
  · rw [hfile] at h
    cases h
    exact ⟨hsep.create hplace, hdirectory⟩

/-! ### Opening anew -/

/-- What is written to a file is not in another. -/
theorem read_withContent_of_ne (hne : n ≠ m) (content : Bytes) :
    (d.withContent n content).read m = d.read m := by
  simp only [read, withContent, List.getD_eq_getElem?_getD, List.getElem?_set_ne hne]

/-- What is opened anew is another file, and the file stays. -/
theorem Sits.openFresh (h : d.Sits place p.place n content)
    (hopen : d.openFresh p = (.ok handle, d')) :
    handle.file ≠ n ∧ d'.Sits place p.place n content := by
  obtain ⟨-, hdraft, -⟩ := openFresh_ok hopen
  unfold Disk.openFresh at hopen
  simp only at hopen
  split at hopen
  · exact nomatch (Prod.mk.inj hopen).1
  · split at hopen
    · exact nomatch (Prod.mk.inj hopen).1
    · next number disk hfile =>
      have hentries := entries_nextFate d
      obtain ⟨hne, hstays, hread⟩ := fileFor_frame hfile
        (by rw [entryAt_congr hentries, h.entry]) (by rw [entryAt_congr hentries]; exact h.apart)
      cases hopen
      refine ⟨hne, hstays, ?_, fun heq => ?_⟩
      · rw [read_withContent_of_ne hne, hread, read_congr (contents_nextFate d), h.holds]
      · rw [hdraft] at heq
        exact hne (Entry.file.inj (Option.some.inj heq))

/-- A file that is not opened anew leaves the disk as it was. -/
theorem openFresh_failed (h : d.openFresh p = (.error fault, d')) :
    d'.entries = d.entries ∧ d'.contents = d.contents := by
  have hsame := And.intro (entries_nextFate d) (contents_nextFate d)
  unfold openFresh at h
  simp only at h
  split at h
  · cases h
    exact hsame
  · rcases fileFor_cases d.nextFate.2 p with
      ⟨fault, hfile⟩ | ⟨number, -, -, hfile⟩ | ⟨-, -, -, hfile⟩
    · rw [hfile] at h
      cases h
      exact hsame
    · rw [hfile] at h
      exact nomatch (Prod.mk.inj h).1
    · rw [hfile] at h
      exact nomatch (Prod.mk.inj h).1

/-! ### Writing -/

/-- So does a single write. -/
theorem Sits.write (h : d.Sits place other n content) (hne : handle.file ≠ n) (bytes : Bytes) :
    (d.write handle bytes).disk.Sits place other n content := by
  refine h.congr (sameFiles_of_entries (entries_nextFate d)) ?_
  show (d.nextFate.2.withContent handle.file _).read n = d.read n
  rw [read_withContent_of_ne hne, read_congr (contents_nextFate d)]

/-- Writing to another file leaves the file. -/
theorem Sits.writeAll {pieces : List Bytes} (h : d.Sits place other n content)
    (hne : handle.file ≠ n) : (d.writeAll handle pieces).disk.Sits place other n content := by
  induction pieces generalizing d handle with
  | nil => exact h
  | cons piece pieces ih =>
    have hfirst := h.write hne piece
    have hfile : (d.write handle piece).handle.file = handle.file := rfl
    rw [Disk.writeAll]
    cases hwrite : d.write handle piece with
    | mk failed next disk =>
      rw [hwrite] at hfirst hfile
      cases failed with
      | some fault => exact hfirst
      | none => exact ih hfirst (by rwa [hfile])

/-! ### Moving -/

/-- A file that is not moved leaves the disk as it was. -/
theorem rename_failed {source target : Path} (h : d.rename source target = (some fault, d')) :
    d'.entries = d.entries ∧ d'.contents = d.contents := by
  have hsame := And.intro (entries_nextFate d) (contents_nextFate d)
  unfold rename at h
  simp only at h
  split at h
  · cases h
    exact hsame
  · split at h
    · split at h
      · split at h
        · cases h
          exact hsame
        · cases h
      · cases h
        exact hsame
      · cases h
        exact hsame
    · cases h
      exact hsame
    · cases h
      exact hsame

/-- What is at a place and below it goes. -/
theorem entryAt_withoutEntry (hother : other ≠ []) :
    (d.withoutEntry place).entryAt other
      = if place <+: other then none else d.entryAt other := by
  rw [entryAt_of_ne_nil hother, entryAt_of_ne_nil hother, withoutEntry, List.find?_filter]
  split
  · next hbelow =>
    rw [Option.map_eq_none_iff, List.find?_eq_none]
    intro entry _ heq
    simp only [Bool.decide_and, Bool.and_eq_true, decide_eq_true_eq, beq_iff_eq] at heq
    rw [heq.2, List.isPrefixOf_iff_prefix.2 hbelow] at heq
    exact absurd heq.1 (by decide)
  · next hbelow =>
    -- What is looked for is not among what goes.
    congr 2
    funext entry
    by_cases heq : entry.1 = other
    · have hkept : place.isPrefixOf other = false :=
        Bool.eq_false_iff.2 fun hprefix => hbelow (List.isPrefixOf_iff_prefix.1 hprefix)
      simp [heq, hkept]
    · simp [heq]

/-- What has been moved elsewhere is not at its old place. -/
theorem rename_source {source target : Path} (h : d.rename source target = (none, d'))
    (hne : source.place ≠ target.place) : d'.entryAt source.place = none := by
  unfold rename at h
  simp only at h
  split at h
  · cases h
  · split at h
    · next source' target' hsource htarget =>
      obtain rfl := locate_eq hsource
      obtain rfl := locate_eq htarget
      split at h
      · next n hentry =>
        split at h
        · cases h
        · next hdirectory =>
          have hplace : source.place ≠ [] := ne_nil_of_entryAt (d := d.nextFate.2) (by
            rw [hentry]
            simp)
          cases h
          rw [entryAt_withEntry _ (ne_nil_of_entryAt hdirectory), if_neg hne,
            entryAt_withoutEntry hplace, if_pos (List.prefix_refl _)]
      · cases h
      · cases h
    · cases h
    · cases h

end Idempotency.Disk
