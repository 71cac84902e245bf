import Idempotency.Disk.Basic

/-!
# `Idempotency.Proofs.Disk.Place`: where paths lead, and what stands there

A path leads to the same place on every disk on which it leads anywhere
(`Disk.locate_eq`), so a journal finds its file again after directories have
been created and files have been moved. `Disk.contentAt` is what a place holds;
a place with no file holds nothing.

Then, what the operations on places do: directories are created where nothing
was (`Disk.contentAt_createParent`), a file is opened at the place of its
path (`Disk.fileFor_cases`), and a rename puts it at another place
(`Disk.rename_ok`).
-/

set_option autoImplicit false

namespace Idempotency

/-! ### Places -/

namespace Path

/-- Where names lead from a location. -/
def descend : Location → List String → Location
  | here, [] => here
  | here, name :: names =>
    if name = ".." then descend here.dropLast names else descend (here ++ [name]) names

/-- Where a path leads. -/
def place (p : Path) : Location := descend [] p.parts

/-- A way down is its first part, and then the rest from there. -/
theorem descend_append (here : Location) (names later : List String) :
    descend here (names ++ later) = descend (descend here names) later := by
  induction names generalizing here with
  | nil => rfl
  | cons name names ih =>
    rw [List.cons_append, descend, descend]
    split
    · exact ih _
    · exact ih _

end Path

namespace Disk

variable {d d' : Disk} {p : Path} {here place other : Location} {n : Nat} {e : Entry}

/-- Going down gets where the names lead. -/
theorem walk_eq {names : List String} (h : d.walk here names = .ok place) :
    place = Path.descend here names := by
  -- Each name moves the location, so the induction is for every location.
  induction names generalizing here with
  | nil =>
    cases h
    rfl
  | cons name names ih =>
    rw [walk] at h
    rw [Path.descend]
    split at h
    · next hup =>
      rw [if_pos hup]
      exact ih h
    · next hup =>
      rw [if_neg hup]
      split at h
      · exact nomatch h
      · split at h
        · exact ih h
        · exact nomatch h
        · exact nomatch h

/-- A path that is found leads to its place. -/
theorem locate_eq (h : d.locate p = .ok place) : place = p.place := by
  unfold locate at h
  split at h
  · exact nomatch h
  · split at h
    · next hlast =>
      have hparts : p.parts = [] := List.getLast?_eq_none_iff.1 hlast
      cases h
      rw [Path.place, hparts]
      rfl
    · next name hlast =>
      -- Only the names before the last are walked: what the last one names need
      -- not be there yet.
      obtain ⟨front, hparts⟩ := List.getLast?_eq_some_iff.1 hlast
      rw [hparts, List.dropLast_concat] at h
      cases hwalk : d.walk [] front with
      | error fault =>
        rw [hwalk] at h
        exact nomatch h
      | ok dir =>
        have hdir : dir = Path.descend [] front := walk_eq hwalk
        rw [hwalk] at h
        simp only [bind, Except.bind] at h
        rw [Path.place, hparts, Path.descend_append, ← hdir, Path.descend]
        split at h
        · next hup =>
          cases h
          rw [if_pos hup, Path.descend]
        · next hup =>
          split at h
          · exact nomatch h
          · cases h
            rw [if_neg hup, Path.descend]

/-! ### Entries and contents -/

/-- What is no directory is below the top. -/
theorem ne_nil_of_entryAt (h : d.entryAt place ≠ some .directory) : place ≠ [] := by
  rintro rfl
  exact h rfl

/-- Below the top, an entry is where the disk lists it. -/
theorem entryAt_of_ne_nil (h : place ≠ []) :
    d.entryAt place = (d.entries.find? (·.1 == place)).map (·.2) := by
  rw [entryAt, if_neg (by simpa using h)]

/-- A new entry is at its place; nothing changes at others. -/
theorem entryAt_withEntry (d : Disk) (hplace : place ≠ [])
    (he : ∀ n, e = .file n → n < d.contents.length) (other : Location) :
    (d.withEntry place e he).entryAt other
      = if other = place then some e else d.entryAt other := by
  by_cases hnil : other = []
  · subst hnil
    rw [if_neg (fun h => hplace h.symm)]
    rfl
  · rw [entryAt_of_ne_nil hnil, entryAt_of_ne_nil hnil]
    split
    · next h =>
      subst h
      simp [withEntry]
    · next h =>
      have hhead : ((place, e).1 == other) = false := by
        simpa using fun heq : place = other => h heq.symm
      -- What is filtered out is at the place, so it is not what is looked for.
      have hfilter : (d.entries.filter (·.1 != place)).find? (·.1 == other)
          = d.entries.find? (·.1 == other) := by
        rw [List.find?_filter]
        congr 1
        funext entry
        by_cases heq : entry.1 = other
        · simp [heq, h]
        · simp [heq]
      rw [withEntry, List.find?_cons, hhead, hfilter]

/-- What the file at a place holds; nothing, if there is none. -/
def contentAt (d : Disk) (place : Location) : Bytes :=
  match d.entryAt place with
  | some (.file n) => d.read n
  | _ => []

/-- A place with a file has what the file holds. -/
theorem contentAt_of_file (h : d.entryAt place = some (.file n)) :
    d.contentAt place = d.read n := by
  rw [contentAt, h]

/-- A place with nothing counts as empty. -/
theorem contentAt_of_none (h : d.entryAt place = none) : d.contentAt place = [] := by
  rw [contentAt, h]

/-! ### Creating directories -/

/-- Going down creates directories where nothing was, and leaves what files
hold. -/
theorem createOn_frame (names : List String) (d : Disk) (here : Location) :
    (d.createOn here names).2.contents = d.contents
      ∧ ∀ other n, (d.createOn here names).2.entryAt other = some (.file n)
          ↔ d.entryAt other = some (.file n) := by
  induction names generalizing d here with
  | nil => exact ⟨rfl, fun _ _ => Iff.rfl⟩
  | cons name names ih =>
    rw [createOn]
    split
    · exact ih d _
    · split
      · exact ⟨rfl, fun _ _ => Iff.rfl⟩
      · split
        · exact ih d _
        · exact ⟨rfl, fun _ _ => Iff.rfl⟩
        · next hnone =>
          -- Nothing was where the directory is created, so no file is lost.
          obtain ⟨hcontents, hfiles⟩ := ih (d.withDirectory (here ++ [name])) (here ++ [name])
          refine ⟨hcontents, fun other n => ?_⟩
          rw [hfiles, withDirectory, entryAt_withEntry d (by simp)]
          split
          · next heq =>
            rw [heq, hnone]
            simp
          · exact Iff.rfl

/-- Creating directories changes no file. -/
theorem contentAt_createDirectories (d : Disk) (p : Path) (other : Location) :
    (d.createDirectories p).2.contentAt other = d.contentAt other := by
  unfold createDirectories
  split
  · rfl
  · obtain ⟨hcontents, hfiles⟩ := createOn_frame p.parts d []
    have hread : ∀ n, (d.createOn [] p.parts).2.read n = d.read n := fun n => by
      rw [read, read, hcontents]
    unfold contentAt
    split
    · next n hfile =>
      rw [(hfiles other n).1 hfile]
      exact hread n
    · next hnofile =>
      split
      · next n hfile => exact absurd ((hfiles other n).2 hfile) (hnofile n)
      · rfl

/-- Creating directories changes no content. -/
theorem contentAt_createParent {made : Except Fault Unit} (h : d.createParent p = (made, d'))
    (other : Location) : d'.contentAt other = d.contentAt other := by
  unfold createParent at h
  split at h
  · cases h
    rfl
  · next parent _ =>
    rw [← contentAt_createDirectories d parent, h]

/-! ### Files at places -/

/-- A new file is at its place and holds nothing. -/
theorem create_ok (hplace : place ≠ []) (h : d.create place = (n, d')) :
    d'.entryAt place = some (.file n) ∧ d'.read n = [] := by
  cases h
  refine ⟨?_, ?_⟩
  · rw [entryAt_withEntry d.withFile hplace, if_pos rfl]
  · simp [read, withEntry, withFile]

/-- A file is created at its place, and nothing changes at any other. -/
theorem entryAt_create (hplace : place ≠ []) (other : Location) :
    (d.create place).2.entryAt other
      = if other = place then some (.file d.contents.length) else d.entryAt other :=
  entryAt_withEntry d.withFile hplace (fun _ h => by cases h; simp [withFile]) other

/-- The contents of a new file come after all others. -/
theorem read_create (h : n < d.contents.length) (place : Location) :
    (d.create place).2.read n = d.read n := by
  show (d.contents ++ [[]]).getD n [] = d.contents.getD n []
  rw [List.getD_eq_getElem?_getD, List.getD_eq_getElem?_getD, List.getElem?_append_left h]

/-- What opening the file of a path comes to. -/
theorem fileFor_cases (d : Disk) (p : Path) :
    (∃ fault, d.fileFor p = (.error fault, d))
      ∨ (∃ n, d.entryAt p.place = some (.file n) ∧ p.isDirectory = false
        ∧ d.fileFor p = (.ok n, d))
      ∨ d.entryAt p.place = none ∧ p.place ≠ [] ∧ p.isDirectory = false
        ∧ d.fileFor p = (.ok d.contents.length, (d.create p.place).2) := by
  unfold fileFor
  cases hlocate : d.locate p with
  | error fault => exact .inl ⟨fault, rfl⟩
  | ok place =>
    obtain rfl := locate_eq hlocate
    cases hdirectory : p.isDirectory with
    | true => exact .inl ⟨.directory, rfl⟩
    | false =>
      simp only [Bool.false_eq_true, if_false, fileAt]
      cases hentry : d.entryAt p.place with
      | none =>
        have hplace : p.place ≠ [] := ne_nil_of_entryAt (d := d) (by rw [hentry]; simp)
        exact .inr (.inr ⟨rfl, hplace, trivial, rfl⟩)
      | some entry =>
        cases entry with
        | directory => exact .inl ⟨.directory, rfl⟩
        | file n => exact .inr (.inl ⟨n, rfl, trivial, rfl⟩)

/-- The file of a path is at the path's place, and holds what the place
held. -/
theorem fileFor_ok (h : d.fileFor p = (.ok n, d')) :
    d'.entryAt p.place = some (.file n) ∧ d'.read n = d.contentAt p.place := by
  rcases fileFor_cases d p with
    ⟨fault, hfile⟩ | ⟨number, hentry, -, hfile⟩ | ⟨hnone, hplace, -, hfile⟩
  · rw [hfile] at h
    exact nomatch (Prod.mk.inj h).1
  · rw [hfile] at h
    cases h
    exact ⟨hentry, (contentAt_of_file hentry).symm⟩
  · rw [hfile] at h
    cases h
    rw [contentAt_of_none hnone]
    exact create_ok hplace rfl

/-- A file that is opened to append is the one at the place of its path. It holds what
was there, and is written at its end. -/
theorem openAppend_ok {handle : Handle} (h : d.openAppend p = (.ok handle, d')) :
    handle.position = none ∧ d'.entryAt p.place = some (.file handle.file)
      ∧ d'.read handle.file = d.contentAt p.place := by
  unfold openAppend at h
  split at h
  · exact nomatch h
  · next number disk hfile =>
    cases h
    exact ⟨rfl, fileFor_ok hfile⟩

/-- A file holds what it is given. -/
theorem read_withContent (h : n < d.contents.length) (content : Bytes) :
    (d.withContent n content).read n = content := by
  simp [read, withContent, h]

/-- A file that is opened anew is the one at the place of its path. It is empty, and
written from its start. -/
theorem openFresh_ok {handle : Handle} (h : d.openFresh p = (.ok handle, d')) :
    handle.position = some 0 ∧ d'.entryAt p.place = some (.file handle.file)
      ∧ d'.read handle.file = [] := by
  unfold openFresh at h
  simp only at h
  split at h
  · exact nomatch h
  · split at h
    · exact nomatch h
    · next number disk hfile =>
      cases h
      obtain ⟨hentry, _⟩ := fileFor_ok hfile
      exact ⟨rfl, hentry, read_withContent (lt_of_entryAt hentry) []⟩

/-! ### Moving files -/

/-- What becomes of the next step does not depend on entries, nor change them. -/
theorem entries_nextFate (d : Disk) : d.nextFate.2.entries = d.entries := by
  unfold nextFate
  split
  · rfl
  · rfl

/-- Nor does it change what files hold. -/
theorem contents_nextFate (d : Disk) : d.nextFate.2.contents = d.contents := by
  unfold nextFate
  split
  · rfl
  · rfl

/-- What is at a place is one of the entries. -/
theorem entryAt_congr (h : d'.entries = d.entries) (place : Location) :
    d'.entryAt place = d.entryAt place := by
  rw [entryAt, entryAt, h]

/-- What a file holds is one of the contents. -/
theorem read_congr (h : d'.contents = d.contents) (n : Nat) : d'.read n = d.read n := by
  rw [read, read, h]

/-- A file that has been moved is at its new place. -/
theorem rename_ok {source target : Path} (h : d.rename source target = (none, d')) :
    ∃ n, d.entryAt source.place = some (.file n) ∧ d'.entryAt target.place = some (.file n)
      ∧ d'.contents = d.contents := by
  unfold rename at h
  simp only at h
  split at h
  · exact nomatch h
  · split at h
    · next source' target' hsource htarget =>
      have hsource' := locate_eq hsource
      have htarget' := locate_eq htarget
      subst hsource' htarget'
      split at h
      · next n hentry =>
        split at h
        · exact nomatch h
        · next hdirectory =>
          cases h
          refine ⟨n, ?_, ?_, contents_nextFate d⟩
          · rw [← hentry, entryAt_congr (entries_nextFate d)]
          · rw [entryAt_withEntry _ (ne_nil_of_entryAt hdirectory), if_pos rfl]
      · exact nomatch h
      · exact nomatch h
    · exact nomatch h
    · exact nomatch h

end Disk

end Idempotency
