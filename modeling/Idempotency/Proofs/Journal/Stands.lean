import Idempotency.Proofs.Disk.Writing
import Idempotency.Proofs.Journal.Lines

/-!
# `Idempotency.Proofs.Journal.Stands`: a journal and the file at its path

`Journal.Stands j d content` ties an open journal to the disk: the file at its
path holds `content`, and it is the file that the journal's handle writes at the
end of. Every operation has a lemma that says what becomes of it if no step on
the disk fails:

- `Journal.openAt_ok`: a file that replays is opened, and left as it is;
- `Journal.put_inserted`: a new record's line is added at the end;
- `Journal.compact_ok`: the lines are those of the records that are left.

Compaction changes the file and the handle, so `Stands` does not say which file
it is or how the handle was opened.
-/

set_option autoImplicit false

namespace Idempotency.Journal

deriving instance DecidableEq for Disk, Journal

variable {j j' : Journal} {d d' : Disk} {content : Bytes} {r : Record} {now : Instant}

/-- The file at the journal's path holds the content, and the journal writes at
its end. -/
structure Stands (j : Journal) (d : Disk) (content : Bytes) : Prop where
  entry : d.entryAt (Path.ofText j.path).place = some (.file j.handle.file)
  holds : d.read j.handle.file = content
  atEnd : d.WritesAtEnd j.handle

/-- The file at the journal's path has the content on which the journal stands. -/
theorem Stands.contentAt (h : j.Stands d content) :
    d.contentAt (Path.ofText j.path).place = content := by
  rw [Disk.contentAt_of_file h.entry, h.holds]

/-- What the index holds plays no part in it. -/
theorem Stands.withIndex (h : j.Stands d content) (ix : Index) :
    ({ j with index := ix } : Journal).Stands d content :=
  ⟨h.entry, h.holds, h.atEnd⟩

/-- A journal stands as before where only the fates of coming steps differ. -/
theorem Stands.congr (h : j.Stands d content) (hentries : d'.entries = d.entries)
    (hcontents : d'.contents = d.contents) : j.Stands d' content where
  entry := by rw [Disk.entryAt_congr hentries, h.entry]
  holds := by rw [Disk.read_congr hcontents, h.holds]
  atEnd := h.atEnd.congr hcontents

/-! ### Opening -/

/-- If no step on the disk fails, a file that replays is opened. -/
theorem openAt_ok {path : String} {s : Replay}
    (hreplay : replay now (d.contentAt (Path.ofText path).place) = .ok s)
    (hfault : ∀ fault, (openAt path now d).1 ≠ .error (.io fault)) :
    ∃ j events d', openAt path now d = (.ok j, events, d') ∧ j.path = path ∧ j.index = s.index
      ∧ j.Stands d' (d.contentAt (Path.ofText path).place) := by
  unfold openAt at hfault ⊢
  cases hparent : d.createParent (Path.ofText path) with
  | mk made disk =>
    -- The directories that are created on the way leave the file as it is.
    have hsame := Disk.contentAt_createParent hparent (Path.ofText path).place
    simp only [hparent] at hfault ⊢
    cases made with
    | error fault => exact absurd rfl (hfault fault)
    | ok made =>
      cases hopen : disk.openAppend (Path.ofText path) with
      | mk opened d' =>
        simp only [hopen] at hfault ⊢
        cases opened with
        | error fault => exact absurd rfl (hfault fault)
        | ok handle =>
          obtain ⟨hposition, hentry, hread⟩ := Disk.openAppend_ok hopen
          rw [hsame] at hread
          simp only [hread, hreplay]
          refine ⟨_, _, _, rfl, rfl, rfl, hentry, hread, ?_⟩
          show handle.position.getD _ = _
          rw [hposition]
          rfl

/-! ### Putting -/

/-- The pieces in which a record is written are its line. -/
theorem flatten_pieces (r : Record) : (pieces r).flatten = line r := by
  simp [pieces, line]

/-- A record that gets into the file has its line at the end. -/
theorem append_ok (h : j.Stands d content) (happend : j.append r d = (none, j', d')) :
    j'.path = j.path ∧ j'.index = j.index ∧ j'.Stands d' (content ++ line r) := by
  unfold append at happend
  simp only at happend
  split at happend
  · exact nomatch happend
  · next hfault =>
    have hextends := Disk.writeAll_ok (Disk.lt_of_entryAt h.entry) h.atEnd hfault
    simp only [Prod.mk.injEq] at happend
    obtain ⟨_, rfl, rfl⟩ := happend
    refine ⟨rfl, rfl, Stands.congr ⟨?_, ?_, hextends.atEnd⟩ (Disk.entries_sync _)
      (Disk.contents_sync _)⟩
    · rw [Disk.entryAt_congr hextends.entries, hextends.file]
      exact h.entry
    · rw [hextends.file, hextends.read, h.holds, flatten_pieces]

/-- If no step on the disk fails, a record with a free key is stored, and its line
is at the end of the file. -/
theorem put_inserted (h : j.Stands d content) (hjudge : j.index.judge r = .ok none)
    (hfault : ∀ reason, (j.put r d).1 ≠ .error (.storage reason)) :
    ∃ j' d', j.put r d = (.ok .inserted, j', d') ∧ j'.path = j.path
      ∧ j'.index = j.index.store r ∧ j'.Stands d' (content ++ line r) := by
  unfold put at hfault ⊢
  simp only [hjudge] at hfault ⊢
  cases happend : j.append r d with
  | mk fault rest =>
    obtain ⟨next, disk⟩ := rest
    simp only [happend] at hfault ⊢
    cases fault with
    | some fault => exact absurd rfl (hfault _)
    | none =>
      obtain ⟨hpath, hindex, hstands⟩ := append_ok h happend
      exact ⟨_, _, rfl, hpath, by rw [hindex], hstands.withIndex _⟩

/-! ### Compacting -/

/-- The pieces of several records are their lines. -/
theorem flatten_flatMap_pieces (rs : List Record) :
    (rs.flatMap pieces).flatten = rs.flatMap line := by
  induction rs with
  | nil => rfl
  | cons r rs ih =>
    rw [List.flatMap_cons, List.flatten_append, flatten_pieces, ih, List.flatMap_cons]

/-- A compaction that goes through leaves the lines of the records that have not
expired. -/
theorem compact_ok {dropped : Nat} {events : List Event}
    (hcompact : j.compact now d = (.ok dropped, j', events, d')) :
    dropped = j.index.expiredCount now ∧ j'.path = j.path ∧ j'.index = j.index.live now
      ∧ j'.Stands d' ((j.index.live now).toList.flatMap line) := by
  unfold compact at hcompact
  simp only at hcompact
  split at hcompact
  · exact nomatch hcompact
  · next handle disk hopen =>
    split at hcompact
    · exact nomatch hcompact
    · next hfault =>
      split at hcompact
      · exact nomatch hcompact
      · next synced hsync =>
        split at hcompact
        · exact nomatch hcompact
        · next moved hrename =>
          obtain ⟨hposition, hdraft, hempty⟩ := Disk.openFresh_ok hopen
          have hextends := Disk.writeAll_ok (Disk.lt_of_entryAt hdraft)
            (Disk.writesAtEnd_start hposition hempty) hfault
          obtain rfl : _ = synced := congrArg Prod.snd hsync
          obtain ⟨n, hfrom, hto, hmoved⟩ := Disk.rename_ok hrename
          -- What is moved is the file that was written.
          have hsame : Entry.file n = .file handle.file := by
            rw [Disk.entryAt_congr ((Disk.entries_sync _).trans hextends.entries), hdraft] at hfrom
            exact (Option.some.inj hfrom).symm
          have hkept := hmoved.trans (Disk.contents_sync _)
          cases hcompact
          refine ⟨rfl, rfl, rfl, ⟨?_, ?_, hextends.atEnd.congr hkept⟩⟩
          · rw [hextends.file, ← hsame]
            exact hto
          · rw [Disk.read_congr hkept, hextends.file, hextends.read, hempty, List.nil_append,
              flatten_flatMap_pieces]

end Idempotency.Journal
