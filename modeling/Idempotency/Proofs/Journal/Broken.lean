import Idempotency.Proofs.Disk.Extension
import Idempotency.Proofs.Journal.Compacting
import Idempotency.Proofs.Journal.Failed

/-!
# `Idempotency.Proofs.Journal.Broken`: a compaction that breaks off

Compacting writes to a draft beside the journal, so that the journal's file is as it
was until the draft takes its place. If a step fails before that, the compaction is
refused, the file stays, and records go on being added at its end. So says
`compact_broken`, for every state that requests can lead to (`Reaches`) and every
step that can fail (`BreaksOff`).

The draft is at the journal's path with another extension. If the path has that
extension already, it is the journal's own, and opening the draft empties the file
(`lost_own_draft`).

What carries the proof is `Secure`: the journal stands on its file, and the draft's
path does not lead there. Requests keep it, whether they succeed or fail
(`Reaches.secure`).
-/

set_option autoImplicit false

namespace Idempotency.Journal

variable {path : String} {j j' k : Journal} {d d' e left : Disk} {content more : Bytes}
  {now start : Instant} {fault : Fault} {events : List Event}

/-- Where requests lead a journal, whatever comes of them. In between, the limit of
the disk and the fates of its coming steps may change. -/
inductive Reaches (j : Journal) (d : Disk) : Journal → Disk → Prop
  | start : Reaches j d j d
  | serve {k k' : Journal} {e e' : Disk} {reply : Store.Reply} (h : Reaches j d k e)
      (request : Store.Request)
      (hserve : Store.serve request (.journal k) e = (reply, .journal k', e')) :
      Reaches j d k' e'
  | turn {k : Journal} {e e' : Disk} (h : Reaches j d k e) (hentries : e'.entries = e.entries)
      (hcontents : e'.contents = e.contents) : Reaches j d k e'

/-! ### The draft is elsewhere -/

/-- The journal stands on its file, and the path of its draft does not lead there. -/
structure Secure (j : Journal) (d : Disk) (content : Bytes) : Prop where
  stands : j.Stands d content
  apart : d.entryAt j.draftPath.place ≠ some (.file j.handle.file)

/-- The journal's file holds the content at its place, and is not the draft. -/
theorem Secure.sits (h : j.Secure d content) :
    d.Sits (Path.ofText j.path).place j.draftPath.place j.handle.file content :=
  ⟨h.stands.entry, h.stands.holds, h.apart⟩

/-- The draft has a place of its own, since the file at the journal's is the journal's. -/
theorem Secure.place_ne (h : j.Secure d content) :
    j.draftPath.place ≠ (Path.ofText j.path).place := fun heq =>
  h.apart (by rw [heq, h.stands.entry])

/-- The journal is secure as long as files stay where they are. -/
theorem Secure.of_stands (h : j.Secure d content) (hpath : j'.path = j.path)
    (hstands : j'.Stands d' more) (hfiles : d.SameFiles d') : j'.Secure d' more := by
  have hentry := (hfiles _ _).1 hstands.entry
  rw [hpath, h.stands.entry] at hentry
  obtain hsame := Entry.file.inj (Option.some.inj hentry)
  refine ⟨hstands, fun hother => h.apart ?_⟩
  rw [draftPath_congr hpath, hfiles, ← hsame] at hother
  exact hother

/-- A compaction that breaks off leaves the journal's file, and the journal where it
was on it. -/
theorem Secure.breaksOff (h : j.Secure d content) (hbreaks : BreaksOff j now d fault left) :
    ({ j with index := j.index.live now } : Journal).Secure left content := by
  have hsits := hbreaks.sits h.sits
  refine ⟨⟨hsits.entry, hsits.holds, ?_⟩, hsits.apart⟩
  show j.handle.position.getD (left.read j.handle.file).length = _
  rw [hsits.holds, ← h.stands.holds]
  exact h.stands.atEnd

/-- After a compaction nothing is at the draft's place. -/
theorem Secure.compact (h : j.Secure d content) (now : Instant) :
    ∃ more, (j.compact now d).2.1.Secure (j.compact now d).2.2.2 more := by
  rcases compact_cases j now d with
    ⟨fault, left, hbreaks⟩ | ⟨dropped, j', events, synced, d', hcompact, hmove⟩
  · rw [compact_of_breaksOff hbreaks]
    exact ⟨content, h.breaksOff hbreaks⟩
  · obtain ⟨-, hpath, -, hstands⟩ := compact_ok hcompact
    rw [hcompact]
    refine ⟨_, hstands, ?_⟩
    rw [draftPath_congr hpath, Disk.rename_source hmove h.place_ne]
    simp

/-- After a put, refused or not, the draft is still elsewhere. -/
theorem Secure.put (h : j.Secure d content) (r : Record) :
    ∃ more, (j.put r d).2.1.Secure (j.put r d).2.2 more := by
  rcases put_cases h.stands r with
    ⟨held, -, hput⟩ | ⟨-, ⟨j', d', hput, -, hadds⟩ | ⟨j', d', p, hput, -, -, hadds⟩⟩
  · rw [hput]
    exact ⟨content, h⟩
  · rw [hput]
    exact ⟨_, h.of_stands hadds.path hadds.stands (Disk.sameFiles_of_entries hadds.entries)⟩
  · rw [hput]
    exact ⟨_, h.of_stands hadds.path hadds.stands (Disk.sameFiles_of_entries hadds.entries)⟩

/-! ### Opening -/

/-- Opening a journal whose file is there creates directories at most. -/
theorem disk_openAt_of_entry {n : Nat}
    (h : d.entryAt (Path.ofText path).place = some (.file n)) (now : Instant) :
    (openAt path now d).2.2 = (d.createParent (Path.ofText path)).2 := by
  obtain ⟨-, hfiles⟩ := Disk.createParent_frame d (Path.ofText path)
  unfold openAt
  cases hparent : d.createParent (Path.ofText path) with
  | mk outcome made =>
    rw [hparent] at hfiles
    cases outcome with
    | error fault => simp only [hparent]
    | ok done =>
      obtain ⟨hdisk, -⟩ := Disk.openAppend_of_entry ((hfiles _ _).2 h)
      cases hopen : made.openAppend (Path.ofText path) with
      | mk outcome disk =>
        rw [hopen] at hdisk
        cases outcome with
        | error fault => simp only [hparent, hopen, hdisk]
        | ok handle =>
          simp only [hparent, hopen]
          split
          · exact hdisk
          · exact hdisk

/-- Leaving a journal and opening it again, or trying to, changes no file. -/
theorem Secure.reopen (h : j.Secure d content) (now : Instant) :
    j.Secure (openAt j.path now d).2.2 content
      ∧ ∀ j' events d', openAt j.path now d = (.ok j', events, d') → j'.Secure d' content := by
  obtain ⟨hcontents, hfiles⟩ := Disk.createParent_frame d (Path.ofText j.path)
  have hdisk := disk_openAt_of_entry h.stands.entry now
  rw [← hdisk] at hcontents hfiles
  have hkept : j.Stands (openAt j.path now d).2.2 content :=
    ⟨(hfiles _ _).2 h.stands.entry, (Disk.read_congr hcontents _).trans h.stands.holds,
      h.stands.atEnd.congr hcontents⟩
  refine ⟨h.of_stands rfl hkept hfiles, ?_⟩
  intro j' events d' hopen
  obtain ⟨hpath, -, hstands⟩ := of_openAt hopen
  rw [hopen] at hfiles
  rw [h.stands.contentAt] at hstands
  exact h.of_stands hpath hstands hfiles

/-- A journal that has been opened is secure, unless it is its own draft. -/
theorem secure_of_openAt (hsep : d.Separate) (hopen : openAt path start d = (.ok j, events, d'))
    (hdraft : (Path.ofText path).withExtension "compact" ≠ Path.ofText path) :
    j.Secure d' (d.contentAt (Path.ofText path).place) := by
  obtain ⟨hpath, -, hstands⟩ := of_openAt hopen
  refine ⟨hstands, fun hentry => hdraft ?_⟩
  rcases openAt_cases path start d with
    ⟨fault, disk, hfailed, -⟩ | ⟨made, handle, disk, hparent, happend, hopening, -⟩
  · rw [hfailed] at hopen
    exact nomatch hopen
  · obtain ⟨-, hfiles⟩ := Disk.createParent_frame d (Path.ofText path)
    rw [hparent] at hfiles
    obtain ⟨hsep', hfile⟩ := (hsep.congr hfiles).openAppend happend
    have hdisk := disk_opening path start handle disk
    rw [← hopening, hopen] at hdisk
    subst hdisk
    have hplace := hsep' _ _ _ hentry hstands.entry
    rw [draftPath, hpath] at hplace
    exact Path.withExtension_eq_self hfile hplace

/-! ### Runs -/

/-- Every request keeps a journal secure. -/
theorem Secure.serve {reply : Store.Reply} (h : j.Secure d content) (request : Store.Request)
    (hserve : Store.serve request (.journal j) d = (reply, .journal j', d')) :
    ∃ more, j'.Secure d' more := by
  cases request with
  | get key now =>
    cases hserve
    exact ⟨content, h.stands.withIndex _, h.apart⟩
  | put r =>
    have hput := h.put r
    cases hserve
    exact hput
  | purge now =>
    cases hserve
    exact ⟨content, h.stands.withIndex _, h.apart⟩
  | size =>
    cases hserve
    exact ⟨content, h⟩
  | compact now =>
    have hcompact := h.compact now
    cases hserve
    exact hcompact
  | reopen now =>
    obtain ⟨hfailed, hopened⟩ := h.reopen now
    simp only [Store.serve] at hserve
    split at hserve
    · next hopen =>
      cases hserve
      exact ⟨content, hopened _ _ _ hopen⟩
    · next hopen =>
      cases hserve
      rw [hopen] at hfailed
      exact ⟨content, hfailed⟩

/-- Wherever requests lead a journal, the draft is still elsewhere. -/
theorem Reaches.secure (h : Reaches j d k e) (hsecure : j.Secure d content) :
    ∃ more, k.Secure e more := by
  induction h with
  | start => exact ⟨content, hsecure⟩
  | serve _ request hserve ih =>
    obtain ⟨more, hmore⟩ := ih
    exact hmore.serve request hserve
  | turn _ hentries hcontents ih =>
    obtain ⟨more, hmore⟩ := ih
    exact ⟨more, hmore.of_stands rfl (hmore.stands.congr hentries hcontents)
      (Disk.sameFiles_of_entries hentries)⟩

/-- No request gives a journal another path. -/
theorem Reaches.path_eq (h : Reaches j d k e) : k.path = j.path := by
  induction h with
  | start => rfl
  | serve _ request hserve ih =>
    obtain ⟨_, _, _, hserve', hpath⟩ := Store.exists_serve request _ _
    rw [hserve'] at hserve
    cases hserve
    exact hpath.trans ih
  | turn _ _ _ ih => exact ih

/-- A record that is inserted has its line at the end of the file at the journal's
path. -/
theorem Secure.contentAt_put {r : Record} (h : j.Secure d content)
    (hput : j.put r d = (.ok .inserted, j', d')) :
    d'.contentAt (Path.ofText j.path).place
      = d.contentAt (Path.ofText j.path).place ++ line r := by
  rw [h.stands.contentAt]
  rcases put_cases h.stands r with
    ⟨held, -, hput'⟩ | ⟨-, ⟨next, disk, hput', -, hadds⟩ | ⟨next, disk, p, hput', -⟩⟩
  · rw [hput'] at hput
    split at hput
    · exact nomatch hput
    · exact nomatch hput
  · rw [hput'] at hput
    cases hput
    rw [← hadds.path, hadds.stands.contentAt]
  · rw [hput'] at hput
    exact nomatch hput

/-! ### Compacting -/

/-- What a compaction that breaks off leaves. Let a journal be opened on a disk where
no file is at two places, let it serve requests, which may succeed or fail, and then
let a step of compacting it fail. The compaction is refused, and what has expired is
gone from the index. If the path of the draft is not the journal's own, the file at
the journal's path is as it was; and whatever happens after that, a record that is
inserted has its line at the end of that file. If it is the journal's own, the file is
as it was only if the draft was not opened; otherwise it holds a part of the lines of
the live records, from the start. -/
theorem compact_broken {j₀ : Journal} {opened disk : Disk} (hsep : d.Separate)
    (hopen : openAt path start d = (.ok j₀, events, opened)) (hreach : Reaches j₀ opened j disk)
    (hbreaks : BreaksOff j now disk fault left) :
    ∃ j', j.compact now disk = (.error fault, j', [], left)
      ∧ j'.index = j.index.live now
      ∧ ((Path.ofText path).withExtension "compact" ≠ Path.ofText path →
        left.contentAt (Path.ofText path).place = disk.contentAt (Path.ofText path).place
          ∧ ∀ k e r k' e', Reaches j' left k e → k.put r e = (.ok .inserted, k', e') →
            e'.contentAt (Path.ofText path).place
              = e.contentAt (Path.ofText path).place ++ line r)
      ∧ ((Path.ofText path).withExtension "compact" = Path.ofText path →
        (disk.openFresh (Path.ofText path) = (.error fault, left)
            ∧ left.contentAt (Path.ofText path).place = disk.contentAt (Path.ofText path).place)
          ∨ (∃ handle draft, disk.openFresh (Path.ofText path) = (.ok handle, draft))
            ∧ left.contentAt (Path.ofText path).place
              <+: (j.index.live now).toList.flatMap line) := by
  have hpath : j.path = path := hreach.path_eq.trans (of_openAt hopen).1
  refine ⟨_, compact_of_breaksOff hbreaks, rfl, fun hdraft => ?_, fun hdraft => ?_⟩
  · obtain ⟨content, hsecure⟩ := hreach.secure (secure_of_openAt hsep hopen hdraft)
    have hbroken := hsecure.breaksOff hbreaks
    refine ⟨?_, ?_⟩
    · have hafter := hbroken.stands.contentAt
      rw [← hpath, hsecure.stands.contentAt]
      exact hafter
    · intro k e r k' e' hlater hput
      obtain ⟨more, hmore⟩ := hlater.secure hbroken
      have hline := hmore.contentAt_put hput
      rw [hlater.path_eq] at hline
      rw [← hpath]
      exact hline
  · have hown : j.draftPath = Path.ofText path := by rw [draftPath, hpath, hdraft]
    have hleft := hbreaks.draft
    rw [hown] at hleft
    exact hleft

/-- The disk on which a compaction has written four bytes of its draft. -/
def halfDrafted (bytes : Bytes) : Disk where
  entries := [(["keys.compact"], .file 2), (["keys.log"], .file 1)]
  contents := [line earlier, line earlier ++ bytes, (line earlier).take 4]
  limit := none
  fates := []
  numbered := by simp

/-- A journal has been compacted. When it is compacted again, the draft is opened,
and the first write breaks off. A record that is put after that comes behind the line
of the one before. -/
theorem compact_broken_four : ∃ j' left k' e',
    (Store.behind 0).compact { seconds := 6, nanos := 0 }
        { Store.compacted [] with fates := [none, some 4] } = (.error .broken, j', [], left)
      ∧ j'.put later left = (.ok .inserted, k', e')
      ∧ e'.contentAt ["keys.log"] = line earlier ++ line later := by
  have hput : Store.serve (.put earlier) (.journal Store.blank) (diskOf "keys.log" [])
      = (.placed (.ok .inserted), .journal (holding earlier),
        diskOf "keys.log" (line earlier)) := by
    have hplaced : Store.blank.put earlier (diskOf "keys.log" [])
        = (.ok .inserted, holding earlier, diskOf "keys.log" (line earlier)) := by decide +kernel
    simp only [Store.serve, Store.put, hplaced]
  have hfirst : Store.serve (.compact { seconds := 5, nanos := 0 }) (.journal (holding earlier))
      (diskOf "keys.log" (line earlier))
      = (.compacted (.ok 0), .journal (Store.behind 0), Store.compacted []) := by
    have hcompacted : (holding earlier).compact { seconds := 5, nanos := 0 }
        (diskOf "keys.log" (line earlier))
        = (.ok 0, Store.behind 0, [.compacted "keys.log" 0 1], Store.compacted []) := by
      decide +kernel
    simp only [Store.serve, hcompacted]
  have hreach : Reaches Store.blank (diskOf "keys.log" []) (Store.behind 0)
      { Store.compacted [] with fates := [none, some 4] } :=
    ((Reaches.start.serve _ hput).serve _ hfirst).turn rfl rfl
  have hcompact : (Store.behind 0).compact { seconds := 6, nanos := 0 }
      { Store.compacted [] with fates := [none, some 4] }
      = (.error .broken, Store.behind 0, [], halfDrafted []) := by decide +kernel
  have hlater : (Store.behind 0).put later (halfDrafted [])
      = (.ok .inserted, { Store.behind (line later).length with
          index := (Index.empty.store earlier).store later }, halfDrafted (line later)) := by
    decide +kernel
  obtain ⟨j', hcompact', -, helsewhere, -⟩ :=
    compact_broken Disk.separate_empty Store.openAt_blank hreach (breaksOff_of_compact hcompact)
  obtain ⟨-, rfl, -⟩ : _ ∧ Store.behind 0 = j' ∧ _ := by
    simpa only [Prod.mk.injEq] using hcompact.symm.trans hcompact'
  obtain ⟨hkept, hlines⟩ := helsewhere (by decide)
  refine ⟨_, _, _, _, hcompact, hlater, ?_⟩
  have hline := hlines _ _ later _ _ .start hlater
  rw [hkept] at hline
  exact hline

/-- The journal is at `keys.compact`, and its file has the line of a record. The disk
takes files of ten bytes, and the journal is compacted. That fails, and the file has
ten bytes of the line. -/
theorem lost_own_draft :
    openAt "keys.compact" { seconds := 0, nanos := 0 } .empty
        = (.ok ⟨"keys.compact", .empty, ⟨0, none⟩⟩, [.opened "keys.compact" 0],
          diskOf "keys.compact" [])
      ∧ (⟨"keys.compact", .empty, ⟨0, none⟩⟩ : Journal).put earlier (diskOf "keys.compact" [])
        = (.ok .inserted, ⟨"keys.compact", Index.empty.store earlier, ⟨0, none⟩⟩,
          diskOf "keys.compact" (line earlier))
      ∧ (⟨"keys.compact", Index.empty.store earlier, ⟨0, none⟩⟩ : Journal).compact
          { seconds := 0, nanos := 0 }
          { diskOf "keys.compact" (line earlier) with limit := some 10 }
        = (.error .full, ⟨"keys.compact", Index.empty.store earlier, ⟨0, none⟩⟩, [],
          { diskOf "keys.compact" ((line earlier).take 10) with limit := some 10 })
      ∧ (line earlier).take 10 ≠ line earlier := by
  refine ⟨?_, ?_, ?_, ?_⟩
  · decide +kernel
  · decide +kernel
  · decide +kernel
  · decide +kernel

end Idempotency.Journal
