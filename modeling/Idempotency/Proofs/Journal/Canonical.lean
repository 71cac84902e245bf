import Idempotency.Proofs.Journal.Compacting
import Idempotency.Proofs.Journal.Cover
import Idempotency.Proofs.Journal.Durable
import Idempotency.Proofs.Text.Order

/-!
# `Idempotency.Proofs.Journal.Canonical`: the file that a compaction leaves

The lines of a compacted journal are those of the records that have not expired, in
the byte order of their keys (`Canonical`). Of one key there is one record, so that is
one list: in whatever order the records are taken from the index, sorting them by key
comes to it (`Canonical.sort`). The file that a compaction leaves is therefore a
function of the records and the time (`compact_canonical`), and not of what was in the
file before, nor of the draft of a compaction that broke off.

Such a file opens, and gives the records back: the lines cover the index
(`covers_toList`).
-/

set_option autoImplicit false

namespace Idempotency

variable {now late : Instant} {ix : Index}

namespace Index

/-- What has not expired later has not expired now. -/
theorem live_live (hle : now ≤ late) : (ix.live now).live late = ix.live late := by
  refine ext_find? fun key => Option.ext fun r => ?_
  simp only [find?_live, Option.filter_eq_some_iff, Bool.not_eq_true']
  constructor
  · rintro ⟨⟨hfind, -⟩, hlate⟩
    exact ⟨hfind, hlate⟩
  · rintro ⟨hfind, hlate⟩
    exact ⟨⟨hfind, Record.live_of_le hle hlate⟩, hlate⟩

/-- What a sweep leaves is as many as have not expired. -/
theorem size_live (ix : Index) (now : Instant) :
    (ix.live now).size = ix.toList.countP fun r => !r.isExpiredAt now := by
  show (ix.records.entries.filter _).length = (ix.records.entries.map _).countP _
  rw [← List.countP_eq_length_filter, List.countP_map]
  rfl

/-- The size of an index is the number of its records. -/
theorem size_eq_length (ix : Index) : ix.size = ix.toList.length :=
  (List.length_map _).symm

/-- The records that are dropped are the expired ones. -/
theorem expiredCount_eq (ix : Index) (now : Instant) :
    ix.expiredCount now = ix.toList.countP (·.isExpiredAt now) := by
  have hparts := List.length_eq_countP_add_countP (·.isExpiredAt now) (l := ix.toList)
  have hlive := size_live ix now
  rw [expiredCount, size_eq_length, hlive]
  simp only [Bool.not_eq_true, Bool.decide_eq_false] at hparts
  omega

/-- What is dropped and what is left are all records together. -/
theorem expiredCount_add_size_live (ix : Index) (now : Instant) :
    ix.expiredCount now + (ix.live now).size = ix.size := by
  have hle : (ix.live now).size ≤ ix.size := by
    rw [size_live, size_eq_length]
    exact List.countP_le_length
  rw [expiredCount]
  omega

end Index

namespace Journal

variable {j j' : Journal} {d d' : Disk} {events : List Event} {dropped : Nat}
  {rs seen : List Record}

/-! ### Records in the order of their keys -/

/-- The key of the one record comes before that of the other, byte by byte. -/
def Precedes (a b : Record) : Prop := Text.encodeString a.key < Text.encodeString b.key

/-- Whether a record may stay before another when records are sorted by key. -/
def mayPrecede (a b : Record) : Bool :=
  decide (Text.encodeString a.key ≤ Text.encodeString b.key)

/-- The records of an index that have not expired, in the byte order of their keys. -/
structure Canonical (ix : Index) (now : Instant) (rs : List Record) : Prop where
  mem_iff : ∀ r, r ∈ rs ↔ ix.find? r.key = some r ∧ r.isExpiredAt now = false
  ordered : rs.Pairwise Precedes

/-- The records of an index are listed in the byte order of their keys. -/
theorem pairwise_toList (ix : Index) : ix.toList.Pairwise Precedes := by
  refine List.pairwise_map.2 (ix.records.increasing.imp_of_mem fun {a b} ha hb hlt => ?_)
  show Text.encodeString a.2.key < Text.encodeString b.2.key
  rw [Text.encodeString_lt_iff, ix.keyed a ha, ix.keyed b hb]
  exact hlt

/-- What a sweep leaves is listed as it has to be written. -/
theorem canonical_live (ix : Index) (now : Instant) : Canonical ix now (ix.live now).toList where
  mem_iff r := by
    rw [Index.mem_toList, Index.find?_live, Option.filter_eq_some_iff, Bool.not_eq_true']
  ordered := pairwise_toList _

/-- Sorting the records by key gives the same list, in whatever order they are at
first. -/
theorem Canonical.sort (h : Canonical ix now rs) (hperm : seen.Perm rs) :
    seen.mergeSort mayPrecede = rs := by
  have hsorted : (seen.mergeSort mayPrecede).Pairwise fun a b => mayPrecede a b = true := by
    refine List.pairwise_mergeSort ?_ ?_ seen
    · intro a b c hab hbc
      exact decide_eq_true (List.le_trans (of_decide_eq_true hab) (of_decide_eq_true hbc))
    · intro a b
      rw [Bool.or_eq_true]
      exact (List.le_total _ _).imp decide_eq_true decide_eq_true
  have hsame : (seen.mergeSort mayPrecede).Perm rs :=
    (List.mergeSort_perm seen mayPrecede).trans hperm
  refine List.Perm.eq_of_pairwise ?_ hsorted
    (h.ordered.imp fun hlt => decide_eq_true (List.le_of_lt hlt)) hsame
  -- Of one key there is one record.
  intro a b ha hb hab hba
  have hbytes := List.le_antisymm (of_decide_eq_true hab) (of_decide_eq_true hba)
  have ha' := ((h.mem_iff a).1 (hsame.mem_iff.1 ha)).1
  have hb' := ((h.mem_iff b).1 hb).1
  rw [Text.encodeString_inj hbytes, hb'] at ha'
  exact (Option.some.inj ha').symm

/-! ### After a compaction -/

/-- The draft has been moved away. -/
theorem draft_of_compact (h : j.compact now d = (.ok dropped, j', events, d'))
    (hne : j.draftPath.place ≠ (Path.ofText j.path).place) :
    d'.entryAt j.draftPath.place = none := by
  rcases compact_cases j now d with
    ⟨fault, left, hbreaks⟩ | ⟨dropped', next, events', synced, disk, hcompact, hmoved⟩
  · rw [compact_of_breaksOff hbreaks] at h
    exact nomatch (Prod.mk.inj h).1
  · rw [hcompact] at h
    cases h
    exact Disk.rename_source hmoved hne

/-- The lines of an index are opened as the index. -/
theorem gives_of_lines {path : String} (late : Instant)
    (hcontent : d.contentAt (Path.ofText path).place = ix.toList.flatMap line)
    (hfault : ∀ fault, (openAt path late d).1 ≠ .error (.io fault)) :
    Gives path late d (ix.live late) := by
  obtain ⟨s, hreplay, hindex⟩ := (covers_toList late ix).replay
  rw [← hcontent] at hreplay
  obtain ⟨j, events, d', hopen, hpath, hheld, hstands⟩ := openAt_ok hreplay hfault
  exact ⟨j, events, d', hopen, hpath, hheld.trans hindex, hstands⟩

/-- A compaction that goes through leaves the lines of the records that have not
expired, and no other bytes. -/
theorem contentAt_compact (h : j.compact now d = (.ok dropped, j', events, d')) :
    d'.contentAt (Path.ofText j.path).place = (j.index.live now).toList.flatMap line := by
  obtain ⟨-, hpath, -, hstands⟩ := compact_ok h
  rw [← hpath]
  exact hstands.contentAt

/-- A compaction that goes through leaves the records that have not expired, in
canonical form. Let a journal be compacted, whatever it holds and whatever is on the
disk.

- The file has the lines of these records in the byte order of their keys, the one
  order that sorting them by key comes to.
- The index has the same records, and the number given is that of the records it has
  lost.
- Nothing is left at the draft's place, unless it is the journal's own.
- A journal with the same index leaves the same bytes, whatever its path, its handle
  and its disk. So does the journal itself when it is compacted again, and drops
  nothing then.
- The file opens at every later instant, and gives the index without what has expired
  by then.
- Records put from then on have their lines after those of the compaction. -/
theorem compact_canonical (h : j.compact now d = (.ok dropped, j', events, d')) :
    ∃ rs, Canonical j.index now rs
      ∧ (∀ seen : List Record, seen.Perm rs → seen.mergeSort mayPrecede = rs)
      ∧ d'.contentAt (Path.ofText j.path).place = rs.flatMap line
      ∧ j'.path = j.path ∧ j'.index = j.index.live now
      ∧ dropped = j.index.toList.countP (·.isExpiredAt now)
      ∧ dropped + j'.index.size = j.index.size
      ∧ (j.draftPath.place ≠ (Path.ofText j.path).place → d'.entryAt j.draftPath.place = none)
      ∧ (∀ (k : Journal) (e : Disk) count k' events' e', k.index = j.index →
        k.compact now e = (.ok count, k', events', e') →
        e'.contentAt (Path.ofText k.path).place = rs.flatMap line)
      ∧ (∀ (e : Disk) again k events' e', j'.compact now e = (.ok again, k, events', e') →
        again = 0 ∧ e'.contentAt (Path.ofText j.path).place = rs.flatMap line)
      ∧ (∀ late, now ≤ late → (∀ fault, (openAt j.path late d').1 ≠ .error (.io fault)) →
        Gives j.path late d' (j.index.live late))
      ∧ ∀ given outcomes k e, j'.putAll given d' = (outcomes, k, e) →
        (∀ reason, .error (.storage reason) ∉ outcomes) →
        e.contentAt (Path.ofText j.path).place
          = rs.flatMap line ++ (insertedOf given outcomes).flatMap line := by
  obtain ⟨hdropped, hpath, hindex, hstands⟩ := compact_ok h
  have hcanonical := canonical_live j.index now
  refine ⟨(j.index.live now).toList, hcanonical, fun _ => hcanonical.sort, contentAt_compact h,
    hpath, hindex, ?_, ?_, draft_of_compact h, ?_, ?_, ?_, ?_⟩
  · rw [hdropped, Index.expiredCount_eq]
  · rw [hdropped, hindex, Index.expiredCount_add_size_live]
  · intro k e count k' events' e' hsame hcompact
    rw [contentAt_compact hcompact, hsame]
  · intro e again k events' e' hcompact
    -- What is left of the index is left again.
    have hstays : (j.index.live now).live now = j.index.live now := Index.live_live (le_refl now)
    have hcontent := contentAt_compact hcompact
    obtain ⟨hagain, -, -, -⟩ := compact_ok hcompact
    rw [hpath, hindex, hstays] at hcontent
    rw [hindex, Index.expiredCount, hstays, Nat.sub_self] at hagain
    exact ⟨hagain, hcontent⟩
  · intro late hle hfault
    rw [← Index.live_live hle]
    exact gives_of_lines late (contentAt_compact h) hfault
  · intro given outcomes k e hputs hfault
    obtain ⟨hadds, -, -⟩ := putAll_ok hstands hputs hfault
    have hcontent := hadds.stands.contentAt
    rw [hadds.path, hpath] at hcontent
    exact hcontent

/-- A disk with the file of a journal and the draft of a compaction that broke off. -/
def drafted (content draft : Bytes) : Disk :=
  (((Disk.empty.create ["keys.log"]).2.create ["keys.compact"]).2.withContent 0 content).withContent
    1 draft

/-- A record that expires soon. -/
def brief (key : String) : Record := ⟨key, "hash", [], { seconds := 30, nanos := 0 }⟩

/-- A journal that has taken the later key first, and holds a record that expires
early. -/
def mixed : Journal :=
  ⟨"keys.log", ((Index.empty.store later).store earlier).store (brief "old"), ⟨0, none⟩⟩

/-- The disk on which the draft has taken the place of the journal's file. -/
def moved (content bytes : Bytes) : Disk where
  entries := [(["keys.log"], .file 1)]
  contents := [content, bytes]
  limit := none
  fates := []
  numbered := by simp

/-- The journal drops the expired record and has the other two in their order,
although the draft was not empty, and nothing is left of the draft. A day later the
file gives neither of them; a record put instead comes after them. -/
theorem compact_canonical_mixed : ∃ j' d',
    mixed.compact { seconds := 35, nanos := 0 } (drafted (line (brief "old")) [0x7B, 0x0A])
        = (.ok 1, j', [.compacted "keys.log" 1 2], d')
      ∧ d'.contentAt (Path.ofText "keys.log").place = line earlier ++ line later
      ∧ d'.entryAt mixed.draftPath.place = none
      ∧ Gives "keys.log" { seconds := 90000, nanos := 0 } d' .empty
      ∧ ∃ k e, j'.putAll [brief "new"] d' = ([.ok .inserted], k, e)
        ∧ e.contentAt (Path.ofText "keys.log").place
          = line earlier ++ line later ++ line (brief "new") := by
  have hcompact : mixed.compact { seconds := 35, nanos := 0 }
      (drafted (line (brief "old")) [0x7B, 0x0A])
      = (.ok 1, ⟨"keys.log", (Index.empty.store earlier).store later,
          ⟨1, some (line earlier ++ line later).length⟩⟩,
        [.compacted "keys.log" 1 2],
        moved (line (brief "old")) (line earlier ++ line later)) := by
    decide +kernel
  have hput : Journal.putAll [brief "new"]
      ⟨"keys.log", (Index.empty.store earlier).store later,
        ⟨1, some (line earlier ++ line later).length⟩⟩
      (moved (line (brief "old")) (line earlier ++ line later))
      = ([.ok .inserted],
        ⟨"keys.log", ((Index.empty.store earlier).store later).store (brief "new"),
          ⟨1, some (line earlier ++ line later ++ line (brief "new")).length⟩⟩,
        moved (line (brief "old")) (line earlier ++ line later ++ line (brief "new"))) := by
    decide +kernel
  have hopen : (openAt "keys.log" { seconds := 90000, nanos := 0 }
      (moved (line (brief "old")) (line earlier ++ line later))).1.isOk = true := by
    decide +kernel
  obtain ⟨rs, -, -, hcontent, -, -, -, -, hdraft, -, -, hopens, hputs⟩ :=
    compact_canonical hcompact
  have hlines : rs.flatMap line = line earlier ++ line later := by
    rw [← hcontent]
    decide +kernel
  refine ⟨_, _, hcompact, hcontent.trans hlines, hdraft (by decide +kernel), ?_, _, _, hput, ?_⟩
  · have hempty : mixed.index.live { seconds := 90000, nanos := 0 } = .empty := by decide +kernel
    rw [← hempty]
    refine hopens _ (by decide) fun fault hfault => ?_
    rw [show mixed.path = "keys.log" from rfl] at hfault
    rw [hfault] at hopen
    exact nomatch hopen
  · have hlast := hputs [brief "new"] _ _ _ hput (by simp)
    rw [hlines] at hlast
    exact hlast

end Journal

end Idempotency
