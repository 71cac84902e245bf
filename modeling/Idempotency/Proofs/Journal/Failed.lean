import Idempotency.Proofs.Journal.Compacting
import Idempotency.Proofs.Journal.Refinement
import Idempotency.Proofs.Journal.Stray

/-!
# `Idempotency.Proofs.Journal.Failed`: what a failed append leaves behind

A step on the disk that fails while a record is brought into the file can leave any
part of its line there: nothing, some bytes, all of them. The put is refused and
the index is as before. But the file is not, and records that are put later have
their lines behind what is there. `reopen_after_failed_append` says what the next
opening finds, as a function of that part (`afterPart`):

- nothing: the live records of the index, as if the put had not happened;
- part of the line, short of its end: the file is refused for that line, unless the
  part is the whole text and no line has come after it;
- the whole line: the record is found, unless it has expired or a later record has
  its key, in which case it is as `Index.withStray` says.

The damage that the refusal names is the conflict on the record's key, or the line
on which the file ended (`Spoils`).

A failed append should be as if the put had not happened. It is not, since the part
that is in the file stays there (`later_lost_failed`).
-/

set_option autoImplicit false

namespace Idempotency

namespace Journal

/-! ### What a replay comes to -/

variable {path : String} {now : Instant} {j j' : Journal} {d d' : Disk}
  {content base p : Bytes} {r : Record} {rs inserted : List Record} {s : Replay}

/-- Opening the journal finds this index, or a file with this damage. -/
def Finds (path : String) (now : Instant) (d : Disk) : Except Damage Index → Prop
  | .ok ix => Gives path now d ix
  | .error damage => Refuses path now d damage

/-- If no step on the disk fails, opening finds what a replay comes to. -/
theorem finds_of_replay {found : Except Damage Index}
    (h : (replay now (d.contentAt (Path.ofText path).place)).map Replay.index = found)
    (hfault : ∀ fault, (openAt path now d).1 ≠ .error (.io fault)) : Finds path now d found := by
  subst h
  cases hreplay : replay now (d.contentAt (Path.ofText path).place) with
  | ok s =>
    obtain ⟨j, events, d', hopen, hpath, hindex, hstands⟩ := openAt_ok hreplay hfault
    exact ⟨j, events, d', hopen, hpath, hindex, hstands⟩
  | error damage =>
    rcases openAt_cases path now d with
      ⟨fault, d', hopen, _⟩ | ⟨made, handle, d', _, happend, hopen, hkept⟩
    · exact absurd (by rw [hopen]) (hfault fault)
    · obtain ⟨_, hentry, _⟩ := Disk.openAppend_ok happend
      rw [← hkept, Disk.contentAt_of_file hentry] at hreplay
      refine ⟨[], d', ?_⟩
      rw [hopen, opening, hreplay]

/-- Lines of records are replayed from where the lines before have come to. -/
theorem replay_append_lines (hended : Ended base) (rs : List Record) :
    replay now (base ++ rs.flatMap line)
      = (replay now base).bind fun s => s.takeAll now rs := by
  rw [replay_append hended, splitLines_written]
  congr 1
  funext s
  exact Replay.takeLines_text s _ rs

/-- What opening finds when the part `p` of the line of a record is in the file, and
after it the lines of the inserted records. `live` has the live records of the
index, and `spoilt` is the damage if the part spoils the line that it is on. -/
def afterPart (p : Bytes) (r : Record) (inserted : List Record) (now : Instant)
    (live : Index) (spoilt : Damage) : Except Damage Index :=
  if p = [] then .ok live
  else if p = line r ∨ p = Text.encode r.text ∧ inserted = [] then
    if r.isExpiredAt now then .ok live else live.withStray r
  else .error spoilt

/-- The part of a line is short of its text, is the text, or is the line. -/
theorem part_cases (hcut : p <+: line r) :
    (p <+: Text.encode r.text ∧ p.length < (Text.encode r.text).length)
      ∨ p = Text.encode r.text ∨ p = line r := by
  rcases cut_line_cases hcut with htext | hline
  · rcases Nat.lt_or_ge p.length (Text.encode r.text).length with hlt | hge
    · exact .inl ⟨htext, hlt⟩
    · exact .inr (.inl (htext.eq_of_length_le hge))
  · exact .inr (.inr hline)

/-- A stray record is met, and then the others are. -/
theorem takeAll_after_stray {ix : Index} (hfree : ix.find? r.key = none)
    (hindex : s.index = ix.live now) (hfresh : Fresh ix inserted) :
    (s.takeAll now (r :: inserted)).map Replay.index
      = if r.isExpiredAt now then .ok ((inserted.foldl Index.store ix).live now)
        else ((inserted.foldl Index.store ix).live now).withStray r := by
  have hfresh' : Fresh s.index inserted := by
    rw [hindex]
    exact hfresh.live
  rw [Index.live_foldl_store hfresh, ← hindex]
  cases hexpired : r.isExpiredAt now with
  | true =>
    obtain ⟨last, hlast, hlastIndex⟩ := takeAll_of_fresh now
      (s := { s with skipped := s.skipped + 1 }) hfresh'
    rw [if_pos rfl, Replay.takeAll_cons_of_take (Replay.take_of_expired hexpired s), hlast,
      ← hlastIndex]
    rfl
  | false =>
    have hfree' : s.index.find? r.key = none := by
      rw [hindex, Index.find?_live, hfree]
      rfl
    obtain ⟨last, hlast, hstray⟩ : ∃ last, s.takeAll now inserted = .ok last
        ∧ (Replay.takeAll now { s with index := s.index.store r } inserted).map Replay.index
          = last.index.withStray r := Replay.takeAll_stray hfree' rfl hfresh'
    obtain ⟨other, hother, hotherIndex⟩ := takeAll_of_fresh now hfresh'
    obtain rfl : last = other := Except.ok.inj (hlast.symm.trans hother)
    rw [if_neg Bool.false_ne_true,
      Replay.takeAll_cons_of_take (Replay.take_of_live hexpired hfree'), ← hotherIndex]
    exact hstray

/-- The line of a record is longer than its text. -/
theorem length_text_lt_line (r : Record) : (Text.encode r.text).length < (line r).length := by
  rw [line, List.length_append]
  exact Nat.lt_succ_self _

/-- A part that is short of the text makes no line, with or without others after it. -/
theorem replay_short (hended : Ended base) (hbase : replay now base = .ok s)
    (hcut : p <+: Text.encode r.text) (hnil : p ≠ [])
    (hshort : p.length < (Text.encode r.text).length) (inserted : List Record) :
    ∃ spoilt, replay now (base ++ p ++ inserted.flatMap line) = .error spoilt
      ∧ Spoils p (1 + (splitLines base).length) spoilt := by
  cases inserted with
  | nil =>
    rw [List.flatMap_nil, List.append_nil]
    exact replay_cut hended hbase hcut hnil hshort
  | cons q more =>
    obtain ⟨spoilt, hread, hspoils⟩ := readLine_cut_append hcut hnil hshort q
      (1 + (splitLines base).length)
    exact ⟨spoilt, replay_put_of_error hended (lineFeed_not_mem_cut hcut) hbase hread more, hspoils⟩

/-- A part of a line does some damage where it spoils the line. -/
theorem exists_spoils (p : Bytes) (number : Nat) : ∃ spoilt, Spoils p number spoilt := by
  by_cases hdecode : Text.decode? p = none
  · exact ⟨.notText, .notText hdecode⟩
  · exact ⟨.badLine number .trailingCharacters, .badLine hdecode _⟩

/-- The text is no line any more when others come right after it. -/
theorem replay_followed (hended : Ended base) (hbase : replay now base = .ok s) (q : Record)
    (more : List Record) :
    ∃ spoilt, replay now (base ++ Text.encode r.text ++ (q :: more).flatMap line) = .error spoilt
      ∧ Spoils (Text.encode r.text) (1 + (splitLines base).length) spoilt := by
  have hread := readLine_record_append (readLine_text (1 + (splitLines base).length) r) q
    (1 + (splitLines base).length)
  have hdecode : Text.decode? (Text.encode r.text) ≠ none := by
    rw [Text.decode?_encode]
    exact Option.some_ne_none _
  exact ⟨_, replay_put_of_error hended (lineFeed_not_mem_text r) hbase hread more,
    .badLine hdecode _⟩

/-- What a replay comes to when part of a line is in the file. -/
theorem replay_afterPart {ix : Index} (hended : Ended base) (hbase : replay now base = .ok s)
    (hindex : s.index = ix.live now) (hfree : ix.find? r.key = none) (hcut : p <+: line r)
    (hfresh : Fresh ix inserted) :
    ∃ spoilt, Spoils p (1 + (splitLines base).length) spoilt
      ∧ (replay now (base ++ p ++ inserted.flatMap line)).map Replay.index
        = afterPart p r inserted now ((inserted.foldl Index.store ix).live now) spoilt := by
  have hstray := takeAll_after_stray hfree hindex hfresh
  have hline := length_text_lt_line r
  obtain ⟨other, hother⟩ := exists_spoils p (1 + (splitLines base).length)
  unfold afterPart
  by_cases hnil : p = []
  · subst hnil
    have hfresh' : Fresh s.index inserted := by
      rw [hindex]
      exact hfresh.live
    obtain ⟨last, hlast, hlastIndex⟩ := takeAll_of_fresh now hfresh'
    refine ⟨other, hother, ?_⟩
    rw [if_pos rfl, List.append_nil, replay_append_lines hended, hbase,
      Index.live_foldl_store hfresh, ← hindex, ← hlastIndex]
    show (s.takeAll now inserted).map Replay.index = _
    rw [hlast]
    rfl
  · simp only [if_neg hnil]
    rcases part_cases hcut with ⟨htext, hshort⟩ | rfl | rfl
    · have hpart : ¬ (p = line r ∨ p = Text.encode r.text ∧ inserted = []) := by
        rintro (rfl | ⟨rfl, _⟩)
        · exact absurd hshort (Nat.lt_asymm hline)
        · exact Nat.lt_irrefl _ hshort
      obtain ⟨spoilt, hreplay, hspoils⟩ := replay_short hended hbase htext hnil hshort inserted
      refine ⟨spoilt, hspoils, ?_⟩
      rw [if_neg hpart, hreplay]
      rfl
    · cases inserted with
      | nil =>
        have hone : s.takeAll now [r] = s.take now r := by
          rw [Replay.takeAll]
          cases s.take now r <;> rfl
        refine ⟨other, hother, ?_⟩
        rw [if_pos (.inr ⟨rfl, rfl⟩), List.flatMap_nil, List.append_nil,
          replay_whole hended hbase (.inl rfl), ← hone]
        exact hstray
      | cons q more =>
        have hpart : ¬ (Text.encode r.text = line r
            ∨ Text.encode r.text = Text.encode r.text ∧ q :: more = []) := by
          rintro (hsame | ⟨_, hnone⟩)
          · exact absurd (congrArg List.length hsame) (Nat.ne_of_lt hline)
          · cases hnone
        obtain ⟨spoilt, hreplay, hspoils⟩ := replay_followed hended hbase q more
        refine ⟨spoilt, hspoils, ?_⟩
        rw [if_neg hpart, hreplay]
        rfl
    · have hjoin : base ++ line r ++ inserted.flatMap line
          = base ++ (r :: inserted).flatMap line := by
        rw [List.flatMap_cons, List.append_assoc]
      refine ⟨other, hother, ?_⟩
      rw [if_pos (.inl rfl), hjoin, replay_append_lines hended, hbase]
      exact hstray

end Journal

namespace Store

variable {path : String} {start late : Instant} {j j' : Journal} {d d' : Disk}
  {requests : List Request} {r : Record}

/-- A journal stays one, at its path. -/
theorem exists_serve (request : Request) (j : Journal) (d : Disk) :
    ∃ reply j' d', serve request (.journal j) d = (reply, .journal j', d')
      ∧ j'.path = j.path := by
  cases request with
  | get key now => exact ⟨_, _, _, rfl, rfl⟩
  | put r => exact ⟨_, _, _, rfl, Journal.path_put j r d⟩
  | purge now => exact ⟨_, _, _, rfl, rfl⟩
  | size => exact ⟨_, _, _, rfl, rfl⟩
  | compact now => exact ⟨_, _, _, rfl, Journal.path_compact j now d⟩
  | reopen now =>
    simp only [serve]
    split
    · next hopen => exact ⟨_, _, _, rfl, (Journal.of_openAt hopen).1⟩
    · exact ⟨_, _, _, rfl, rfl⟩

/-- Requests leave a journal where it is. -/
theorem path_after (h : after requests (.journal j) d = (.journal j', d')) :
    j'.path = j.path := by
  induction requests generalizing j d with
  | nil =>
    cases h
    rfl
  | cons request requests ih =>
    obtain ⟨reply, next, disk, hserve, hpath⟩ := exists_serve request j d
    rw [after, hserve] at h
    exact (ih h).trans hpath

/-- What the next opening finds after a failed append. Let a journal be opened where
no file is, or an empty one, and serve requests whose times do not go back, with no
step on the disk failing. Then let bringing a record with a free key into the file
fail, at any step. The put is refused and the index stays, but a part of the
record's line is at the end of the file. Records are put after that, and no step
fails any more. Then opening the journal, at an instant not before those of the
requests, finds what `Journal.afterPart` says. If it is refused, that is for a
conflict on the record's key, or for the line with the part, which is not text if
the part ends inside a character, and no record otherwise. -/
theorem reopen_after_failed_append {j₀ : Journal} {events : List Event}
    {opened disk broken : Disk} {fault : Fault}
    (hempty : d.contentAt (Path.ofText path).place = [])
    (hopen : Journal.openAt path start d = (.ok j₀, events, opened))
    (hforward : Forward start requests)
    (hfault : Faultless requests (.journal j₀) opened)
    (hafter : after requests (.journal j₀) opened = (.journal j, disk))
    (hfree : j.index.find? r.key = none)
    (hentries : broken.entries = disk.entries) (hcontents : broken.contents = disk.contents)
    (hfailed : (j.append r broken).1 = some fault) :
    ∃ p j' left, j.put r broken = (.error (Journal.appendRefusal path), j', left)
      ∧ j'.index = j.index ∧ p <+: Journal.line r
      ∧ left.contentAt (Path.ofText path).place
        = disk.contentAt (Path.ofText path).place ++ p
      ∧ ∀ rs mended outcomes j'' last late,
        mended.entries = left.entries → mended.contents = left.contents →
        j'.putAll rs mended = (outcomes, j'', last) →
        (∀ reason, .error (.storage reason) ∉ outcomes) →
        latest start requests ≤ late →
        (∀ fault, (Journal.openAt path late last).1 ≠ .error (.io fault)) →
        ∃ spoilt, Journal.Spoils p
            (1 + (Journal.splitLines (disk.contentAt (Path.ofText path).place)).length) spoilt
          ∧ Journal.Finds path late last (Journal.afterPart p r (Journal.insertedOf rs outcomes)
              late (j''.index.live late) spoilt) := by
  -- Up to the failure the journal is as good as a store in memory.
  have hpath₀ := (Journal.of_openAt hopen).1
  obtain ⟨j₁, d₁, ix, hafter₁, hmirrors⟩ :=
    (mirrors_of_openAt hempty hopen).after hforward hfault
  rw [hafter] at hafter₁
  cases hafter₁
  obtain ⟨rfl, rs₀, hstands, hcovers⟩ := hmirrors
  have hpath : j.path = path := (path_after hafter).trans hpath₀
  cases happend : j.append r broken with
  | mk outcome rest =>
    obtain ⟨j', left⟩ := rest
    rw [happend] at hfailed
    obtain rfl : outcome = some fault := hfailed
    obtain ⟨hindex, p, hcut, -, hadds⟩ :=
      Journal.append_adds (hstands.congr hentries hcontents) happend
    have hpath' : j'.path = path := hadds.path.trans hpath
    have hplace := hstands.contentAt
    have hleft := hadds.stands.contentAt
    rw [hpath] at hplace
    rw [hpath'] at hleft
    refine ⟨p, j', left, ?_, hindex, hcut, by rw [hleft, hplace], ?_⟩
    · unfold Journal.put
      simp only [Index.judge_eq_none_iff.2 hfree, happend, hpath']
    intro rs mended outcomes j'' last late hentries' hcontents' hputs houtcomes hle hio
    obtain ⟨hadds', hfresh, hindex'⟩ :=
      Journal.putAll_ok (hadds.stands.congr hentries' hcontents') hputs houtcomes
    -- The lines of before replay to what is live of the index of before.
    obtain ⟨s, hbase, hlive⟩ := (hcovers.mono hle).replay
    have hended : Journal.Ended (rs₀.flatMap Journal.line) := by
      have hnil := Journal.ended_lines (.inl rfl) rs₀
      rwa [List.nil_append] at hnil
    rw [hindex] at hfresh hindex'
    have hlast := hadds'.stands.contentAt
    rw [hadds'.path, hpath'] at hlast
    obtain ⟨spoilt, hspoils, hreplay⟩ :=
      Journal.replay_afterPart hended hbase hlive hfree hcut hfresh
    rw [hplace]
    refine ⟨spoilt, hspoils, Journal.finds_of_replay ?_ hio⟩
    rw [hlast, hindex', hreplay]

deriving instance DecidableEq for Store

/-- The journal of an empty file. -/
def blank : Journal := ⟨"keys.log", .empty, ⟨0, none⟩⟩

/-- It is what opening gives where no file is. -/
theorem openAt_blank : Journal.openAt "keys.log" { seconds := 0, nanos := 0 } .empty
    = (.ok blank, [.opened "keys.log" 0], Journal.diskOf "keys.log" []) := by
  decide +kernel

/-- No step on the disk that it is opened on fails. -/
theorem faultless_blank (requests : List Request) :
    Faultless requests (.journal blank) (Journal.diskOf "keys.log" []) :=
  faultless_of_undisturbed ⟨rfl, rfl⟩ openAt_blank fun _ _ => Disk.takes_of_entries
    (by decide +kernel) (by decide +kernel) (by decide +kernel)

/-- The disk after the journal has taken a record and been compacted, with some
bytes behind the record's line in the file that took the place of the first one. -/
def compacted (bytes : Bytes) : Disk where
  entries := [(["keys.log"], .file 1)]
  contents := [Journal.line Journal.earlier, Journal.line Journal.earlier ++ bytes]
  limit := none
  fates := []
  numbered := by simp

/-- The journal then, with `n` bytes behind the record's line. -/
def behind (n : Nat) : Journal :=
  ⟨"keys.log", Index.empty.store Journal.earlier,
    ⟨1, some ((Journal.line Journal.earlier).length + n)⟩⟩

/-- The disk, if the next write breaks off after four bytes. -/
def breaking (d : Disk) : Disk := { d with fates := [some 4] }

/-- A record is put, the journal compacted, bringing another record into the file
breaks off, and a third one is inserted. Opening the journal then is refused for the
line of the third. -/
theorem reopen_after_failed_append_four : ∃ left j' j'' last,
    (behind 0).put Journal.later (breaking (compacted []))
        = (.error (Journal.appendRefusal "keys.log"), j', left)
      ∧ j'.putAll [Journal.brokenOff] left = ([.ok .inserted], j'', last)
      ∧ ∃ reason, Journal.Refuses "keys.log" { seconds := 7, nanos := 0 } last
          (.badLine 2 reason) := by
  -- Every state of the run, each from the one before.
  have hafter : after [.put Journal.earlier, .compact { seconds := 5, nanos := 0 }]
      (.journal blank) (Journal.diskOf "keys.log" []) = (.journal (behind 0), compacted []) := by
    decide +kernel
  have hfailed : (behind 0).put Journal.later (breaking (compacted []))
      = (.error (Journal.appendRefusal "keys.log"), behind 4,
        compacted ((Journal.line Journal.later).take 4)) := by decide +kernel
  have hputs : (behind 4).putAll [Journal.brokenOff]
      (compacted ((Journal.line Journal.later).take 4))
      = ([.ok .inserted],
        { behind (4 + (Journal.line Journal.brokenOff).length) with
          index := (Index.empty.store Journal.earlier).store Journal.brokenOff },
        compacted ((Journal.line Journal.later).take 4 ++ Journal.line Journal.brokenOff)) := by
    decide +kernel
  have hdamaged : (Journal.openAt "keys.log" { seconds := 7, nanos := 0 }
      (compacted ((Journal.line Journal.later).take 4 ++ Journal.line Journal.brokenOff))).1
      = .error (.damaged (.badLine 2 .expectedColon)) := by decide +kernel
  have hforward : Forward { seconds := 0, nanos := 0 }
      [.put Journal.earlier, .compact { seconds := 5, nanos := 0 }] := by
    unfold Forward
    decide
  have hentries : (breaking (compacted [])).entries = (compacted []).entries := rfl
  have hbroken : ((behind 0).append Journal.later (breaking (compacted []))).1 = some .broken := by
    decide +kernel
  obtain ⟨p, j', left, hput, -, -, hcontent, hfinds⟩ := reopen_after_failed_append
    (by decide) openAt_blank hforward (faultless_blank _) hafter (by decide) hentries rfl hbroken
  obtain ⟨-, rfl, rfl⟩ : _ ∧ behind 4 = j' ∧ _ = left := by
    simpa only [Prod.mk.injEq] using hfailed.symm.trans hput
  obtain rfl : p = (Journal.line Journal.later).take 4 := by
    refine List.append_cancel_left (hcontent.symm.trans ?_)
    decide +kernel
  refine ⟨_, _, _, _, hfailed, hputs, ?_⟩
  obtain ⟨spoilt, hspoils, hrefused⟩ := hfinds [Journal.brokenOff] _ _ _ _
    { seconds := 7, nanos := 0 } rfl rfl hputs (by simp) (by decide) (by rw [hdamaged]; nofun)
  cases hspoils with
  | notText hdecode => exact absurd hdecode (by decide +kernel)
  | badLine hdecode reason => exact ⟨reason, hrefused⟩

/-- The disk takes files of ten bytes, and a put fails. Then it takes longer ones,
and another record is inserted. After that the journal does not open, and the record
that was acknowledged is lost. -/
theorem later_lost_failed :
    Journal.openAt "keys.log" { seconds := 0, nanos := 0 } .empty
        = (.ok blank, [.opened "keys.log" 0], Journal.diskOf "keys.log" [])
      ∧ blank.put Journal.earlier { Journal.diskOf "keys.log" [] with limit := some 10 }
        = (.error (Journal.appendRefusal "keys.log"), blank,
          { Journal.diskOf "keys.log" ((Journal.line Journal.earlier).take 10) with
            limit := some 10 })
      ∧ blank.put Journal.later (Journal.diskOf "keys.log" ((Journal.line Journal.earlier).take 10))
        = (.ok .inserted, { blank with index := Index.empty.store Journal.later },
          Journal.diskOf "keys.log"
            ((Journal.line Journal.earlier).take 10 ++ Journal.line Journal.later))
      ∧ (Journal.openAt "keys.log" { seconds := 0, nanos := 0 } (Journal.diskOf "keys.log"
          ((Journal.line Journal.earlier).take 10 ++ Journal.line Journal.later))).1
        = .error (.damaged (.badLine 1 .expectedCommaOrBrace)) := by
  refine ⟨openAt_blank, ?_, ?_, ?_⟩
  · decide +kernel
  · decide +kernel
  · decide +kernel

end Store

end Idempotency
