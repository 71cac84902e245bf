import Idempotency.Proofs.Journal.Reopen
import Idempotency.Proofs.Journal.Replay
import Idempotency.Proofs.Journal.Durable

/-!
# `Idempotency.Proofs.Journal.Legible`: which files open, and what they give

A file is legible if every line of it is text that is blank or reads as a record
(`Lists`). Whether a legible file opens depends on its records alone: those that have
not expired must not give one key to two requests (`Consistent`). The index then has,
for each key, the record that counts (`Stays`). `opens_iff_legible` says so, for every
file and every instant.

The replay looks at one line after the other and compares a record with the one held
under its key only, not with all before it. That is enough, because the one held
speaks for the others: `Replay.Consistent.take` takes consistency from the records
before a line to those up to it.

Both conditions are about records that have not expired, and there are fewer of them
as time passes. So a file that opens does so ever after, with less in it.
-/

set_option autoImplicit false

namespace Idempotency.Journal

variable {path : String} {now late : Instant} {j : Journal} {d d' : Disk}
  {events : List Event} {number : Nat} {bytes : Bytes} {lines : List Bytes}
  {rs later : List Record} {r : Record}

/-! ### Lines and their records -/

/-- Each line is text, blank or a record. These are the records, in the order of the
lines. -/
inductive Lists : List Bytes → List Record → Prop
  | nil : Lists [] []
  | blank {cs : List Char} {lines : List Bytes} {rs : List Record}
      (hblank : ∀ c ∈ cs, Text.isBlank c = true) (h : Lists lines rs) :
      Lists (Text.encode cs :: lines) rs
  | record {cs : List Char} {r : Record} {lines : List Bytes} {rs : List Record}
      (hread : Record.ofText (Text.trimChars cs) = .ok r) (h : Lists lines rs) :
      Lists (Text.encode cs :: lines) (r :: rs)

/-- A blank line is passed over. -/
theorem readLine_of_blank {cs : List Char} (h : ∀ c ∈ cs, Text.isBlank c = true) (number : Nat) :
    readLine number (Text.encode cs) = .ok none := by
  rw [readLine_eq_none_iff, Text.decode?_encode, Option.map_some, Text.trimChars_eq_nil_iff.2 h]

/-- A line whose text without blanks around it is a record gives that record. -/
theorem readLine_of_record {cs : List Char} (h : Record.ofText (Text.trimChars cs) = .ok r)
    (number : Nat) : readLine number (Text.encode cs) = .ok (some r) := by
  -- A text without characters is no record.
  have hne : Text.trimChars cs ≠ [] := by
    intro hnil
    rw [hnil] at h
    exact nomatch h
  rw [readLine_of_decode? (Text.decode?_encode cs) hne, h]

/-- A line that is read is text, and lists what it is read as. -/
theorem lists_cons {found : Option Record} (hread : readLine number bytes = .ok found)
    (h : Lists lines rs) : Lists (bytes :: lines) (found.toList ++ rs) := by
  obtain ⟨cs, hdecode, hblank, hrecord⟩ := of_readLine hread
  rw [Text.encode_of_decode? hdecode]
  cases found with
  | none => exact .blank (Text.trimChars_eq_nil_iff.1 (hblank.2 rfl)) h
  | some r => exact .record (hrecord r rfl) h

namespace Replay

variable {s s' : Replay}

/-- The lines are taken as their records are. -/
theorem takeLines_of_lists (h : Lists lines rs) (s : Replay) (number : Nat) :
    s.takeLines now number lines = s.takeAll now rs := by
  induction h generalizing s number with
  | nil => rfl
  | blank hblank _ ih =>
    simp only [takeLines, takeLine, readLine_of_blank hblank, bind, Except.bind]
    exact ih s (number + 1)
  | record hread _ ih =>
    simp only [takeLines, takeLine, readLine_of_record hread, takeAll, bind, Except.bind]
    split
    · rfl
    · next s' _ => exact ih s' (number + 1)

/-- Lines are taken only if each of them can be read. -/
theorem exists_lists (h : s.takeLines now number lines = .ok s') : ∃ rs, Lists lines rs := by
  induction lines generalizing s number with
  | nil => exact ⟨[], .nil⟩
  | cons line lines ih =>
    rw [takeLines] at h
    cases hline : s.takeLine now number line with
    | error damage =>
      rw [hline] at h
      cases h
    | ok next =>
      rw [hline] at h
      obtain ⟨rs, hlists⟩ := ih h
      cases hread : readLine number line with
      | error damage =>
        rw [takeLine, hread] at hline
        cases hline
      | ok found => exact ⟨found.toList ++ rs, lists_cons hread hlists⟩

end Replay

/-! ### Records that agree -/

/-- Without records there is no conflict. -/
theorem consistent_nil (now : Instant) : Consistent now [] := fun _ h => nomatch h

/-- As time passes, fewer records can be in conflict. -/
theorem Consistent.mono (h : Consistent now rs) (hle : now ≤ late) : Consistent late rs :=
  fun a ha b hb halive hblive =>
    h a ha b hb (Record.live_of_le hle halive) (Record.live_of_le hle hblive)

/-- One more record agrees with the others if it does with each of them. -/
theorem Consistent.concat (h : Consistent now rs)
    (hnew : ∀ a ∈ rs, a.isExpiredAt now = false → r.isExpiredAt now = false → a.key = r.key →
      a.requestHash = r.requestHash) : Consistent now (rs ++ [r]) := by
  intro a ha b hb halive hblive hkey
  rcases List.mem_append.1 ha with ha | ha
  · rcases List.mem_append.1 hb with hb | hb
    · exact h a ha b hb halive hblive hkey
    · rw [List.mem_singleton.1 hb] at hblive hkey ⊢
      exact hnew a ha halive hblive hkey
  · rw [List.mem_singleton.1 ha] at halive hkey ⊢
    rcases List.mem_append.1 hb with hb | hb
    · exact (hnew b hb hblive halive hkey.symm).symm
    · rw [List.mem_singleton.1 hb]

namespace Replay

variable {s s' : Replay}

/-- A record that is taken agrees with those before it: the one held under its key
speaks for all of that key. -/
theorem consistent_take (h : s.Holds now rs) (hbefore : Consistent now rs)
    (htake : s.take now r = .ok s') : Consistent now (rs ++ [r]) := by
  refine hbefore.concat fun a ha halive hlive hkey => ?_
  cases hheld : s.index.find? a.key with
  | none => exact absurd (h.expired a ha hheld) (by rw [halive]; exact Bool.false_ne_true)
  | some held =>
    have hstays := h.stays a.key held hheld
    have hsame : a.requestHash = held.requestHash :=
      hbefore a ha held hstays.mem halive hstays.live (Index.key_of_find? hheld).symm
    rw [hkey] at hheld
    simp only [take, hlive, Bool.false_eq_true, if_false, hheld] at htake
    split at htake
    · exact nomatch htake
    · next hhash => exact hsame.trans (not_not.1 hhash)

/-- Records that are all taken agree, and the invariant holds of them. -/
theorem consistent_takeAll (h : s.Holds now rs) (hbefore : Consistent now rs)
    (htake : s.takeAll now later = .ok s') :
    Consistent now (rs ++ later) ∧ s'.Holds now (rs ++ later) := by
  induction later generalizing s rs with
  | nil =>
    cases htake
    rw [List.append_nil]
    exact ⟨hbefore, h⟩
  | cons r later ih =>
    rw [takeAll] at htake
    cases hfirst : s.take now r with
    | error damage =>
      rw [hfirst] at htake
      cases htake
    | ok next =>
      rw [hfirst] at htake
      have hall := ih (holds_take h hfirst) (consistent_take h hbefore hfirst) htake
      rwa [List.append_assoc] at hall

end Replay

/-! ### The record that counts -/

/-- One record of a key counts at most. -/
theorem Stays.eq {a b : Record} (ha : Stays now rs a) (hb : Stays now rs b)
    (hkey : a.key = b.key) : a = b := by
  have hle : b.expiresAt ≤ a.expiresAt := ha.le hb.mem hkey.symm
  have hge : a.expiresAt ≤ b.expiresAt := hb.le ha.mem hkey
  obtain ⟨before, after, rfl, -, hbefore, -⟩ := ha
  obtain ⟨before', after', hsplit, -, hbefore', -⟩ := hb
  -- Neither comes before the other, since they expire together.
  rcases List.append_eq_append_iff.1 hsplit with ⟨between, hfront, hback⟩ | ⟨between, hfront, hback⟩
  · cases between with
    | nil => exact (List.cons.inj hback).1
    | cons c between =>
      obtain ⟨rfl, -⟩ := List.cons.inj hback
      have hmem : a ∈ before' := by
        rw [hfront]
        exact List.mem_append_right before List.mem_cons_self
      exact absurd (hbefore' a hmem hkey) (not_lt.2 hle)
  · cases between with
    | nil => exact (List.cons.inj hback).1.symm
    | cons c between =>
      obtain ⟨rfl, -⟩ := List.cons.inj hback
      have hmem : b ∈ before := by
        rw [hfront]
        exact List.mem_append_right before' List.mem_cons_self
      exact absurd (hbefore b hmem hkey.symm) (not_lt.2 hge)

/-- The record that counts goes on counting until it expires, and no other takes its
place then. -/
theorem stays_iff_of_le (hle : now ≤ late) :
    Stays late rs r ↔ Stays now rs r ∧ r.isExpiredAt late = false := by
  constructor
  · rintro ⟨before, after, hsplit, hlive, hbefore, hafter⟩
    exact ⟨⟨before, after, hsplit, Record.live_of_le hle hlive, hbefore, hafter⟩, hlive⟩
  · rintro ⟨⟨before, after, hsplit, -, hbefore, hafter⟩, hlive⟩
    exact ⟨before, after, hsplit, hlive, hbefore, hafter⟩

/-- What the index holds after a replay are the records that count. -/
theorem Replay.Holds.find?_iff {s : Replay} (h : s.Holds now rs) (key : String) (r : Record) :
    s.index.find? key = some r ↔ r.key = key ∧ Stays now rs r := by
  constructor
  · intro hfind
    exact ⟨Index.key_of_find? hfind, h.stays key r hfind⟩
  · rintro ⟨rfl, hstays⟩
    cases hheld : s.index.find? r.key with
    | none =>
      exact absurd (h.expired r hstays.mem hheld) (by rw [hstays.live]; exact Bool.false_ne_true)
    | some held =>
      rw [(h.stays r.key held hheld).eq hstays (Index.key_of_find? hheld)]

/-! ### Replaying a file -/

/-- A file replays exactly if it is legible and its records agree. -/
theorem replay_ok_iff (content : Bytes) :
    (∃ s, replay now content = .ok s)
      ↔ ∃ rs, Lists (splitLines content) rs ∧ Consistent now rs := by
  constructor
  · rintro ⟨s, hreplay⟩
    obtain ⟨rs, hlists⟩ := Replay.exists_lists hreplay
    rw [replay, Replay.takeLines_of_lists hlists] at hreplay
    exact ⟨rs, hlists, (Replay.consistent_takeAll (Replay.holds_start now) (consistent_nil now)
      hreplay).1⟩
  · rintro ⟨rs, hlists, hconsistent⟩
    obtain ⟨s, htake, -⟩ := Replay.holds_takeAll (Replay.holds_start now) hconsistent
    exact ⟨s, by rw [replay, Replay.takeLines_of_lists hlists, htake]⟩

/-- A file that is taken has records without a conflict, and the index has those of them
that stay. -/
theorem holds_of_replay {s : Replay} {content : Bytes} (hreplay : replay now content = .ok s)
    (hlists : Lists (splitLines content) rs) : Consistent now rs ∧ s.Holds now rs := by
  rw [replay, Replay.takeLines_of_lists hlists] at hreplay
  exact Replay.consistent_takeAll (Replay.holds_start now) (consistent_nil now) hreplay

/-! ### Opening a file -/

/-- If no step on the disk fails, what opening comes to is up to the replay, at every
instant, and what files hold stays. -/
theorem opening_of_reached (hreached : ∀ fault, (openAt path now d).1 ≠ .error (.io fault)) :
    ∃ handle d', (∀ late, openAt path late d = opening path late handle d')
      ∧ d'.read handle.file = d.contentAt (Path.ofText path).place
      ∧ ∀ place, d'.contentAt place = d.contentAt place := by
  rcases openAt_cases path now d with
    ⟨fault, d', hopen, -⟩ | ⟨made, handle, d', hparent, happend, -, hkept⟩
  · exact absurd (by rw [hopen]) (hreached fault)
  · obtain ⟨-, hentry, -⟩ := Disk.openAppend_ok happend
    refine ⟨handle, d', fun late => ?_, ?_, hkept⟩
    · simp only [openAt, hparent, happend]
      rfl
    · rw [← hkept, Disk.contentAt_of_file hentry]

/-- Which files open, and what they give. Let no step on the disk fail. Then a journal
opens exactly if its file is legible and its records agree. If it does not open, its
file is damaged, and what files hold stays. If it opens, the index holds under each key
the record that counts, and every key with a record that has not expired has one. And
it opens at any later instant, with the records of before less those that have expired
by then. -/
theorem opens_iff_legible (hreached : ∀ fault, (openAt path now d).1 ≠ .error (.io fault)) :
    ((∃ j events d', openAt path now d = (.ok j, events, d'))
        ↔ ∃ rs, Lists (splitLines (d.contentAt (Path.ofText path).place)) rs ∧ Consistent now rs)
      ∧ (∀ reason events d', openAt path now d = (.error reason, events, d') →
        (∃ damage, reason = .damaged damage) ∧ ∀ place, d'.contentAt place = d.contentAt place)
      ∧ ∀ j events d' rs, openAt path now d = (.ok j, events, d') →
        Lists (splitLines (d.contentAt (Path.ofText path).place)) rs →
        (∀ key r, j.index.find? key = some r ↔ r.key = key ∧ Stays now rs r)
          ∧ (∀ r ∈ rs, r.isExpiredAt now = false → ∃ held, j.index.find? r.key = some held)
          ∧ ∀ late, now ≤ late → ∃ j' events' d'',
            openAt path late d = (.ok j', events', d'') ∧ j'.index = j.index.live late := by
  obtain ⟨handle, opened, hopening, hread, hkept⟩ := opening_of_reached hreached
  refine ⟨?_, ?_, ?_⟩
  · rw [← replay_ok_iff, hopening now, opening, hread]
    cases replay now (d.contentAt (Path.ofText path).place) with
    | error damage =>
      refine iff_of_false ?_ ?_
      · rintro ⟨j, events, d', hopen⟩
        cases hopen
      · rintro ⟨s, hreplay⟩
        cases hreplay
    | ok s => exact iff_of_true ⟨_, _, _, rfl⟩ ⟨s, rfl⟩
  · intro reason events d' hopen
    rw [hopening now, opening] at hopen
    split at hopen
    · next damage _ =>
      cases hopen
      exact ⟨⟨damage, rfl⟩, hkept⟩
    · cases hopen
  · intro j events d' rs hopen hlists
    obtain ⟨-, ⟨s, hreplay, hindex⟩, -⟩ := of_openAt hopen
    obtain ⟨hconsistent, hholds⟩ := holds_of_replay hreplay hlists
    rw [hindex]
    refine ⟨hholds.find?_iff, fun r hr hlive => ?_, fun late hle => ?_⟩
    · cases hheld : s.index.find? r.key with
      | none => exact absurd (hholds.expired r hr hheld) (by rw [hlive]; exact Bool.false_ne_true)
      | some held => exact ⟨held, rfl⟩
    · obtain ⟨s', hreplay'⟩ := (replay_ok_iff _).2 ⟨rs, hlists, hconsistent.mono hle⟩
      obtain ⟨-, hholds'⟩ := holds_of_replay hreplay' hlists
      rw [hopening late, opening, hread, hreplay']
      refine ⟨_, _, _, rfl, Index.ext_find? fun key => Option.ext fun r => ?_⟩
      rw [Index.find?_live, Option.filter_eq_some_iff, hholds.find?_iff, hholds'.find?_iff,
        stays_iff_of_le hle, Bool.not_eq_true', and_assoc]

/-- A record that has expired when the file is opened. -/
def overdue : Record := ⟨"key", "first", [], { seconds := 50, nanos := 0 }⟩

/-- A record of another request for its key. -/
def shorter : Record := ⟨"key", "second", [1], { seconds := 61, nanos := 0 }⟩

/-- Of that request, the record that counts. -/
def counting : Record := ⟨"key", "second", [2], { seconds := 70, nanos := 0 }⟩

/-- It expires with the one that counts, and comes after it. -/
def repeated : Record := ⟨"key", "second", [3], { seconds := 70, nanos := 0 }⟩

/-- The lines of these records, and a blank one with a carriage return. The last line
has no end. -/
def scrawled : Bytes :=
  line overdue ++ [0x20, 0x0D, 0x0A] ++ line shorter ++ line counting ++ Text.encode repeated.text

/-- The expired record of another request does no harm, and of three others the one
that counts is found, until it expires. -/
theorem opens_iff_legible_scrawled : ∃ j events d',
    openAt "keys.log" { seconds := 55, nanos := 0 } (diskOf "keys.log" scrawled)
        = (.ok j, events, d')
      ∧ j.index.find? "key" = some counting
      ∧ ∃ j' events' d'',
        openAt "keys.log" { seconds := 75, nanos := 0 } (diskOf "keys.log" scrawled)
            = (.ok j', events', d'')
          ∧ j'.index.find? "key" = none := by
  have hopens : (openAt "keys.log" { seconds := 55, nanos := 0 }
      (diskOf "keys.log" scrawled)).1.isOk = true := by decide +kernel
  have hreached : ∀ fault, (openAt "keys.log" { seconds := 55, nanos := 0 }
      (diskOf "keys.log" scrawled)).1 ≠ .error (.io fault) := by
    intro fault hio
    rw [hio] at hopens
    exact nomatch hopens
  have hlists : Lists (splitLines ((diskOf "keys.log" scrawled).contentAt
      (Path.ofText "keys.log").place)) [overdue, shorter, counting, repeated] := by
    have hread : ∀ r : Record, Record.ofText (Text.trimChars r.text) = .ok r := fun r => by
      rw [r.trimChars_text, r.ofText_text]
    have hsplit : splitLines ((diskOf "keys.log" scrawled).contentAt
        (Path.ofText "keys.log").place)
        = [Text.encode overdue.text, Text.encode [' ', '\r'], Text.encode shorter.text,
          Text.encode counting.text, Text.encode repeated.text] := by decide +kernel
    rw [hsplit]
    exact .record (hread _) (.blank (List.all_eq_true.1 (by decide)) (.record (hread _)
      (.record (hread _) (.record (hread _) .nil))))
  have hconsistent : Consistent { seconds := 55, nanos := 0 }
      [overdue, shorter, counting, repeated] := by
    unfold Consistent
    decide +kernel
  have hstays : Stays { seconds := 55, nanos := 0 } [overdue, shorter, counting, repeated]
      counting :=
    ⟨[overdue, shorter], [repeated], rfl, by decide, by decide, by decide⟩
  obtain ⟨hlegible, -, hgives⟩ := opens_iff_legible hreached
  obtain ⟨j, events, d', hopen⟩ := hlegible.2 ⟨_, hlists, hconsistent⟩
  obtain ⟨hholds, -, hlater⟩ := hgives _ _ _ _ hopen hlists
  have hfind : j.index.find? "key" = some counting := (hholds _ _).2 ⟨rfl, hstays⟩
  obtain ⟨j', events', d'', hopen', hindex⟩ := hlater { seconds := 75, nanos := 0 } (by decide)
  refine ⟨j, events, d', hopen, hfind, j', events', d'', hopen', ?_⟩
  rw [hindex, Index.find?_live, hfind]
  decide

end Idempotency.Journal
