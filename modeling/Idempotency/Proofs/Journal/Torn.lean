import Idempotency.Proofs.Journal.Reopen
import Idempotency.Proofs.Journal.Tail

/-!
# `Idempotency.Proofs.Journal.Torn`: a crash while a line is written

A record's line reaches the file byte by byte, and a crash can come after any of
them. `openAt_cut_line` says what the next opening finds, for every journal that
opens and whose lines all have their ends:

- nothing was written: the index of before;
- some of the text was written: the file is refused;
- all of the text was written, with its line end or without: the record is there,
  unless it has expired.

So a record is never misread. The second case rests on `readLine_cut`: no part of a
record's text is the text of a record.
-/

set_option autoImplicit false

namespace Idempotency.Journal

variable {path : String} {now : Instant} {j : Journal} {d d' opened : Disk}
  {events : List Event} {base p : Bytes} {r : Record} {s : Replay}

/-- What is written of a line is part of its text, or all of the line. -/
theorem cut_line_cases (hcut : p <+: line r) : p <+: Text.encode r.text ∨ p = line r := by
  rcases List.prefix_concat_iff.1 hcut with hline | htext
  · exact .inr hline
  · exact .inl htext

/-- There is no line end in part of a record's text. -/
theorem lineFeed_not_mem_cut (hcut : p <+: Text.encode r.text) : lineFeed ∉ p := fun hmem =>
  lineFeed_not_mem_text r (hcut.subset hmem)

/-- Part of a record's text at the end of a file ends the replay. -/
theorem replay_cut (hended : Ended base) (hbase : replay now base = .ok s)
    (hcut : p <+: Text.encode r.text) (hne : p ≠ [])
    (hshort : p.length < (Text.encode r.text).length) :
    ∃ damage, replay now (base ++ p) = .error damage
      ∧ Spoils p (1 + (splitLines base).length) damage := by
  obtain ⟨damage, hdamage, hspoils⟩ :=
    readLine_cut hcut hne hshort (1 + (splitLines base).length)
  refine ⟨damage, ?_, hspoils⟩
  rw [replay_append hended, hbase, splitLines_of_not_mem (lineFeed_not_mem_cut hcut) hne]
  simp only [Except.bind, Replay.takeLines, Replay.takeLine, hdamage, bind]

/-- The last line needs no end. -/
theorem splitLines_text (r : Record) : splitLines (Text.encode r.text) = [Text.encode r.text] := by
  refine splitLines_of_not_mem (lineFeed_not_mem_text r) fun hnil => ?_
  have hdecode := Text.decode?_encode r.text
  rw [hnil] at hdecode
  exact r.text_ne_nil (Option.some.inj hdecode).symm

/-- A whole text at the end of a file is the record, with or without the line
end. -/
theorem replay_whole (hended : Ended base) (hbase : replay now base = .ok s)
    (hwhole : p = Text.encode r.text ∨ p = line r) :
    replay now (base ++ p) = s.take now r := by
  have hsplit : splitLines p = [Text.encode r.text] := by
    rcases hwhole with rfl | rfl
    · exact splitLines_text r
    · have hline := splitLines_line r []
      rwa [List.append_nil] at hline
  rw [replay_append hended, hbase, hsplit]
  simp only [Except.bind, Replay.takeLines, Replay.takeLine_text, bind]
  cases s.take now r <;> rfl

/-- A record whose key is free is taken, unless it has expired. -/
theorem take_of_free (hfree : s.index.find? r.key = none) :
    ∃ s', s.take now r = .ok s'
      ∧ s'.index = if r.isExpiredAt now then s.index else s.index.store r := by
  unfold Replay.take
  split
  · exact ⟨_, rfl, rfl⟩
  · rw [hfree]
    exact ⟨_, rfl, rfl⟩

/-- A crash in the middle of an append is never misread. Let a journal open where
every line of the file has its end, and let the key of a record be free. If then
the file, with nothing else of the disk's directories and files changed, has some
of the record's line at its end, opening it at the same instant gives the index of
before if that is nothing, is refused for the line it is on if it is less than the
text, and gives the record too if it is the text, unless the record has expired.
What files hold is left as it is, whatever comes of it. -/
theorem openAt_cut_line (hopen : openAt path now d = (.ok j, events, opened))
    (hended : Ended (d.contentAt (Path.ofText path).place))
    (hfree : j.index.find? r.key = none) (hcut : p <+: line r)
    (hentries : d'.entries = opened.entries)
    (hcontent : d'.contentAt (Path.ofText path).place
      = d.contentAt (Path.ofText path).place ++ p) :
    (p = [] → Gives path now d' j.index)
      ∧ (p ≠ [] → p.length < (Text.encode r.text).length →
          ∃ damage, Spoils p (1 + (splitLines (d.contentAt (Path.ofText path).place)).length) damage
            ∧ Refuses path now d' damage)
      ∧ ((Text.encode r.text).length ≤ p.length →
          Gives path now d' (if r.isExpiredAt now then j.index else j.index.store r))
      ∧ ∀ place, (openAt path now d').2.2.contentAt place = d'.contentAt place := by
  obtain ⟨-, ⟨s, hbase, hindex⟩, -⟩ := of_openAt hopen
  refine ⟨?_, ?_, ?_, contentAt_openAt path now d'⟩
  · rintro rfl
    rw [hindex]
    rw [List.append_nil] at hcontent
    exact gives_of_replay hopen hentries (by rw [hcontent, hbase])
  · intro hne hshort
    have htext : p <+: Text.encode r.text := by
      rcases cut_line_cases hcut with htext | rfl
      · exact htext
      · rw [line, List.length_append] at hshort
        omega
    obtain ⟨damage, hdamage, hspoils⟩ := replay_cut hended hbase htext hne hshort
    exact ⟨damage, hspoils, _, _,
      openAt_of_damage hopen hentries (by rw [hcontent, hdamage])⟩
  · intro hlong
    have hwhole : p = Text.encode r.text ∨ p = line r := by
      rcases cut_line_cases hcut with htext | hline
      · exact .inl (htext.eq_of_length_le hlong)
      · exact .inr hline
    rw [hindex] at hfree ⊢
    obtain ⟨s', htake, hindex'⟩ := take_of_free hfree
    have hgives := gives_of_replay hopen hentries
      (by rw [hcontent, replay_whole hended hbase hwhole, htake])
    rwa [hindex'] at hgives

/-- A record whose line breaks off inside the key. -/
def brokenOff : Record := ⟨"key", "hash", [0, 255], { seconds := 9, nanos := 0 }⟩

/-- Ten bytes of the record's line are on the first line of the file, and that is refused
as no record. -/
theorem openAt_cut_line_half : ∃ j events opened,
    openAt "data/keys.log" { seconds := 0, nanos := 0 } .empty = (.ok j, events, opened)
      ∧ j.index.find? brokenOff.key = none
      ∧ ∃ reason, Refuses "data/keys.log" { seconds := 0, nanos := 0 }
          (opened.withContent j.handle.file ((line brokenOff).take 10)) (.badLine 1 reason) := by
  obtain ⟨j, events, opened, hopen⟩ := exists_openAt_empty
  have hempty : Disk.empty.contentAt (Path.ofText "data/keys.log").place = [] := by decide +kernel
  obtain ⟨hpath, ⟨s, hreplay, hindex⟩, hstands⟩ := of_openAt hopen
  have hfree : j.index.find? brokenOff.key = none := by
    rw [hempty] at hreplay
    rw [hindex, ← Except.ok.inj hreplay]
    rfl
  have hcontent := hstands.contentAt_withContent ((line brokenOff).take 10)
  rw [hpath] at hcontent
  have hentries : (opened.withContent j.handle.file ((line brokenOff).take 10)).entries
      = opened.entries := rfl
  refine ⟨j, events, opened, hopen, hfree, ?_⟩
  obtain ⟨-, hcut, -⟩ := openAt_cut_line hopen (.inl hempty) hfree (List.take_prefix 10 _)
    hentries (by rw [hcontent, hempty, List.nil_append])
  obtain ⟨damage, hspoils, hrefuses⟩ := hcut (by decide +kernel) (by decide +kernel)
  rw [hempty] at hspoils
  cases hspoils with
  | notText hdecode => exact absurd hdecode (by decide +kernel)
  | badLine hdecode reason => exact ⟨reason, hrefuses⟩

end Idempotency.Journal
