import Idempotency.Proofs.Journal.Lines
import Idempotency.Proofs.Record.Cut
import Idempotency.Proofs.Text.Cut

/-!
# `Idempotency.Proofs.Journal.Tail`: what follows the last line end of a file

A file is lines with their ends, and then its tail, which has no end: it is empty
unless somebody else has written the file, or writing it broke off. Lines with
their ends stay as they are when more is written (`replay_append`). The tail is a
line of its own until something is written after it, and part of a longer line
from then on. What a line with a record at its end reads as depends on what is
before the record:

- blanks change nothing (`readLine_blank_append`);
- another record makes the line none (`readLine_record_append`);
- so does part of another record (`readLine_cut_append`).

A line that is cut short reads as no record (`readLine_cut`). `Spoils` says which
damage that is to the file.
-/

set_option autoImplicit false

namespace Idempotency.Journal

variable {now : Instant} {base tail p : Bytes} {r q : Record} {s s' : Replay} {number : Nat}

/-! ### Lines with their ends -/

/-- There is nothing after the last line end. -/
def Ended (content : Bytes) : Prop := content = [] ∨ [lineFeed] <:+ content

/-- A file has no lines exactly if it has no bytes. -/
theorem splitLines_eq_nil_iff (content : Bytes) : splitLines content = [] ↔ content = [] := by
  cases content with
  | nil => exact iff_of_true rfl rfl
  | cons b rest =>
    refine iff_of_false ?_ (List.cons_ne_nil b rest)
    rw [splitLines]
    split
    · exact List.cons_ne_nil _ _
    · split
      · exact List.cons_ne_nil _ _
      · exact List.cons_ne_nil _ _

/-- Lines that have their ends are not changed by what follows. -/
theorem splitLines_append_of_ended (h : Ended base) (tail : Bytes) :
    splitLines (base ++ tail) = splitLines base ++ splitLines tail := by
  rcases h with rfl | ⟨front, rfl⟩
  · rfl
  · induction front with
    | nil => simp [splitLines]
    | cons b front ih =>
      simp only [List.cons_append, splitLines]
      split
      · rw [ih, List.cons_append]
      · -- The line that the byte starts goes on up to a line end.
        obtain ⟨line, lines, hlines⟩ : ∃ line lines,
            splitLines (front ++ [lineFeed]) = line :: lines :=
          List.exists_cons_of_ne_nil fun hnil =>
            List.append_ne_nil_of_right_ne_nil front (List.cons_ne_nil _ _)
              ((splitLines_eq_nil_iff _).1 hnil)
        rw [ih, hlines]
        rfl

/-- Bytes without a line end are one line. -/
theorem splitLines_of_not_mem (h : lineFeed ∉ tail) (hne : tail ≠ []) :
    splitLines tail = [tail] := by
  induction tail with
  | nil => exact absurd rfl hne
  | cons b tail ih =>
    have hb : b ≠ lineFeed := fun heq => h (by rw [heq]; exact List.mem_cons_self)
    have htail : lineFeed ∉ tail := fun hmem => h (List.mem_cons_of_mem b hmem)
    rw [splitLines, if_neg hb]
    by_cases hnil : tail = []
    · rw [hnil]
      rfl
    · rw [ih htail hnil]

/-- A file is lines with their ends and a tail. -/
theorem exists_ended (content : Bytes) :
    ∃ base tail, content = base ++ tail ∧ Ended base ∧ lineFeed ∉ tail := by
  induction content with
  | nil => exact ⟨[], [], rfl, .inl rfl, List.not_mem_nil⟩
  | cons b content ih =>
    obtain ⟨base, tail, rfl, hended, htail⟩ := ih
    rcases hended with rfl | ⟨front, rfl⟩
    · by_cases hb : b = lineFeed
      · exact ⟨[b], tail, rfl, .inr ⟨[], by rw [hb]; rfl⟩, htail⟩
      · refine ⟨[], b :: tail, rfl, .inl rfl, fun hmem => ?_⟩
        rcases List.mem_cons.1 hmem with heq | hmem
        · exact hb heq.symm
        · exact htail hmem
    · exact ⟨b :: (front ++ [lineFeed]), tail, rfl, .inr ⟨b :: front, rfl⟩, htail⟩

/-- Behind ended lines, the lines of records are ended too. -/
theorem ended_lines (h : Ended base) (rs : List Record) : Ended (base ++ rs.flatMap line) := by
  rcases List.eq_nil_or_concat rs with rfl | ⟨rs, r, rfl⟩
  · rwa [List.flatMap_nil, List.append_nil]
  · refine .inr ⟨base ++ rs.flatMap line ++ Text.encode r.text, ?_⟩
    rw [List.concat_eq_append, List.flatMap_append, List.flatMap_singleton, line]
    simp only [List.append_assoc]

/-! ### Replaying what follows -/

/-- Lines are taken one after the other. -/
theorem takeLines_append (s : Replay) (number : Nat) (lines later : List Bytes) :
    s.takeLines now number (lines ++ later)
      = (s.takeLines now number lines).bind fun s' =>
          s'.takeLines now (number + lines.length) later := by
  induction lines generalizing s number with
  | nil => rfl
  | cons line lines ih =>
    rw [List.cons_append, Replay.takeLines, Replay.takeLines, List.length_cons]
    cases s.takeLine now number line with
    | error damage => rfl
    | ok s =>
      show s.takeLines now (number + 1) (lines ++ later) = _
      rw [ih, Nat.add_right_comm, Nat.add_assoc]
      rfl

/-- What follows a line end is replayed from where the lines before have come
to. -/
theorem replay_append (h : Ended base) (tail : Bytes) :
    replay now (base ++ tail) = (replay now base).bind fun s =>
      s.takeLines now (1 + (splitLines base).length) (splitLines tail) := by
  rw [replay, splitLines_append_of_ended h, takeLines_append]
  rfl

/-! ### Reading the tail -/

/-- What is on a line, and the text that says so. -/
theorem of_readLine {bytes : Bytes} {found : Option Record}
    (h : readLine number bytes = .ok found) :
    ∃ cs, Text.decode? bytes = some cs ∧ (Text.trimChars cs = [] ↔ found = none)
      ∧ ∀ r, found = some r → Record.ofText (Text.trimChars cs) = .ok r := by
  unfold readLine at h
  split at h
  · exact nomatch h
  · next cs hdecode =>
    refine ⟨cs, hdecode, ?_⟩
    dsimp only at h
    split at h
    · next hempty =>
      cases h
      exact ⟨iff_of_true (List.isEmpty_iff.1 hempty) rfl, fun _ h => nomatch h⟩
    · next hempty =>
      split at h
      · next r hread =>
        cases h
        refine ⟨iff_of_false (fun hnil => hempty (List.isEmpty_iff.2 hnil)) nofun, ?_⟩
        rintro _ ⟨⟩
        exact hread
      · exact nomatch h

/-- A line that is text, and not blank, is read as a record. -/
theorem readLine_of_decode? {bytes : Bytes} {cs : List Char} (h : Text.decode? bytes = some cs)
    (hne : Text.trimChars cs ≠ []) :
    readLine number bytes = match Record.ofText (Text.trimChars cs) with
      | .ok r => .ok (some r)
      | .error reason => .error (.badLine number reason) := by
  have hnotempty : (Text.trimChars cs).isEmpty = false := List.isEmpty_eq_false_iff.2 hne
  simp only [readLine, h, hnotempty]
  rfl

/-- If what is there of a record's text decodes, the cut is between characters. The
opening brace is there, and something is missing. -/
theorem exists_cut (hcut : p <+: Text.encode r.text) (hne : p ≠ [])
    (hshort : p.length < (Text.encode r.text).length) {ds : List Char}
    (hdecode : Text.decode? p = some ds) :
    ∃ front es, ds = '\x7b' :: front ∧ r.text = ds ++ es ∧ es ≠ [] := by
  obtain ⟨q, hq⟩ := hcut
  obtain ⟨es, htext, rfl⟩ := Text.exists_append_of_encode hq.symm hdecode
  obtain ⟨body, hbody⟩ := r.exists_body
  have hes : es ≠ [] := by
    rintro rfl
    rw [htext, List.append_nil, ← Text.encode_of_decode? hdecode] at hshort
    exact Nat.lt_irrefl _ hshort
  cases ds with
  | nil => exact absurd (Text.encode_of_decode? hdecode) hne
  | cons c front =>
    refine ⟨front, es, ?_, htext, hes⟩
    rw [hbody, List.cons_append] at htext
    rw [(List.cons.inj htext).1]

/-- What part of a record's text does to the line with a number. If the part ends
inside a character, the line is not text. Otherwise it is no record. -/
inductive Spoils (p : Bytes) (number : Nat) : Damage → Prop
  | notText (h : Text.decode? p = none) : Spoils p number .notText
  | badLine (h : Text.decode? p ≠ none) (reason : Json.Error) :
      Spoils p number (.badLine number reason)

/-- The line of a record that is cut short is not the line of any record, wherever
the cut is. -/
theorem readLine_cut (hcut : p <+: Text.encode r.text) (hne : p ≠ [])
    (hshort : p.length < (Text.encode r.text).length) (number : Nat) :
    ∃ damage, readLine number p = .error damage ∧ Spoils p number damage := by
  cases hdecode : Text.decode? p with
  | none => exact ⟨.notText, by simp only [readLine, hdecode], .notText hdecode⟩
  | some ds =>
    obtain ⟨front, es, rfl, htext, hes⟩ := exists_cut hcut hne hshort hdecode
    -- There is nothing to trim before the brace.
    have hstart : Text.trimStart ('\x7b' :: front) = '\x7b' :: front :=
      Text.trimStart_cons (by decide) front
    have hnotblank : Text.trimChars ('\x7b' :: front) ≠ [] := fun hnil =>
      absurd (Text.trimChars_eq_nil_iff.1 hnil '\x7b' List.mem_cons_self) (by decide)
    obtain ⟨blanks, hblanks, _⟩ := Text.exists_trimEnd ('\x7b' :: front)
    rw [hblanks, List.append_assoc] at htext
    obtain ⟨e, he⟩ := Record.ofText_cut htext (List.append_ne_nil_of_right_ne_nil blanks hes)
    refine ⟨.badLine number e, ?_, .badLine (by simp [hdecode]) e⟩
    rw [readLine_of_decode? hdecode hnotblank, Text.trimChars, hstart, he]

/-- Text with a record's text after it is text. -/
theorem decode?_append_text {cs : List Char} (h : Text.decode? tail = some cs) (q : Record) :
    Text.decode? (tail ++ Text.encode q.text) = some (cs ++ q.text) := by
  rw [Text.encode_of_decode? h, ← Text.encode_append, Text.decode?_encode]

/-- A record after blanks is read. -/
theorem readLine_blank_append (h : readLine number tail = .ok none) (q : Record)
    (later : Nat) : readLine later (tail ++ Text.encode q.text) = .ok (some q) := by
  obtain ⟨cs, hdecode, hblank, -⟩ := of_readLine h
  have htrim : Text.trimChars (cs ++ q.text) = q.text :=
    Text.trimChars_append_of_blank (hblank.2 rfl) q.trimChars_text q.trimStart_text
  rw [readLine_of_decode? (decode?_append_text hdecode q) (by rw [htrim]; exact q.text_ne_nil),
    htrim, Record.ofText_text]

/-- A record after another one, with no line end between them, is not read, and
nor is the other one. -/
theorem readLine_record_append (h : readLine number tail = .ok (some r)) (q : Record)
    (later : Nat) :
    readLine later (tail ++ Text.encode q.text) = .error (.badLine later .trailingCharacters) := by
  obtain ⟨cs, hdecode, hblank, hread⟩ := of_readLine h
  have hne : Text.trimChars cs ≠ [] := fun hnil => nomatch hblank.1 hnil
  obtain ⟨body, hbody⟩ := q.exists_body
  have hbody' : q.text = ('\x7b' :: body) ++ ['\x7d'] := hbody
  obtain ⟨blanks, htrim⟩ := Text.trimChars_append hne
    (show Text.isBlank '\x7d' = false by decide) ('\x7b' :: body)
  rw [← hbody'] at htrim
  have hrefused : Record.ofText (Text.trimChars (cs ++ q.text)) = .error .trailingCharacters := by
    rw [htrim]
    refine Record.ofText_append (hread r rfl) (c := '\x7b') ?_ (by decide)
    exact List.mem_append_right blanks (by rw [hbody]; exact List.mem_cons_self)
  rw [readLine_of_decode? (decode?_append_text hdecode q), hrefused]
  rw [htrim]
  exact List.append_ne_nil_of_left_ne_nil hne _

/-- What is there of a record that is cut short spoils the record after it. -/
theorem readLine_cut_append (hcut : p <+: Text.encode r.text) (hne : p ≠ [])
    (hshort : p.length < (Text.encode r.text).length) (q : Record) (later : Nat) :
    ∃ damage, readLine later (p ++ Text.encode q.text) = .error damage
      ∧ Spoils p later damage := by
  obtain ⟨body, hbody⟩ := q.exists_body
  cases hdecode : Text.decode? p with
  | none =>
    -- A character that is cut stays so: the record starts with a byte of its own.
    have hbrace : Text.encode q.text = 0x7B :: Text.encode (body ++ ['\x7d']) := by
      rw [hbody]
      rfl
    have hnone : Text.decode? (p ++ Text.encode q.text) = none := by
      rw [hbrace]
      exact Text.decode?_append_eq_none (by decide) hdecode
    exact ⟨.notText, by simp only [readLine, hnone], .notText hdecode⟩
  | some ds =>
    obtain ⟨front, es, rfl, htext, hes⟩ := exists_cut hcut hne hshort hdecode
    have htrim : Text.trimChars ('\x7b' :: front ++ q.text) = '\x7b' :: front ++ q.text := by
      have hends : '\x7b' :: front ++ q.text = '\x7b' :: front ++ '\x7b' :: body ++ ['\x7d'] := by
        simp [hbody]
      rw [Text.trimChars, List.cons_append, Text.trimStart_cons (by decide), ← List.cons_append,
        hends]
      exact Text.trimEnd_concat (by decide) _
    obtain ⟨e, he⟩ := Record.ofText_torn htext (List.cons_ne_nil _ _) hes q
    refine ⟨.badLine later e, ?_, .badLine (by simp [hdecode]) e⟩
    rw [readLine_of_decode? (decode?_append_text hdecode q), htrim, he]
    rw [htrim]
    exact List.cons_ne_nil _ _

end Idempotency.Journal
