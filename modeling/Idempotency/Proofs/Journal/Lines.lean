import Idempotency.Journal.Basic
import Idempotency.Proofs.Record.Line

/-!
# `Idempotency.Proofs.Journal.Lines`: the lines of a journal and their records

What is written for records splits into their lines again
(`splitLines_lines`), each line reads as its record (`readLine_text`), and
replaying the lines takes the records one after the other
(`replay_lines`).

`lines_faithful` is the whole of it, from the text of a record to the lines of many:
the text keeps to one line, and nothing about the record is lost in it.
-/

set_option autoImplicit false

namespace Idempotency.Journal

variable {now : Instant}

/-! ### Splitting -/

/-- A line ends at the first line feed. -/
theorem splitLines_append {bytes : Bytes} (h : lineFeed ∉ bytes) (rest : Bytes) :
    splitLines (bytes ++ lineFeed :: rest) = bytes :: splitLines rest := by
  induction bytes with
  | nil => rfl
  | cons b bytes ih =>
    have hb : b ≠ lineFeed := fun heq => h (by rw [heq]; exact List.mem_cons_self)
    have hbytes : lineFeed ∉ bytes := fun hmem => h (List.mem_cons_of_mem b hmem)
    rw [List.cons_append, splitLines, if_neg hb, ih hbytes]

/-- The text of a record has no line end in it, since line feeds in its strings are
escaped. -/
theorem lineFeed_not_mem_text (r : Record) : lineFeed ∉ Text.encode r.text := fun h =>
  r.plain_text.lineFeed_not_mem (Text.lineFeed_mem_encode h)

/-- The first line of a file that starts with a record's line is that record's text. -/
theorem splitLines_line (r : Record) (rest : Bytes) :
    splitLines (line r ++ rest) = Text.encode r.text :: splitLines rest := by
  rw [line, List.append_assoc]
  exact splitLines_append (lineFeed_not_mem_text r) rest

/-- The lines of records, whatever stands after them. -/
theorem splitLines_lines (rs : List Record) (rest : Bytes) :
    splitLines (rs.flatMap line ++ rest)
      = rs.map (fun r => Text.encode r.text) ++ splitLines rest := by
  induction rs with
  | nil => rfl
  | cons r rs ih =>
    rw [List.flatMap_cons, List.append_assoc, splitLines_line, ih, List.map_cons,
      List.cons_append]

/-- The lines of a file of records are the texts of the records. -/
theorem splitLines_written (rs : List Record) :
    splitLines (rs.flatMap line) = rs.map fun r => Text.encode r.text := by
  have hlines := splitLines_lines rs []
  rwa [List.append_nil, show splitLines [] = [] from rfl, List.append_nil] at hlines

/-! ### Reading -/

/-- The line of a record reads as the record. -/
theorem readLine_text (number : Nat) (r : Record) :
    readLine number (Text.encode r.text) = .ok (some r) := by
  have hnotempty : r.text.isEmpty = false := by
    rw [List.isEmpty_eq_false_iff]
    exact r.text_ne_nil
  simp only [readLine, Text.decode?_encode, Record.trimChars_text, hnotempty, Record.ofText_text]
  rfl

namespace Replay

/-- Takes records. -/
def takeAll (now : Instant) : Replay → List Record → Except Damage Replay
  | s, [] => .ok s
  | s, r :: rs => do
    let s ← s.take now r
    s.takeAll now rs

/-- A line with the text of a record is taken as the record. -/
theorem takeLine_text (s : Replay) (number : Nat) (r : Record) :
    s.takeLine now number (Text.encode r.text) = s.take now r := by
  simp only [takeLine, readLine_text, bind, Except.bind]

/-- The lines of records are taken as the records are. -/
theorem takeLines_text (s : Replay) (number : Nat) (rs : List Record) :
    s.takeLines now number (rs.map fun r => Text.encode r.text) = s.takeAll now rs := by
  induction rs generalizing s number with
  | nil => rfl
  | cons r rs ih =>
    rw [List.map_cons, takeLines, takeAll, takeLine_text]
    cases s.take now r with
    | error damage => rfl
    | ok s => exact ih s (number + 1)

end Replay

/-- Replaying what was written for records takes the records in order. -/
theorem replay_lines (now : Instant) (rs : List Record) :
    replay now (rs.flatMap line) = Replay.start.takeAll now rs := by
  rw [replay, splitLines_written, Replay.takeLines_text]

/-- A written record is a line of its own, and reads as the record. Its text has no
line feed and no carriage return, trimming leaves it as it is, and it reads as the
record it was written for. Whatever text reads as a record, writing the record and
reading that gives the same. And what is written for records splits into as many
lines, each of which reads as its record. -/
theorem lines_faithful :
    (∀ r : Record, '\n' ∉ r.text ∧ '\r' ∉ r.text ∧ Text.trimChars r.text = r.text
        ∧ Record.ofText r.text = .ok r)
      ∧ (∀ cs, (Record.ofText cs >>= fun r => Record.ofText r.text) = Record.ofText cs)
      ∧ ∀ (rs : List Record) (number : Nat),
        (splitLines (rs.flatMap line)).map (readLine number) = rs.map fun r => .ok (some r) := by
  refine ⟨fun r => ?_, fun cs => ?_, fun rs number => ?_⟩
  · exact ⟨r.plain_text.lineFeed_not_mem, r.plain_text.not_mem (by decide), r.trimChars_text,
      r.ofText_text⟩
  · cases Record.ofText cs with
    | error e => rfl
    | ok r => simp only [bind, Except.bind, r.ofText_text]
  · rw [splitLines_written, List.map_map]
    refine List.map_congr_left fun r _ => ?_
    rw [Function.comp_apply, readLine_text]

end Idempotency.Journal
