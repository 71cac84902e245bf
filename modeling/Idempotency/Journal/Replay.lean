import Idempotency.Index
import Idempotency.Record.Line

/-!
# `Idempotency.Journal.Replay`: from the lines of a journal to an index

A journal is a file with a record a line. Replaying it takes the lines in
order: blank lines and expired records are passed over, a line that is no
record ends the replay, and so do two live records of one key that belong to
different requests. Of live records of one key and request the one that
expires last stays, the earlier line if they expire together.
-/

set_option autoImplicit false

namespace Idempotency.Journal

/-- The byte that ends a line. -/
def lineFeed : UInt8 := 0x0A

/-- The lines of a file, without their ends. The last line needs no end. -/
def splitLines : Bytes → List Bytes
  | [] => []
  | b :: rest =>
    if b = lineFeed then [] :: splitLines rest
    else
      match splitLines rest with
      -- The file ends in this byte: a last line without its end.
      | [] => [[b]]
      | line :: lines => (b :: line) :: lines

/-- Why a file is no journal. -/
inductive Damage
  /-- A line is not text. -/
  | notText
  /-- The line with a number, counted from one, is no record. -/
  | badLine (number : Nat) (reason : Json.Error)
  /-- The key has live records of different requests. -/
  | conflict (key : String)
  deriving DecidableEq

/-- The wording of a refusal to open the journal at `path`. -/
def Damage.message (path : String) : Damage → String
  | .notText => "stream did not contain valid UTF-8"
  | .badLine number reason =>
    "invalid idempotency record at line " ++ String.ofList (Decimal.decimal number)
      ++ " in " ++ path ++ ": " ++ reason.message
  | .conflict key =>
    "conflicting live records for idempotency key '" ++ key ++ "' in " ++ path

/-- The record on a line; a blank line has none. -/
def readLine (number : Nat) (line : Bytes) : Except Damage (Option Record) :=
  match Text.decode? line with
  | none => .error .notText
  | some cs =>
    let cs := Text.trimChars cs
    if cs.isEmpty then .ok none
    else
      match Record.ofText cs with
      | .ok r => .ok (some r)
      | .error reason => .error (.badLine number reason)

/-- What replaying has come to: the index so far, and how many records had
expired. -/
structure Replay where
  index : Index
  skipped : Nat

namespace Replay

/-- Nothing replayed yet. -/
def start : Replay := ⟨.empty, 0⟩

/-- Takes a record. -/
def take (now : Instant) (s : Replay) (r : Record) : Except Damage Replay :=
  if r.isExpiredAt now then .ok { s with skipped := s.skipped + 1 }
  else
    match s.index.find? r.key with
    | none => .ok { s with index := s.index.store r }
    | some held =>
      -- The record held has not expired either, so both count.
      if held.requestHash ≠ r.requestHash then .error (.conflict r.key)
      else if r.expiresAt ≤ held.expiresAt then .ok s
      else .ok { s with index := s.index.store r }

/-- Takes a line. -/
def takeLine (now : Instant) (s : Replay) (number : Nat) (line : Bytes) :
    Except Damage Replay := do
  match ← readLine number line with
  | none => .ok s
  | some r => s.take now r

/-- Takes lines, the first of which has a number. -/
def takeLines (now : Instant) (s : Replay) (number : Nat) : List Bytes → Except Damage Replay
  | [] => .ok s
  | line :: lines => do
    let s ← s.takeLine now number line
    s.takeLines now (number + 1) lines

end Replay

/-- Replays the contents of a file at an instant. -/
def replay (now : Instant) (content : Bytes) : Except Damage Replay :=
  Replay.start.takeLines now 1 (splitLines content)

end Idempotency.Journal
