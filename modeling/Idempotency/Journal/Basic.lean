import Idempotency.Disk.Basic
import Idempotency.Event
import Idempotency.Journal.Replay

/-!
# `Idempotency.Journal.Basic`: an index that outlives its process

A journal keeps its index in memory and appends every record it stores to a
file, as a line and then the end of the line, before it says that the record
is stored. What expires is dropped from the index only; the lines go when the
journal is compacted.

Compacting writes the live records, in the order of their keys, to a file
beside the journal, and moves that over the journal's own. From then on
records go through the handle of the new file, at its own position.
-/

set_option autoImplicit false

namespace Idempotency

/-- An open journal. -/
structure Journal where
  path : String
  index : Index
  handle : Handle

namespace Journal

/-- Why a journal does not open. -/
inductive OpenError
  /-- A step on the disk failed. -/
  | io (fault : Fault)
  /-- The file is no journal. -/
  | damaged (damage : Damage)
  deriving DecidableEq

/-- What is written for a record: its line, and the end of the line. -/
def pieces (r : Record) : List Bytes := [Text.encode r.text, [lineFeed]]

/-- The line of a record, with its end. -/
def line (r : Record) : Bytes := Text.encode r.text ++ [lineFeed]

/-- Where the records that stay are gathered when a journal is compacted. A
journal whose path has the extension already is its own draft. -/
def draftPath (j : Journal) : Path := (Path.ofText j.path).withExtension "compact"

/-- Opens the journal at a path. Missing directories are created, and a
missing file is an empty journal. -/
def openAt (path : String) (now : Instant) (d : Disk) :
    Except OpenError Journal × List Event × Disk :=
  let parsed := Path.ofText path
  match d.createParent parsed with
  | (.error fault, d) => (.error (.io fault), [], d)
  | (.ok (), d) =>
    match d.openAppend parsed with
    | (.error fault, d) => (.error (.io fault), [], d)
    | (.ok handle, d) =>
      -- Opening has created the file if it was missing; that stays so even if
      -- its contents are refused.
      match replay now (d.read handle.file) with
      | .error damage => (.error (.damaged damage), [], d)
      | .ok s =>
        let skipped : List Event := if s.skipped = 0 then [] else [.skippedExpired s.skipped]
        (.ok ⟨path, s.index, handle⟩, skipped ++ [.opened path s.index.size], d)

/-- Brings a record into the file. -/
def append (j : Journal) (r : Record) (d : Disk) : Option Fault × Journal × Disk :=
  let written := d.writeAll j.handle (pieces r)
  let j := { j with handle := written.handle }
  match written.fault with
  | some fault => (some fault, j, written.disk)
  | none =>
    let (fault, d) := written.disk.sync
    (fault, j, d)

/-- What a call is told when its record did not get into the file. -/
def appendRefusal (path : String) : Refusal :=
  .storage ("journal append failed for " ++ path ++ ": " ++ Fault.wording)

/-- Gives the journal a record. It is in the index only if it got into the
file. -/
def put (j : Journal) (r : Record) (d : Disk) : Except Refusal Placement × Journal × Disk :=
  match j.index.judge r with
  | .error refusal => (.error refusal, j, d)
  | .ok (some placement) => (.ok placement, j, d)
  | .ok none =>
    match j.append r d with
    | (some _, j, d) => (.error (appendRefusal j.path), j, d)
    | (none, j, d) => (.ok .inserted, { j with index := j.index.store r }, d)

/-- Writes the live records to a new file and puts it in the journal's place.
Gives the number of records dropped. What has expired is gone from the index
even when a step on the disk fails. -/
def compact (j : Journal) (now : Instant) (d : Disk) :
    Except Fault Nat × Journal × List Event × Disk :=
  let dropped := j.index.expiredCount now
  let j := { j with index := j.index.live now }
  -- The draft may be left from a compaction that broke off; opening empties
  -- it.
  match d.openFresh j.draftPath with
  | (.error fault, d) => (.error fault, j, [], d)
  | (.ok handle, d) =>
    let written := d.writeAll handle (j.index.toList.flatMap pieces)
    match written.fault with
    | some fault => (.error fault, j, [], written.disk)
    | none =>
      match written.disk.sync with
      | (some fault, d) => (.error fault, j, [], d)
      | (none, d) =>
        -- Up to here the journal's handle is the one in use, and its file is
        -- as it was, unless it is its own draft.
        match d.rename j.draftPath (Path.ofText j.path) with
        | (some fault, d) => (.error fault, j, [], d)
        | (none, d) =>
          (.ok dropped, { j with handle := written.handle },
            [.compacted j.path dropped j.index.size], d)

end Journal

end Idempotency
