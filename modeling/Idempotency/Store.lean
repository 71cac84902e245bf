import Idempotency.Settings

/-!
# `Idempotency.Store`: where records are kept

Records are kept in memory, or in memory and in a journal. Both kinds answer
alike; they differ in what outlives the process and in what can fail.
-/

set_option autoImplicit false

namespace Idempotency

/-- A store of records. -/
inductive Store
  | memory (index : Index)
  | journal (j : Journal)

namespace Store

/-- The records a store holds, expired ones that it has not dropped yet
included. -/
def index : Store → Index
  | .memory ix => ix
  | .journal j => j.index

/-- The store with another index. -/
def withIndex (s : Store) (ix : Index) : Store :=
  match s with
  | .memory _ => .memory ix
  | .journal j => .journal { j with index := ix }

/-- How many records the store holds. -/
def size (s : Store) : Nat := s.index.size

/-- Looks a key up at an instant. -/
def get (s : Store) (key : String) (now : Instant) : Option Record × Store × List Event :=
  let answer := s.index.lookup key now
  (answer.found, s.withIndex answer.index, if answer.evicted then [.evicted key] else [])

/-- Gives the store a record. -/
def put (s : Store) (r : Record) (d : Disk) : Except Refusal Placement × Store × Disk :=
  match s with
  | .memory ix =>
    match ix.put r with
    | .ok (placement, ix) => (.ok placement, .memory ix, d)
    | .error refusal => (.error refusal, s, d)
  | .journal j =>
    let (placement, j, d) := j.put r d
    (placement, .journal j, d)

/-- Drops what has expired. Only a store in memory reports it. -/
def purge (s : Store) (now : Instant) : Nat × Store × List Event :=
  let count := s.index.expiredCount now
  let events : List Event :=
    match s with
    | .memory _ => if count = 0 then [] else [.purged count]
    | .journal _ => []
  (count, s.withIndex (s.index.live now), events)

end Store

/-- Opens the store that settings ask for: a journal if they name one. -/
def Settings.openStore (s : Settings) (now : Instant) (d : Disk) :
    Except SettingsError Store × List Event × Disk :=
  match s.journalPath with
  | none => (.ok (.memory .empty), [], d)
  | some path =>
    match Journal.openAt path now d with
    | (.ok j, events, d) => (.ok (.journal j), events, d)
    | (.error reason, events, d) => (.error (.journal path reason), events, d)

end Idempotency
