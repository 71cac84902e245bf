import Idempotency.Guard.Basic
import Idempotency.Store

/-!
# `Idempotency.Service`: everything a guarded call works on

A service is a store with its disk, a clock, and the guards that share them.
It also knows whether the store is cut off from the guards at the moment,
how often guards have called on it, and what has been reported and not yet
taken notice of.
-/

set_option autoImplicit false

namespace Idempotency

/-- What guards are told instead of an answer from the store. -/
structure Outage where
  get : Option String := none
  put : Option String := none
  deriving DecidableEq

/-- How often guards have called on the store. -/
structure Traffic where
  gets : Nat := 0
  puts : Nat := 0
  deriving DecidableEq

/-- A store, a clock and the guards that share them. Reports are oldest
first. -/
structure Service where
  disk : Disk
  now : Instant
  store : Store
  guards : List Guard
  outage : Outage := {}
  traffic : Traffic := {}
  reports : List Event := []

namespace Service

/-- A guard by its number. -/
def guard (s : Service) (number : Nat) : Guard := s.guards.getD number (Guard.new "")

/-- Adds to the reports. -/
def report (s : Service) (events : List Event) : Service :=
  { s with reports := s.reports ++ events }

/-- Notes how a call of a guard ended. -/
def note (s : Service) (number : Nat) (count : Count) (event : Event) : Service :=
  { s with
    guards := s.guards.modify number fun g => { g with tally := g.tally.add count }
    reports := s.reports ++ [event] }

/-! ### The store -/

/-- Looks a key up in the store. -/
def get (s : Service) (key : String) (now : Instant) : Option Record × Service :=
  let (found, store, events) := s.store.get key now
  (found, { s with store := store }.report events)

/-- Gives the store a record. -/
def put (s : Service) (r : Record) : Except Refusal Placement × Service :=
  let (placement, store, disk) := s.store.put r s.disk
  (placement, { s with store := store, disk := disk })

/-- Drops what has expired from the store. -/
def purge (s : Service) (now : Instant) : Nat × Service :=
  let (count, store, events) := s.store.purge now
  (count, { s with store := store }.report events)

/-- What a guard gets when it looks a key up at an instant. The call counts
even if the store is cut off. -/
def guardedGet (s : Service) (key : String) (now : Instant) :
    Except Refusal (Option Record) × Service :=
  let s := { s with traffic := { s.traffic with gets := s.traffic.gets + 1 } }
  match s.outage.get with
  | some reason => (.error (.storage reason), s)
  | none => let (found, s) := s.get key now; (.ok found, s)

/-- What a guard gets when it gives the store a record. -/
def guardedPut (s : Service) (r : Record) : Except Refusal Placement × Service :=
  let s := { s with traffic := { s.traffic with puts := s.traffic.puts + 1 } }
  match s.outage.put with
  | some reason => (.error (.storage reason), s)
  | none => s.put r

end Service

end Idempotency
