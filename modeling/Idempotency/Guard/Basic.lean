import Idempotency.Lifetime
import Idempotency.Record.Basic
import Idempotency.Settings

/-!
# `Idempotency.Guard.Basic`: what a guard is and what it decides

A guard lets the operations of one module run at most once per key. It knows
how long the records it makes shall count, and it counts how its calls end.

`Guard.decide` is the decision a guard takes once it knows what its store
holds under the key. It depends on nothing else: the same decision follows
however calls of several guards are interleaved.
-/

set_option autoImplicit false

namespace Idempotency

/-- What a guard counts. -/
inductive Count
  /-- The operation ran and its result is recorded. -/
  | execution
  /-- The call was answered from the store. -/
  | replay
  /-- The key belonged to another request. -/
  | conflict
  /-- The operation failed. -/
  | failure
  deriving DecidableEq

/-- How often calls of a guard ended in each way. Counters are words of
sixty-four bits and start over when they are full. -/
structure Tally where
  executions : UInt64 := 0
  replays : UInt64 := 0
  conflicts : UInt64 := 0
  failures : UInt64 := 0
  deriving DecidableEq, Inhabited

/-- Counts one more. -/
def Tally.add (t : Tally) : Count → Tally
  | .execution => { t with executions := t.executions + 1 }
  | .replay => { t with replays := t.replays + 1 }
  | .conflict => { t with conflicts := t.conflicts + 1 }
  | .failure => { t with failures := t.failures + 1 }

/-- The counter of a way to end. -/
def Tally.get (t : Tally) : Count → UInt64
  | .execution => t.executions
  | .replay => t.replays
  | .conflict => t.conflicts
  | .failure => t.failures

/-- A guard of a module. -/
structure Guard where
  moduleName : String
  lifetime : Span
  tally : Tally := {}
  lifetime_pos : lifetime.isPositive = true := by decide

namespace Guard

/-- A guard whose records have the standard lifetime. -/
def new (moduleName : String) : Guard := { moduleName, lifetime := Lifetime.standard }

instance : Inhabited Guard := ⟨new ""⟩

/-- The guard with another lifetime for its records, unless that is nothing or
less. -/
def withLifetime (g : Guard) (asked : Span) : Guard :=
  { g with
    lifetime := Lifetime.resolve (some asked)
    lifetime_pos := Lifetime.isPositive_resolve _ }

/-- What a guard does about a call. -/
inductive Decision
  /-- The call is answered with what is recorded. -/
  | replay (payload : Bytes)
  /-- The key belongs to another request. -/
  | conflict
  /-- The record could not expire. -/
  | overflow
  /-- The operation is to run, and its record to expire at the instant. -/
  | execute (expiresAt : Instant)
  deriving DecidableEq

/-- Decides by what the store holds under the key at an instant. -/
def decide (g : Guard) (now : Instant) (requestHash : String) : Option Record → Decision
  | some r => if r.requestHash = requestHash then .replay r.payload else .conflict
  | none =>
    match now.add? g.lifetime with
    | some expiresAt => .execute expiresAt
    | none => .overflow

/-- The text of a counter. -/
def counterText (name : String) (n : UInt64) : String :=
  name ++ ": " ++ String.ofList (Decimal.decimal n.toNat)

/-- A guard in words, for people. -/
def describe (g : Guard) : String :=
  "IdempotencyGuard \x7b module: " ++ Text.quoted g.moduleName
    ++ ", ttl: TimeDelta \x7b secs: " ++ String.ofList (Decimal.integer g.lifetime.seconds)
    ++ ", nanos: " ++ String.ofList (Decimal.decimal g.lifetime.nanos)
    ++ " \x7d, metrics: GuardMetrics \x7b "
    ++ counterText "executions_total" g.tally.executions
    ++ ", " ++ counterText "replays_total" g.tally.replays
    ++ ", " ++ counterText "conflicts_total" g.tally.conflicts
    ++ ", " ++ counterText "failed_executions_total" g.tally.failures
    ++ " \x7d, .. \x7d"

end Guard

/-- The guard of a module under settings. -/
def Settings.guardFor (s : Settings) (moduleName : String) : Except SettingsError Guard := do
  let lifetime ← s.lifetimeFor moduleName
  .ok ((Guard.new moduleName).withLifetime lifetime)

end Idempotency
