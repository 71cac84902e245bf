import Idempotency.Json.Basic

/-!
# `Idempotency.Event`: what is reported while the work goes on

Guards and stores report what they do, for whoever watches. An event has a
level, a message and fields; nothing depends on it.
-/

set_option autoImplicit false

namespace Idempotency

/-- How much attention an event asks for. -/
inductive Level
  | debug
  | info
  | warn
  deriving DecidableEq

/-- Something that was done. -/
inductive Event
  /-- An expired record was dropped when its key was looked up. -/
  | evicted (key : String)
  /-- A sweep dropped expired records. -/
  | purged (count : Nat)
  /-- Opening a journal passed over expired records. -/
  | skippedExpired (count : Nat)
  | opened (path : String) (records : Nat)
  | compacted (path : String) (dropped kept : Nat)
  /-- A call was refused because its key belongs to another request. -/
  | reused (guard key : String)
  /-- A call was refused because another request took its key meanwhile. -/
  | overtaken (guard key : String)
  | replayed (guard key : String)
  /-- The operation of a call failed. -/
  | failed (guard key : String)
  | committed (guard key : String) (duplicate : Bool)
  deriving DecidableEq

namespace Event

/-- The level of an event. -/
def level : Event → Level
  | .opened .. => .info
  | .compacted .. => .info
  | .reused .. => .warn
  | .overtaken .. => .warn
  | .evicted .. => .debug
  | .purged .. => .debug
  | .skippedExpired .. => .debug
  | .replayed .. => .debug
  | .failed .. => .debug
  | .committed .. => .debug

/-- The message of an event. -/
def message : Event → String
  | .evicted _ => "evicted expired idempotency record"
  | .purged _ => "purged expired idempotency records"
  | .skippedExpired _ => "skipped expired journal records on replay"
  | .opened .. => "opened idempotency journal"
  | .compacted .. => "compacted idempotency journal"
  | .reused .. => "idempotency_conflict: key reused with different request"
  | .overtaken .. => "idempotency_conflict: concurrent request recorded first"
  | .replayed .. => "idempotent_operation_replayed"
  | .failed .. => "idempotent_operation_failed; result not cached"
  | .committed .. => "idempotent_operation_committed"

private def count (n : Nat) : Json := .number (.integer n)

private def call (guard key : String) : List (String × Json) :=
  [("module", .string guard), ("idempotency_key", .string key)]

/-- The fields of an event. -/
def fields : Event → List (String × Json)
  | .evicted key => [("idempotency_key", .string key)]
  | .purged n => [("purged", count n)]
  | .skippedExpired n => [("skipped_expired", count n)]
  | .opened path records => [("path", .string path), ("records", count records)]
  | .compacted path dropped kept =>
    [("path", .string path), ("dropped", count dropped), ("kept", count kept)]
  | .reused guard key => call guard key
  | .overtaken guard key => call guard key
  | .replayed guard key => call guard key
  | .failed guard key => call guard key
  | .committed guard key duplicate => call guard key ++ [("duplicate", .bool duplicate)]

end Event

end Idempotency
