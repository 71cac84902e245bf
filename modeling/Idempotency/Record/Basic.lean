import Idempotency.Refusal
import Idempotency.Text.Utf8
import Idempotency.Time.Instant

/-!
# `Idempotency.Record.Basic`: what is kept of a call

A record says which request a key belongs to, what the answer was, and until
when it counts. It still counts at the instant it expires at, and no more
after it.

Whether a record may be stored is decided by what its key holds
(`Record.judge`). Expiry plays no part in it: looking a key up comes first and
clears it.
-/

set_option autoImplicit false

namespace Idempotency

/-- The stored outcome of a call. -/
structure Record where
  key : String
  requestHash : String
  payload : Bytes
  expiresAt : Instant
  deriving DecidableEq, Inhabited

/-- What became of a record that was given to a store. -/
inductive Placement
  /-- The key was free; the record is stored. -/
  | inserted
  /-- The key held a record of the same request, which stays. -/
  | duplicate
  deriving DecidableEq

namespace Record

/-- Whether the record no longer counts. -/
def isExpiredAt (r : Record) (now : Instant) : Bool := r.expiresAt < now

/-- Decides about a record by what its key holds: `none` when it is to be
stored. -/
def judge (held : Option Record) (incoming : Record) : Except Refusal (Option Placement) :=
  match held with
  | none => .ok none
  | some current =>
    if current.requestHash = incoming.requestHash then .ok (some .duplicate)
    else .error (.conflict incoming.key)

end Record

end Idempotency
