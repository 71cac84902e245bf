import Idempotency.Decimal.Whole
import Idempotency.Text.Blank

/-!
# `Idempotency.Refusal`: what the protocol itself refuses

A guarded call can fail for five reasons of its own. Each has a wording and a
status for the transport that carries the answer. Two of them are the
client's: repeating the same call will not help.
-/

set_option autoImplicit false

namespace Idempotency

/-- Why a guarded call is refused. -/
inductive Refusal
  /-- The call came without a key. -/
  | keyRequired
  /-- The key belongs to a request with another fingerprint. -/
  | conflict (key : String)
  /-- A result could not be written for storage, or read back. -/
  | codec (reason : String)
  /-- The moment at which the record would expire does not exist. -/
  | expiryOverflow (seconds : Int)
  /-- The store could not do its part. -/
  | storage (reason : String)
  deriving DecidableEq

namespace Refusal

/-- The wording of a refusal. -/
def message : Refusal → String
  | .keyRequired => "idempotency key is required"
  | .conflict key => "idempotency key " ++ key ++ " reused with different request"
  | .codec reason => "idempotency payload codec failed: " ++ reason
  | .expiryOverflow seconds =>
    "idempotency ttl of " ++ String.ofList (Decimal.integer seconds)
      ++ "s overflows the record expiry"
  | .storage reason => "idempotency store unavailable: " ++ reason

/-- The status of the answer. -/
def status : Refusal → Nat
  | .keyRequired => 400
  | .conflict _ => 409
  | .codec _ => 500
  | .expiryOverflow _ => 500
  | .storage _ => 503

/-- Whether the refusal is final for the call as it is. -/
def isClient : Refusal → Bool
  | .keyRequired => true
  | .conflict _ => true
  | .codec _ => false
  | .expiryOverflow _ => false
  | .storage _ => false

end Refusal

/-- The key of a call without the blanks around it; a blank key is none. -/
def requireKey (key : String) : Except Refusal String :=
  let trimmed := Text.trim key
  if trimmed.isEmpty then .error .keyRequired else .ok trimmed

end Idempotency
