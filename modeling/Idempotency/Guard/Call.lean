import Idempotency.Fingerprint
import Idempotency.Payload.Codec
import Idempotency.Service

/-!
# `Idempotency.Guard.Call`: guarded calls

A call looks its key up, decides (`Guard.decide`), runs its operation if it
has to, and records the result. The clock is read once, before the lookup, so
that lookup and expiry go by the same instant. What the operation does to the
service in between is its own affair: it may even call guards.

The parts before and after the operation are functions of their own,
`Service.enter` and `Service.settle`: calls that run at the same time take turns
at these parts.

`Service.callRaw` guards operations whose result is bytes. `Service.call`
stores results in the form of a codec and gives back what that form reads as,
so that the first caller and all later ones get the same. `Service.command`
asks for a key that is not blank and takes the fingerprint of a request.
-/

set_option autoImplicit false

namespace Idempotency

/-- Why a call gives no result: the protocol refused it, or the operation
failed for a reason of its own. -/
inductive Failure (ε : Type)
  | refused (refusal : Refusal)
  | domain (error : ε)
  deriving DecidableEq

/-- An operation: what it makes of the service, its result, and a trace of its
having run. -/
abbrev Operation (ω ε α : Type) := Service → Except (Failure ε) α × ω × Service

/-- The outcome of a call. There is a trace exactly if the operation ran. -/
structure Answer (ω ε α : Type) where
  result : Except (Failure ε) α
  trace : Option ω
  service : Service

/-- How a call stands once its key has been looked up. -/
inductive Entrance (ε : Type)
  /-- It has its answer. -/
  | answered (result : Except (Failure ε) Bytes)
  /-- Its operation is to run, and the record of that to expire at the
  instant. -/
  | cleared (expiresAt : Instant)

namespace Service

variable {ω ε α : Type}

/-- The first part of a call, with the clock read: looks the key up and
decides. -/
def enter (s : Service) (number : Nat) (key requestHash : String) (now : Instant) :
    Entrance ε × Service :=
  let g := s.guard number
  match s.guardedGet key now with
  | (.error refusal, s) => (.answered (.error (.refused refusal)), s)
  | (.ok found, s) =>
    match g.decide now requestHash found with
    | .conflict =>
      (.answered (.error (.refused (.conflict key))),
        s.note number .conflict (.reused g.moduleName key))
    | .replay payload =>
      (.answered (.ok payload), s.note number .replay (.replayed g.moduleName key))
    | .overflow =>
      (.answered (.error (.refused (.expiryOverflow g.lifetime.wholeSeconds))), s)
    | .execute expiresAt => (.cleared expiresAt, s)

/-- The last part of a call whose operation failed. -/
def abandon (s : Service) (number : Nat) (key : String) : Service :=
  s.note number .failure (.failed (s.guard number).moduleName key)

/-- The last part of a call whose operation gave the payload of a record:
records it. -/
def settle (s : Service) (number : Nat) (r : Record) : Except (Failure ε) Bytes × Service :=
  let name := (s.guard number).moduleName
  match s.guardedPut r with
  | (.ok placement, s) =>
    (.ok r.payload, s.note number .execution (.committed name r.key (placement = .duplicate)))
  -- Another call took the key while the operation ran.
  | (.error (.conflict key), s) =>
    (.error (.refused (.conflict key)), s.note number .conflict (.overtaken name r.key))
  | (.error refusal, s) => (.error (.refused refusal), s)

/-- Calls an operation whose result is bytes, through a guard. -/
def callRaw (s : Service) (number : Nat) (key requestHash : String)
    (operation : Operation ω ε Bytes) : Answer ω ε Bytes :=
  -- The only look at the clock: the operation may move it.
  match s.enter number key requestHash s.now with
  | (.answered result, s) => ⟨result, none, s⟩
  -- From here on the operation has run, whatever becomes of its result.
  | (.cleared expiresAt, s) =>
    match operation s with
    | (.error failure, trace, s) => ⟨.error failure, some trace, s.abandon number key⟩
    | (.ok payload, trace, s) =>
      let (result, s) := s.settle number ⟨key, requestHash, payload, expiresAt⟩
      ⟨result, some trace, s⟩

/-- The operation whose result is in the form of a codec. -/
def encoded (codec : Codec α) (operation : Operation ω ε α) : Operation ω ε Bytes := fun s =>
  match operation s with
  | (.error failure, trace, s) => (.error failure, trace, s)
  | (.ok value, trace, s) =>
    match codec.write value with
    | .ok text => (.ok (Text.encode text), trace, s)
    | .error e => (.error (.refused (.codec ("failed to encode result: " ++ e.message))), trace, s)

/-- What stored bytes read as. -/
def decoded (codec : Codec α) (key : String) (payload : Bytes) : Except (Failure ε) α :=
  match Json.readBytes codec.read payload with
  | .ok value => .ok value
  | .error e =>
    .error (.refused (.codec
      ("failed to decode stored result for key " ++ key ++ ": " ++ e.message)))

/-- Calls an operation through a guard. -/
def call (s : Service) (codec : Codec α) (number : Nat) (key requestHash : String)
    (operation : Operation ω ε α) : Answer ω ε α :=
  let answer := s.callRaw number key requestHash (encoded codec operation)
  { answer with result := answer.result >>= decoded codec key }

/-- Calls an operation for a request. A blank key is refused before anything
else happens. -/
def command (s : Service) (codec : Codec α) (number : Nat) (key operationName : String)
    (parts : List Part) (operation : Operation ω ε α) : Answer ω ε α :=
  match requireKey key with
  | .error refusal => ⟨.error (.refused refusal), none, s⟩
  | .ok key => s.call codec number key (Fingerprint.ofRequest operationName parts) operation

end Service

end Idempotency
