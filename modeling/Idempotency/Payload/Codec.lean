import Idempotency.Json.Structure
import Idempotency.Json.Typed
import Idempotency.Json.Writer

/-!
# `Idempotency.Payload.Codec`: results as stored bytes

The result of a call is stored as its JSON text, and every caller gets what
that text reads back as. A `Codec` is a way to write results of a type and to
read them. Not every result can be written, and not every one reads back: a
double that is no number is written as `null`.
-/

set_option autoImplicit false

namespace Idempotency

/-- A way to write results of a type, and to read them. -/
structure Codec (α : Type) where
  write : α → Except Json.Error (List Char)
  read : Json.Reader α

namespace Codec

open Json (Field Structure Reader)

/-- A codec that writes every result. -/
def total {α : Type} (text : α → List Char) (read : Reader α) : Codec α :=
  ⟨fun value => .ok (text value), read⟩

/-- Bytes. -/
def byte : Codec UInt8 := total (fun n => Decimal.decimal n.toNat) Json.readByte

/-- Unsigned integers of thirty-two bits. -/
def word32 : Codec UInt32 := total (fun n => Decimal.decimal n.toNat) Json.readWord32

/-- Signed integers of sixty-four bits. -/
def int64 : Codec Int64 := total (fun i => Decimal.integer i.toInt) Json.readInt64

/-- Truth values. -/
def bool : Codec Bool := total Json.boolText Json.readBool

/-- Strings. -/
def string : Codec String := total (fun s => Json.quote s.toList) (Json.readStringAs "a string")

/-- Results that say nothing. -/
def unit : Codec Unit := total (fun _ => Json.nullText) Json.readUnit

/-- Results that may be absent. -/
def optional {α : Type} (codec : Codec α) : Codec (Option α) where
  write value :=
    match value with
    | none => .ok Json.nullText
    | some value => codec.write value
  read := Json.readOptional codec.read

/-- Lists of results. -/
def list {α : Type} (codec : Codec α) : Codec (List α) where
  write values := do
    let texts ← values.mapM codec.write
    .ok (Json.bracketed texts)
  read := Json.readList codec.read

/-- Doubles; one that is no number is written as `null`. -/
def double : Codec Double :=
  total (fun x => ((Json.Number.ofDouble? x).map Json.Number.text).getD Json.nullText)
    Json.readDouble

/-- Any JSON value. -/
def json : Codec Json := total (fun value => value.normalize.text) (Json.readValue Json.maxLevels)

/-- A subscription and its price. -/
structure Subscription where
  subscriptionId : String
  amountCents : Int64
  deriving DecidableEq

/-- A subscription of which some fields are known. -/
structure SubscriptionDraft where
  subscriptionId : Option String := none
  amountCents : Option Int64 := none

/-- The fields of a subscription. -/
def subscriptionLayout : Structure SubscriptionDraft Subscription where
  title := "struct Subscription"
  fields :=
    [ .of "subscription_id" SubscriptionDraft.subscriptionId
        (fun d v => { d with subscriptionId := some v }) (Json.readStringAs "a string"),
      .of "amount_cents" SubscriptionDraft.amountCents
        (fun d v => { d with amountCents := some v }) Json.readInt64 ]
  blank := {}
  finish d := do
    let subscriptionId ← Json.required "subscription_id" d.subscriptionId
    let amountCents ← Json.required "amount_cents" d.amountCents
    .ok ⟨subscriptionId, amountCents⟩
  closed := false
  defaulted := false

/-- The text of a subscription. -/
def Subscription.text (s : Subscription) : List Char :=
  Json.braced
    [ Json.member "subscription_id" (Json.quote s.subscriptionId.toList),
      Json.member "amount_cents" (Decimal.integer s.amountCents.toInt) ]

/-- Subscriptions. -/
def subscription : Codec Subscription := total Subscription.text subscriptionLayout.read

/-- A role to be granted, with its scopes. -/
structure RoleGrant where
  userId : String
  role : String
  scopes : SortedMap Bool

/-- The text of a grant. -/
def RoleGrant.text (g : RoleGrant) : List Char :=
  Json.braced
    [ Json.member "user_id" (Json.quote g.userId.toList),
      Json.member "role" (Json.quote g.role.toList),
      Json.member "scopes"
        (Json.braced (g.scopes.entries.map fun entry => Json.member entry.1 (Json.boolText entry.2))) ]

/-- A map whose keys are pairs of numbers. -/
abbrev PairMap := List ((Int × Int) × String)

/-- A pair is no name of a member, so only the empty map can be written. -/
def PairMap.text? : PairMap → Except Json.Error (List Char)
  | [] => .ok (Json.braced [])
  | _ :: _ => .error .keyNotString

/-- No member's name is a pair, so only the empty map can be read. -/
def PairMap.read : Reader PairMap := fun input => do
  match ← Json.front input with
  | (.map, rest) =>
    match ← Json.nextName true rest with
    | none => do
      let rest ← Json.closeObject rest
      .ok ([], rest)
    | some (name, _) => .error (.wrongType (.string name) "a tuple of size 2")
  | (found, _) => .error (.wrongType found "a map")

/-- Maps whose keys are pairs. -/
def pairMap : Codec PairMap := ⟨PairMap.text?, PairMap.read⟩

end Codec

end Idempotency
