import Idempotency.Payload.Codec

/-!
# `Idempotency.Payload.Kind`: the kinds of results

A call says which kind of result it wants. Each kind has a type and a codec.
-/

set_option autoImplicit false

namespace Idempotency

/-- A kind of result. -/
inductive Kind
  | byte
  | word32
  | int64
  | bool
  | string
  | unit
  | optionalString
  | intList
  | json
  | subscription
  | double
  | pairMap
  deriving DecidableEq

namespace Kind

/-- The results of a kind. -/
def Value : Kind → Type
  | .byte => UInt8
  | .word32 => UInt32
  | .int64 => Int64
  | .bool => Bool
  | .string => String
  | .unit => Unit
  | .optionalString => Option String
  | .intList => List Int64
  | .json => Json
  | .subscription => Codec.Subscription
  | .double => Double
  | .pairMap => Codec.PairMap

/-- How results of a kind are stored. -/
def codec : (kind : Kind) → Codec kind.Value
  | .byte => .byte
  | .word32 => .word32
  | .int64 => .int64
  | .bool => .bool
  | .string => .string
  | .unit => .unit
  | .optionalString => .optional .string
  | .intList => .list .int64
  | .json => .json
  | .subscription => .subscription
  | .double => .double
  | .pairMap => .pairMap

end Kind

end Idempotency
