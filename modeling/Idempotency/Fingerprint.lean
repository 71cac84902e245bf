import Idempotency.Digest.Hex
import Idempotency.Digest.Sha256
import Idempotency.Json.Basic
import Idempotency.Refusal
import Idempotency.Text.Blank
import Idempotency.Text.LowerCase

/-!
# `Idempotency.Fingerprint`: digests of requests

Two requests are the same when their fingerprints are. A fingerprint is the
SHA-256 digest of a list of texts, in an encoding that keeps different lists
apart: first how many there are, then the texts with a byte between them that
UTF-8 never uses.

A request is described by the name of its operation and a list of parts. Parts
are brought into a standard form first, so that a retry with other padding or
other capitals has the same fingerprint. A request can also be fingerprinted
by its JSON text.
-/

set_option autoImplicit false

namespace Idempotency

/-- A part of a request that tells it from others of the same operation. -/
inductive Part
  /-- A text whose outer blanks do not matter. -/
  | field (value : String)
  /-- A text whose outer blanks and capitals do not matter. -/
  | normalized (value : String)
  | flag (value : Bool)
  | number (value : Int)
  /-- A text that may be absent; absent, it is an empty text, so that the parts
  after it keep their places. -/
  | optional (value : Option String)

/-- The standard form of a part. -/
def Part.text : Part → String
  | .field value => Text.trim value
  | .normalized value => Text.lower (Text.trim value)
  | .flag true => "true"
  | .flag false => "false"
  | .number value => String.ofList (Decimal.integer value)
  | .optional value => Text.trim (value.getD "")

namespace Fingerprint

/-- Stands between texts; no byte of UTF-8 is equal to it. -/
def separator : UInt8 := 0xFF

/-- The texts one after the other, with separators between them. -/
def joined : List String → Bytes
  | [] => []
  | [value] => Text.encodeString value
  | value :: values => Text.encodeString value ++ separator :: joined values

/-- The bytes that are hashed: how many texts there are, in eight bytes, and
the texts. -/
def preimage (values : List String) : Bytes :=
  Sha256.eightBytes values.length ++ joined values

/-- The fingerprint of a list of texts. -/
def ofValues (values : List String) : String :=
  String.ofList (Hex.text (sha256 (preimage values)))

/-- The texts of a request: its operation as it is, and its parts in standard
form. -/
def fields (operation : String) (parts : List Part) : List String :=
  operation :: parts.map Part.text

/-- The fingerprint of a request. -/
def ofRequest (operation : String) (parts : List Part) : String :=
  ofValues (fields operation parts)

/-- The fingerprint of an operation and the JSON text of its request. -/
def ofText (operation : String) (body : List Char) : String :=
  ofValues [operation, String.ofList body]

/-- The fingerprint of an operation and a request, given how its kind of
request is written as JSON. A request that cannot be written has none. -/
def ofWritten {α : Type} (write : α → Except Json.Error (List Char)) (operation : String)
    (request : α) : Except Refusal String :=
  match write request with
  | .ok body => .ok (ofText operation body)
  | .error e => .error (.codec ("failed to encode request for fingerprint: " ++ e.message))

end Fingerprint

end Idempotency
