import Idempotency.Json.Structure
import Idempotency.Json.Typed
import Idempotency.Json.Writer
import Idempotency.Record.Basic
import Idempotency.Time.Rfc3339

/-!
# `Idempotency.Record.Line`: records as text

A record is written as an object with four members, always in the same order;
the payload is a list of bytes and the expiry an RFC 3339 time. The text has no
line break in it, so a file can hold a record a line.
-/

set_option autoImplicit false

namespace Idempotency

namespace Record

open Json (Reader Field Structure)

/-- The text of bytes. -/
def bytesText (bytes : Bytes) : List Char :=
  Json.bracketed (bytes.map fun b => Decimal.decimal b.toNat)

/-- The text of a record. -/
def text (r : Record) : List Char :=
  Json.braced
    [ Json.member "key" (Json.quote r.key.toList),
      Json.member "request_hash" (Json.quote r.requestHash.toList),
      Json.member "payload" (bytesText r.payload),
      Json.member "expires_at" (Json.quote r.expiresAt.text) ]

/-- Reads an instant. -/
def readInstant : Reader Instant := fun input => do
  let (s, rest) ← Json.readStringAs "an RFC 3339 formatted date and time string" input
  match Instant.ofText s.toList with
  | .ok t => .ok (t, rest)
  | .error e => .error (.malformed e.message)

/-- A record of which some fields are known. -/
structure Draft where
  key : Option String := none
  requestHash : Option String := none
  payload : Option Bytes := none
  expiresAt : Option Instant := none

/-- The fields of a record. -/
def layout : Structure Draft Record where
  title := "struct IdempotencyRecord"
  fields :=
    [ .of "key" Draft.key (fun d v => { d with key := some v }) (Json.readStringAs "a string"),
      .of "request_hash" Draft.requestHash (fun d v => { d with requestHash := some v })
        (Json.readStringAs "a string"),
      .of "payload" Draft.payload (fun d v => { d with payload := some v })
        (Json.readList Json.readByte),
      .of "expires_at" Draft.expiresAt (fun d v => { d with expiresAt := some v }) readInstant ]
  blank := {}
  finish d := do
    let key ← Json.required "key" d.key
    let requestHash ← Json.required "request_hash" d.requestHash
    let payload ← Json.required "payload" d.payload
    let expiresAt ← Json.required "expires_at" d.expiresAt
    .ok ⟨key, requestHash, payload, expiresAt⟩
  closed := false
  defaulted := false

/-- The record that a text stands for. -/
def ofText (cs : List Char) : Except Json.Error Record := Json.readText layout.read cs

end Record

end Idempotency
