import Idempotency.Json.Reader

/-!
# `Idempotency.Json.Typed`: reading values of a known kind

A reader of a known kind says what it expects, so that a refusal can name
both what was found and what was wanted. An integer outside the wanted range
is the right kind of value and the wrong value; a number with a point or an
exponent is never an integer.
-/

set_option autoImplicit false

namespace Idempotency.Json

variable {α : Type}

/-- Reads an integer from `low` to `high`. -/
def readInteger (low high : Int) (expected : String) : Reader Int := fun input => do
  match ← front input with
  | (.number (.integer i), rest) =>
    if low ≤ i && i ≤ high then .ok (i, rest) else .error (.wrongValue i expected)
  | (found, _) => .error (.wrongType found expected)

/-- Reads a byte. -/
def readByte : Reader UInt8 := fun input => do
  let (i, rest) ← readInteger 0 255 "u8" input
  .ok (UInt8.ofNat i.toNat, rest)

/-- Reads an unsigned integer of thirty-two bits. -/
def readWord32 : Reader UInt32 := fun input => do
  let (i, rest) ← readInteger 0 4294967295 "u32" input
  .ok (UInt32.ofNat i.toNat, rest)

/-- Reads a signed integer of sixty-four bits. -/
def readInt64 : Reader Int64 := fun input => do
  let (i, rest) ← readInteger (-9223372036854775808) 9223372036854775807 "i64" input
  .ok (Int64.ofInt i, rest)

/-- Reads a double; an integer is one too. -/
def readDouble : Reader Double := fun input => do
  match ← front input with
  | (.number (.integer i), rest) => .ok (Double.ofInt i, rest)
  | (.number (.double x _), rest) => .ok (x, rest)
  | (found, _) => .error (.wrongType found "f64")

/-- Reads a truth value. -/
def readBool : Reader Bool := fun input => do
  match ← front input with
  | (.bool b, rest) => .ok (b, rest)
  | (found, _) => .error (.wrongType found "a boolean")

/-- Reads a string; `expected` says what the string is wanted for. -/
def readStringAs (expected : String) : Reader String := fun input => do
  match ← front input with
  | (.string s, rest) => .ok (s, rest)
  | (found, _) => .error (.wrongType found expected)

/-- Reads the value that carries nothing. -/
def readUnit : Reader Unit := fun input => do
  match ← front input with
  | (.null, rest) => .ok ((), rest)
  | (found, _) => .error (.wrongType found "unit")

/-- Reads a value or `null`, which stands for none. -/
def readOptional (read : Reader α) : Reader (Option α) := fun input =>
  match dropSpace input with
  | .char 'n' :: rest => (readWord ['u', 'l', 'l'] rest).map (none, ·)
  | input => (read input).map fun (value, rest) => (some value, rest)

/-- Reads a list. -/
def readList (read : Reader α) : Reader (List α) := fun input => do
  match ← front input with
  | (.sequence, rest) => readItems read rest
  | (found, _) => .error (.wrongType found "a sequence")

/-- Reads an object with members of one kind. -/
def readMap (read : Reader α) : Reader (SortedMap α) := fun input => do
  match ← front input with
  | (.map, rest) => readMembers read rest
  | (found, _) => .error (.wrongType found "a map")

end Idempotency.Json
