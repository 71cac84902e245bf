import Idempotency.Record.Basic
import Idempotency.SortedMap

/-!
# `Idempotency.Index`: the records a store holds, by key

An index holds at most one record for each key, and each record under its own
key; both are part of the type. A record that has expired is dropped when its
key is looked up, or when the index is swept; until then it still takes its
key.

What an index holds is what `Index.find?` finds (`Index.ext_find?`). Each
operation has one lemma that says what it does to `find?`.
-/

set_option autoImplicit false

namespace Idempotency

/-- The records of a store, each under its own key. -/
structure Index where
  records : SortedMap Record
  keyed : ∀ entry ∈ records.entries, entry.2.key = entry.1
  deriving DecidableEq

namespace Index

/-- The index without records. -/
def empty : Index := ⟨.empty, fun _ h => nomatch h⟩

instance : Inhabited Index := ⟨empty⟩

/-- The record under a key. -/
def find? (ix : Index) (key : String) : Option Record := ix.records.find? key

/-- How many records there are. -/
def size (ix : Index) : Nat := ix.records.size

/-- The records, in the order of their keys. -/
def toList (ix : Index) : List Record := ix.records.values

/-- The index with a record under its key, in place of what the key held. -/
def store (ix : Index) (r : Record) : Index where
  records := ix.records.insert r.key r
  keyed entry h := by
    rcases SortedMap.mem_insertEntry h with rfl | h
    · rfl
    · exact ix.keyed entry h

/-- The index without a key. -/
def erase (ix : Index) (key : String) : Index where
  records := ix.records.erase key
  keyed entry h := ix.keyed entry (List.mem_filter.1 h).1

/-- The records that count at an instant. -/
def live (ix : Index) (now : Instant) : Index where
  records := ix.records.filter fun r => !r.isExpiredAt now
  keyed entry h := ix.keyed entry (List.mem_filter.1 h).1

/-- How many records `live` drops. -/
def expiredCount (ix : Index) (now : Instant) : Nat := ix.size - (ix.live now).size

/-- The outcome of looking a key up: the record that counts, what is left of
the index, and whether an expired record was dropped. -/
structure Lookup where
  found : Option Record
  index : Index
  evicted : Bool

/-- Looks a key up at an instant. -/
def lookup (ix : Index) (key : String) (now : Instant) : Lookup :=
  match ix.find? key with
  | none => ⟨none, ix, false⟩
  | some r => if r.isExpiredAt now then ⟨none, ix.erase key, true⟩ else ⟨some r, ix, false⟩

/-- What the index makes of a record: `none` when it is to be stored. -/
def judge (ix : Index) (r : Record) : Except Refusal (Option Placement) :=
  Record.judge (ix.find? r.key) r

/-- Gives the index a record. -/
def put (ix : Index) (r : Record) : Except Refusal (Placement × Index) := do
  match ← ix.judge r with
  | some placement => .ok (placement, ix)
  | none => .ok (.inserted, ix.store r)

/-! ### What each operation finds -/

/-- A record is found under its own key. -/
theorem key_of_find? {ix : Index} {key : String} {r : Record} (h : ix.find? key = some r) :
    r.key = key :=
  ix.keyed _ ((ix.records.find?_eq_some_iff key r).1 h)

/-- Indexes that answer every lookup alike are equal. -/
theorem ext_find? {a b : Index} (h : ∀ key, a.find? key = b.find? key) : a = b := by
  obtain ⟨records, _⟩ := a
  obtain ⟨_, _⟩ := b
  cases SortedMap.ext_find? h
  rfl

/-- The records are the ones that are found under their keys. -/
theorem mem_toList {ix : Index} {r : Record} : r ∈ ix.toList ↔ ix.find? r.key = some r := by
  unfold find? toList
  rw [SortedMap.find?_eq_some_iff, SortedMap.values, List.mem_map]
  constructor
  · rintro ⟨entry, hentry, rfl⟩
    rw [ix.keyed entry hentry]
    exact hentry
  · intro hentry
    exact ⟨(r.key, r), hentry, rfl⟩

/-- Nothing is held under any key at first. -/
@[simp] theorem find?_empty (key : String) : empty.find? key = none := rfl

/-- A stored record is what its key holds; other keys hold what they did. -/
@[simp] theorem find?_store (ix : Index) (r : Record) (key : String) :
    (ix.store r).find? key = if key = r.key then some r else ix.find? key :=
  SortedMap.find?_insert ..

/-- An erased key holds nothing; other keys hold what they did. -/
@[simp] theorem find?_erase (ix : Index) (key k : String) :
    (ix.erase key).find? k = if k = key then none else ix.find? k :=
  SortedMap.find?_erase ..

/-- A sweep leaves a record exactly if it has not expired. -/
@[simp] theorem find?_live (ix : Index) (now : Instant) (key : String) :
    (ix.live now).find? key = (ix.find? key).filter fun r => !r.isExpiredAt now :=
  SortedMap.find?_filter ..

/-- Only a record whose key is free is to be stored. -/
theorem judge_eq_none_iff {ix : Index} {r : Record} :
    ix.judge r = .ok none ↔ ix.find? r.key = none := by
  unfold judge Record.judge
  cases ix.find? r.key with
  | none => simp
  | some held =>
    by_cases hhash : held.requestHash = r.requestHash
    · simp [hhash]
    · simp [hhash]

/-- Under a key that holds nothing a record is inserted. -/
theorem put_of_free {ix : Index} {r : Record} (h : ix.find? r.key = none) :
    ix.put r = .ok (.inserted, ix.store r) := by
  rw [put, judge_eq_none_iff.2 h]
  rfl

/-- A record that its key holds stays, whatever comes. -/
theorem put_of_held {ix : Index} {r held : Record} (h : ix.find? r.key = some held) :
    ix.put r = if held.requestHash = r.requestHash then .ok (.duplicate, ix)
      else .error (.conflict r.key) := by
  unfold put judge Record.judge
  rw [h]
  by_cases hhash : held.requestHash = r.requestHash
  · simp only [hhash, if_true]
    rfl
  · simp only [hhash, if_false]
    rfl

/-- A lookup finds the record under the key, unless it has expired. -/
theorem found_lookup (ix : Index) (key : String) (now : Instant) :
    (ix.lookup key now).found = (ix.find? key).filter fun r => !r.isExpiredAt now := by
  cases h : ix.find? key with
  | none => simp [lookup, h]
  | some r =>
    by_cases he : r.isExpiredAt now = true
    · simp [lookup, h, he, Option.filter]
    · simp [lookup, h, he, Option.filter]

/-- A lookup leaves every other key alone, and its own key without a record
that has expired. -/
theorem find?_lookup (ix : Index) (key : String) (now : Instant) (k : String) :
    (ix.lookup key now).index.find? k
      = if k = key then (ix.find? key).filter fun r => !r.isExpiredAt now else ix.find? k := by
  by_cases hk : k = key
  · subst hk
    cases h : ix.find? k with
    | none => simp [lookup, h]
    | some r =>
      by_cases he : r.isExpiredAt now = true
      · simp [lookup, h, he, Option.filter]
      · simp [lookup, h, he, Option.filter]
  · cases h : ix.find? key with
    | none => simp [lookup, h, hk]
    | some r =>
      by_cases he : r.isExpiredAt now = true
      · simp [lookup, h, he, hk]
      · simp [lookup, h, he, hk]

end Index

end Idempotency
