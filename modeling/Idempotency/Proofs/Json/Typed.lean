import Idempotency.Proofs.Json.Structure
import Idempotency.Proofs.SortedMap

/-!
# `Idempotency.Proofs.Json.Typed`: written integers, options and maps read back

An integer of the signed sixty-four bit range reads back (`reads_int64`), and a map does if
its values do (`reads_map`). A value that may be missing is written as `null` if it is; one
that is there reads back as long as its own text cannot be taken for that word
(`reads_some`).
-/

set_option autoImplicit false

namespace Idempotency.Json

open Idempotency.Text (Symbol symbols)
open Idempotency.Decimal (decimal integer)

variable {α : Type} {read : Reader α} {text : List Char} {value : α} {rest : List Symbol}

/-! ### Integers -/

/-- What starts with a minus sign is a number. -/
theorem front_minus (rest : List Symbol) :
    front (.char '-' :: rest) = (readNumber true rest).map fun (n, rest) => (.number n, rest) :=
  rfl

/-- An integer that fits sixty-four bits, with or without a sign, is that integer. -/
theorem front_integer {i : Int} (hlow : -9223372036854775808 ≤ i) (hhigh : i ≤ maxSignificand)
    (hend : AtEnd rest) :
    front (symbols (integer i) ++ rest) = .ok (.number (.integer i), rest) := by
  unfold integer
  split
  · next hneg =>
    have hread := readNumber_negative (n := i.natAbs) (by omega) (by omega) hend
    show front (.char '-' :: (symbols (decimal i.natAbs) ++ rest)) = _
    rw [front_minus, hread, show -(i.natAbs : Int) = i by omega]
    rfl
  · next hpos =>
    rw [front_decimal (by omega) hend, show (i.natAbs : Int) = i by omega]

/-- An integer starts with a digit or a minus sign. -/
theorem startsValue_integer (i : Int) : StartsValue (integer i) := by
  unfold integer
  split
  · exact ⟨'-', decimal i.natAbs, rfl, by decide, by decide⟩
  · exact startsValue_decimal i.natAbs

/-- An integer of the signed sixty-four bit range reads back. -/
theorem reads_int64 (i : Int64) : Reads readInt64 (integer i.toInt) i where
  starts := startsValue_integer i.toInt
  reads rest hend := by
    have hlow : -9223372036854775808 ≤ i.toInt := i.le_toInt
    have hhigh : i.toInt < 9223372036854775808 := i.toInt_lt
    have hfront := front_integer hlow (by unfold maxSignificand; omega) hend
    have hrange : (decide (-9223372036854775808 ≤ i.toInt)
        && decide (i.toInt ≤ 9223372036854775807)) = true := by
      simp only [Bool.and_eq_true, decide_eq_true_eq]
      omega
    simp only [readInt64, readInteger, hfront, bind, Except.bind, hrange, if_true,
      Int64.ofInt_toInt]

/-! ### Values that may be missing -/

/-- The word `null` reads as a missing value, whatever a value would be read by. -/
theorem reads_none (read : Reader α) : Reads (readOptional read) nullText none where
  starts := ⟨'n', ['u', 'l', 'l'], rfl, by decide, by decide⟩
  reads _ _ := rfl

/-- No word starts with the letter of `null`. -/
def NotWord (text : List Char) : Prop := ∀ more, text ≠ 'n' :: more

/-- A value that is there reads back, if its text cannot be taken for the word. -/
theorem reads_some (hnot : NotWord text) (hreads : Reads read text value) :
    Reads (readOptional read) text (some value) where
  starts := hreads.starts
  reads rest hend := by
    unfold readOptional
    rw [dropSpace_text hreads.starts]
    -- The reader decides by the first letter whether it reads the word.
    split
    · next after hword =>
      obtain ⟨c, more, rfl, -⟩ := hreads.starts
      cases hword
      exact absurd rfl (hnot more)
    · rw [hreads.reads rest hend]
      rfl

/-- A value that may be missing reads back if it does when it is there. -/
theorem reads_optional {written : α → List Char}
    (hreads : ∀ value, NotWord (written value) ∧ Reads read (written value) value)
    (given : Option α) :
    Reads (readOptional read) ((given.map written).getD nullText) given := by
  cases given with
  | none => exact reads_none read
  | some value => exact reads_some (hreads value).1 (hreads value).2

/-- A string is not taken for the word. -/
theorem notWord_quote (cs : List Char) : NotWord (quote cs) := by
  rintro _ ⟨⟩

/-- Nor is an integer. -/
theorem notWord_integer (i : Int) : NotWord (integer i) := by
  intro more hword
  have hn : 'n' ∈ integer i := hword ▸ List.mem_cons_self
  rcases Decimal.mem_integer hn with h | h
  · exact absurd h (by decide)
  · exact absurd h (by decide)

/-! ### Maps -/

section Maps
variable {written : α → List Char} {entries : List (String × α)} {m : SortedMap α}

/-- After a name, its colon and its value are read into the map. -/
theorem membersFrom_of_name {name : String} (hreads : Reads read text value) (hend : AtEnd rest)
    {first : Bool} (rounds : Nat) {input : List Symbol}
    (hname : nextName first input = .ok (some (name, .char ':' :: (symbols text ++ rest)))) :
    membersFrom read (rounds + 1) first m input
      = membersFrom read rounds false (m.insert name value) rest := by
  rw [membersFrom, hname]
  simp only [bind, Except.bind, readColon_colon, hreads.reads rest hend]

/-- Members after the first, each after a comma, are read up to the closing brace. -/
theorem membersFrom_more (hreads : ∀ entry ∈ entries, Reads read (written entry.2) entry.2)
    (rest : List Symbol) {rounds : Nat} (hrounds : entries.length < rounds) :
    membersFrom read rounds false m
        (symbols (entries.flatMap fun entry => ',' :: member entry.1 (written entry.2))
          ++ .char '\x7d' :: rest)
      = .ok (entries.foldl (fun m entry => m.insert entry.1 entry.2) m, .char '\x7d' :: rest) := by
  -- The members read before are in the map already, so the induction is for any map.
  induction entries generalizing m rounds with
  | nil =>
    obtain ⟨rounds, rfl⟩ : ∃ k, rounds = k + 1 := ⟨rounds - 1, by simp at hrounds; omega⟩
    rfl
  | cons entry entries ih =>
    obtain ⟨rounds, rfl⟩ : ∃ k, rounds = k + 1 := ⟨rounds - 1, by omega⟩
    have hentry := hreads entry List.mem_cons_self
    have hsplit : symbols ((entry :: entries).flatMap fun entry =>
          ',' :: member entry.1 (written entry.2)) ++ Symbol.char '\x7d' :: rest
        = .char ',' :: (symbols (member entry.1 (written entry.2))
            ++ (symbols (entries.flatMap fun entry => ',' :: member entry.1 (written entry.2))
              ++ .char '\x7d' :: rest)) := by
      simp [symbols]
    have hend := atEnd_more (fun entry : String × α => member entry.1 (written entry.2)) entries
      (atEnd_brace rest)
    rw [hsplit, symbols_member, membersFrom_of_name hentry hend rounds (nextName_comma entry.1 _),
      ih (fun later hlater => hreads later (List.mem_cons_of_mem entry hlater))
        (by simpa using hrounds)]
    rfl

/-- Members with commas between them are read into a map up to the closing brace. -/
theorem membersFrom_list (hreads : ∀ entry ∈ entries, Reads read (written entry.2) entry.2)
    (rest : List Symbol) {rounds : Nat} (hrounds : entries.length < rounds) :
    membersFrom read rounds true .empty
        (symbols (commaSeparated (entries.map fun entry => member entry.1 (written entry.2)))
          ++ .char '\x7d' :: rest)
      = .ok (.ofList entries, .char '\x7d' :: rest) := by
  obtain ⟨rounds, rfl⟩ : ∃ k, rounds = k + 1 := ⟨rounds - 1, by omega⟩
  -- Only the first member has no comma before it.
  cases entries with
  | nil => rfl
  | cons entry entries =>
    have hentry := hreads entry List.mem_cons_self
    have hsplit : symbols (commaSeparated ((entry :: entries).map fun entry =>
          member entry.1 (written entry.2))) ++ Symbol.char '\x7d' :: rest
        = symbols (member entry.1 (written entry.2))
            ++ (symbols (entries.flatMap fun entry => ',' :: member entry.1 (written entry.2))
              ++ .char '\x7d' :: rest) := by
      rw [List.map_cons, commaSeparated_cons]
      simp [symbols, List.flatMap_map]
    have hend := atEnd_more (fun entry : String × α => member entry.1 (written entry.2)) entries
      (atEnd_brace rest)
    rw [hsplit, symbols_member, membersFrom_of_name hentry hend rounds (nextName_first entry.1 _),
      membersFrom_more (fun later hlater => hreads later (List.mem_cons_of_mem entry hlater)) rest
        (by simpa using hrounds)]
    rfl

/-- A map reads back if its values do. -/
theorem reads_map (m : SortedMap α)
    (hreads : ∀ entry ∈ m.entries, Reads read (written entry.2) entry.2) :
    Reads (readMap read)
      (braced (m.entries.map fun entry => member entry.1 (written entry.2))) m where
  starts := ⟨'\x7b', _, rfl, by decide, by decide⟩
  reads rest _ := by
    have hlength := length_le_commaSeparated
      (m.entries.map fun entry => member entry.1 (written entry.2)) fun text htext => by
        obtain ⟨entry, -, rfl⟩ := List.mem_map.1 htext
        exact List.cons_ne_nil _ _
    have hsplit : symbols (braced (m.entries.map fun entry => member entry.1 (written entry.2)))
          ++ rest
        = .char '\x7b' :: (symbols (commaSeparated
            (m.entries.map fun entry => member entry.1 (written entry.2)))
              ++ .char '\x7d' :: rest) := by
      simp [symbols, braced]
    have hrounds : m.entries.length < (symbols (commaSeparated
        (m.entries.map fun entry => member entry.1 (written entry.2)))
          ++ Symbol.char '\x7d' :: rest).length + 1 := by
      rw [List.length_map] at hlength
      rw [List.length_append, symbols, List.length_map]
      omega
    have hfront : ∀ input, front (.char '\x7b' :: input) = .ok (.map, input) := fun _ => rfl
    have hclose : closeObject (.char '\x7d' :: rest) = .ok rest := rfl
    rw [hsplit]
    simp only [readMap, hfront, readMembers, bind, Except.bind,
      membersFrom_list hreads rest hrounds, hclose, SortedMap.ofList_entries]

end Maps

end Idempotency.Json
