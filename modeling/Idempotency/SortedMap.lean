/-!
# `Idempotency.SortedMap`: finite maps with text keys, kept in key order

A map is the list of its entries, strictly increasing by key. Keys compare
by code point, which is also the order of their UTF-8 bytes. The order is
part of the type, so a map has one representation: two maps that answer
every lookup alike are equal (`SortedMap.ext_find?`), and whatever is written
out of a map in entry order does not depend on how the map came to be.

Each operation has one lemma that says what it does to `find?`.
-/

set_option autoImplicit false

namespace Idempotency

/-- Entries in strictly increasing key order. -/
structure SortedMap (α : Type) where
  entries : List (String × α)
  increasing : entries.Pairwise (·.1 < ·.1)
  deriving DecidableEq

namespace SortedMap

variable {α : Type}

/-- Puts an entry at its place in a list sorted by key; an entry with the
same key gives way. -/
def insertEntry (key : String) (value : α) : List (String × α) → List (String × α)
  | [] => [(key, value)]
  | (k, v) :: rest =>
    if key < k then (key, value) :: (k, v) :: rest
    else if key = k then (key, value) :: rest
    else (k, v) :: insertEntry key value rest

/-- An entry of the list is the one put in, or it was there before. -/
theorem mem_insertEntry {key : String} {value : α} {entry : String × α}
    {entries : List (String × α)} (h : entry ∈ insertEntry key value entries) :
    entry = (key, value) ∨ entry ∈ entries := by
  induction entries with
  | nil => simpa [insertEntry] using h
  | cons head rest ih =>
    obtain ⟨k, v⟩ := head
    rw [insertEntry] at h
    split at h
    · simpa using h
    · split at h
      · rcases List.mem_cons.1 h with h | h
        · exact .inl h
        · exact .inr (List.mem_cons_of_mem _ h)
      · rcases List.mem_cons.1 h with h | h
        · exact .inr (h ▸ List.mem_cons_self)
        · exact (ih h).imp_right (List.mem_cons_of_mem _)

/-- Two different keys come one before the other. -/
private theorem lt_of_not_lt_of_ne {a b : String} (h : ¬ a < b) (hne : a ≠ b) : b < a :=
  String.not_le.1 fun hab => hne (String.le_antisymm hab (String.not_lt.1 h))

/-- Putting an entry in keeps the keys strictly increasing. -/
theorem pairwise_insertEntry (key : String) (value : α) {entries : List (String × α)}
    (h : entries.Pairwise (·.1 < ·.1)) :
    (insertEntry key value entries).Pairwise (·.1 < ·.1) := by
  induction entries with
  | nil => simp [insertEntry]
  | cons head rest ih =>
    obtain ⟨k, v⟩ := head
    have hhead : ∀ e ∈ rest, k < e.1 := fun _ he => List.rel_of_pairwise_cons h he
    rw [insertEntry]
    split
    · next hlt =>
      refine List.Pairwise.cons (fun e he => ?_) h
      rcases List.mem_cons.1 he with rfl | he
      · exact hlt
      · exact String.lt_trans hlt (hhead e he)
    · next hlt =>
      split
      · next heq =>
        subst heq
        exact List.Pairwise.cons hhead h.of_cons
      · next hne =>
        refine List.Pairwise.cons (fun e he => ?_) (ih h.of_cons)
        rcases mem_insertEntry he with rfl | he
        · exact lt_of_not_lt_of_ne hlt hne
        · exact hhead e he

/-- The value of the first entry with the key. -/
def lookupEntry (key : String) : List (String × α) → Option α
  | [] => none
  | (k, v) :: rest => if key = k then some v else lookupEntry key rest

/-- The map without entries. -/
def empty : SortedMap α := ⟨[], .nil⟩

instance : Inhabited (SortedMap α) := ⟨empty⟩

/-- The value under a key. -/
def find? (m : SortedMap α) (key : String) : Option α := lookupEntry key m.entries

/-- The map with `value` under `key`, in place of whatever the key held. -/
def insert (m : SortedMap α) (key : String) (value : α) : SortedMap α :=
  ⟨insertEntry key value m.entries, pairwise_insertEntry key value m.increasing⟩

/-- The map without `key`. -/
def erase (m : SortedMap α) (key : String) : SortedMap α :=
  ⟨m.entries.filter (·.1 ≠ key), m.increasing.filter _⟩

/-- The entries whose value passes the test. -/
def filter (keep : α → Bool) (m : SortedMap α) : SortedMap α :=
  ⟨m.entries.filter (keep ·.2), m.increasing.filter _⟩

/-- How many keys the map holds. -/
def size (m : SortedMap α) : Nat := m.entries.length

/-- The keys, in increasing order. -/
def keys (m : SortedMap α) : List String := m.entries.map (·.1)

/-- The values, in the order of their keys. -/
def values (m : SortedMap α) : List α := m.entries.map (·.2)

/-- The map of a list of entries; of two entries with one key the later
one stays. -/
def ofList (entries : List (String × α)) : SortedMap α :=
  entries.foldl (fun m entry => m.insert entry.1 entry.2) empty

/-! ### Lookups -/

/-- The empty map has nothing under any key. -/
@[simp] theorem find?_empty (key : String) : (empty : SortedMap α).find? key = none := rfl

/-- What a list has under a key once an entry has been put in. -/
private theorem lookupEntry_insertEntry (key k : String) (value : α)
    (entries : List (String × α)) :
    lookupEntry k (insertEntry key value entries)
      = if k = key then some value else lookupEntry k entries := by
  induction entries with
  | nil => rfl
  | cons head rest ih =>
    obtain ⟨k', v⟩ := head
    rw [insertEntry]
    split
    · rfl
    · split
      · next heq => subst heq; simp only [lookupEntry]; split <;> rfl
      · next hne =>
        by_cases h : k = key
        · subst h; simp [lookupEntry, hne, ih]
        · simp [lookupEntry, h, ih]

/-- The key of an inserted entry has its value; other keys have what they had. -/
@[simp] theorem find?_insert (m : SortedMap α) (key k : String) (value : α) :
    (m.insert key value).find? k = if k = key then some value else m.find? k :=
  lookupEntry_insertEntry key k value m.entries

/-- What a list has under a key once the entries of one key are out. -/
private theorem lookupEntry_filter_ne (key k : String) (entries : List (String × α)) :
    lookupEntry k (entries.filter (·.1 ≠ key))
      = if k = key then none else lookupEntry k entries := by
  induction entries with
  | nil => simp [lookupEntry]
  | cons head rest ih =>
    obtain ⟨k', v⟩ := head
    by_cases hk : k' = key
    · subst hk
      by_cases h : k = k' <;> simp_all [lookupEntry]
    · by_cases h : k = k'
      · subst h; simp [lookupEntry, hk]
      · simp_all [lookupEntry]

/-- An erased key has nothing; other keys have what they had. -/
@[simp] theorem find?_erase (m : SortedMap α) (key k : String) :
    (m.erase key).find? k = if k = key then none else m.find? k :=
  lookupEntry_filter_ne key k m.entries

/-- In a sorted list a lookup finds exactly the entries that are there, since no key
comes twice. -/
private theorem lookupEntry_eq_some_iff {entries : List (String × α)}
    (h : entries.Pairwise (·.1 < ·.1)) (key : String) (value : α) :
    lookupEntry key entries = some value ↔ (key, value) ∈ entries := by
  induction entries with
  | nil => simp [lookupEntry]
  | cons head rest ih =>
    obtain ⟨k, v⟩ := head
    by_cases hk : key = k
    · subst hk
      have hrest : ∀ w, (key, w) ∉ rest := fun w hw =>
        String.lt_irrefl key (List.rel_of_pairwise_cons h hw)
      simp [lookupEntry, hrest, eq_comm]
    · simp [lookupEntry, hk, ih h.of_cons]

/-- A key is bound exactly when it heads one of the entries. -/
theorem find?_eq_some_iff (m : SortedMap α) (key : String) (value : α) :
    m.find? key = some value ↔ (key, value) ∈ m.entries :=
  lookupEntry_eq_some_iff m.increasing key value

/-- A filter leaves a value exactly if it is to be kept. -/
@[simp] theorem find?_filter (keep : α → Bool) (m : SortedMap α) (key : String) :
    (m.filter keep).find? key = (m.find? key).filter keep := by
  apply Option.ext
  intro value
  rw [find?_eq_some_iff, Option.filter_eq_some_iff, find?_eq_some_iff]
  simp [filter]

/-- Two sorted lists with the same entries are equal. -/
private theorem eq_of_mem_iff {as bs : List (String × α)}
    (ha : as.Pairwise (·.1 < ·.1)) (hb : bs.Pairwise (·.1 < ·.1))
    (h : ∀ entry, entry ∈ as ↔ entry ∈ bs) : as = bs := by
  induction as generalizing bs with
  | nil =>
    cases bs with
    | nil => rfl
    | cons b bs => exact absurd ((h b).2 List.mem_cons_self) (by simp)
  | cons a as ih =>
    cases bs with
    | nil => exact absurd ((h a).1 List.mem_cons_self) (by simp)
    | cons b bs =>
      have hab : a = b := by
        rcases List.mem_cons.1 ((h a).1 List.mem_cons_self) with e | hm
        · exact e
        · rcases List.mem_cons.1 ((h b).2 List.mem_cons_self) with e | hm'
          · exact e.symm
          · exact absurd (List.rel_of_pairwise_cons ha hm')
              (String.lt_asymm (List.rel_of_pairwise_cons hb hm))
      subst hab
      congr 1
      refine ih ha.of_cons hb.of_cons fun entry => ⟨fun hm => ?_, fun hm => ?_⟩
      · rcases List.mem_cons.1 ((h entry).1 (List.mem_cons_of_mem _ hm)) with e | hm'
        · exact absurd (e ▸ List.rel_of_pairwise_cons ha hm) (String.lt_irrefl _)
        · exact hm'
      · rcases List.mem_cons.1 ((h entry).2 (List.mem_cons_of_mem _ hm)) with e | hm'
        · exact absurd (e ▸ List.rel_of_pairwise_cons hb hm) (String.lt_irrefl _)
        · exact hm'

/-- Maps that answer every lookup alike are equal. -/
theorem ext_find? {m n : SortedMap α} (h : ∀ key, m.find? key = n.find? key) : m = n := by
  have hentries : m.entries = n.entries :=
    eq_of_mem_iff m.increasing n.increasing fun ⟨key, value⟩ => by
      rw [← find?_eq_some_iff, ← find?_eq_some_iff, h]
  obtain ⟨as, ha⟩ := m
  obtain ⟨bs, hb⟩ := n
  cases hentries
  rfl

end SortedMap

end Idempotency
