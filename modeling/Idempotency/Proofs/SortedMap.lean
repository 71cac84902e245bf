import Idempotency.SortedMap

/-!
# `Idempotency.Proofs.SortedMap`: the map of a list of entries

A lookup in the map of a list finds the last entry with the key (`SortedMap.find?_ofList`).
If no key stands twice in the list, that is the only one, so the order of the list is of no
account (`SortedMap.ofList_eq_of_perm`), and the entries of a map give back the map
(`SortedMap.ofList_entries`).
-/

set_option autoImplicit false

namespace Idempotency.SortedMap

variable {α : Type} {key : String} {value : α} {entries others : List (String × α)}

/-- The keys of a map are those it binds. -/
theorem mem_keys_iff {m : SortedMap α} : key ∈ m.keys ↔ ∃ value, m.find? key = some value := by
  simp only [keys, List.mem_map, find?_eq_some_iff]
  constructor
  · rintro ⟨entry, hentry, rfl⟩
    exact ⟨entry.2, hentry⟩
  · rintro ⟨value, hentry⟩
    exact ⟨_, hentry, rfl⟩

/-- What a lookup finds is in the list, under that key. -/
theorem mem_of_lookupEntry (h : lookupEntry key entries = some value) : (key, value) ∈ entries := by
  induction entries with
  | nil => cases h
  | cons head rest ih =>
    obtain ⟨k, v⟩ := head
    rw [lookupEntry] at h
    split at h
    · next hk =>
      cases h
      rw [hk]
      exact List.mem_cons_self
    · exact List.mem_cons_of_mem _ (ih h)

/-- Changing the values changes what is found, and not where. -/
theorem lookupEntry_map {β : Type} (f : α → β) (key : String) (entries : List (String × α)) :
    lookupEntry key (entries.map fun entry => (entry.1, f entry.2))
      = (lookupEntry key entries).map f := by
  induction entries with
  | nil => rfl
  | cons head rest ih =>
    obtain ⟨k, v⟩ := head
    rw [List.map_cons, lookupEntry, lookupEntry, ih]
    split <;> rfl

/-- Of the entries with one key, the map of a list has the last. -/
theorem find?_ofList (entries : List (String × α)) (key : String) :
    (ofList entries).find? key = lookupEntry key entries.reverse := by
  -- The induction goes from the end: what is put in last is what a lookup meets first.
  suffices h : ∀ before : List (String × α),
      (ofList before.reverse).find? key = lookupEntry key before by
    simpa using h entries.reverse
  intro before
  induction before with
  | nil => rfl
  | cons entry before ih =>
    have hlast : ofList (entry :: before).reverse
        = (ofList before.reverse).insert entry.1 entry.2 := by
      rw [ofList, List.reverse_cons, List.foldl_append]
      rfl
    rw [hlast, find?_insert, ih]
    rfl

/-- Without a key that stands twice, a lookup finds every entry. -/
theorem lookupEntry_eq_some_iff_of_nodup (h : (entries.map (·.1)).Nodup) :
    lookupEntry key entries = some value ↔ (key, value) ∈ entries := by
  induction entries with
  | nil => simp [lookupEntry]
  | cons head rest ih =>
    obtain ⟨k, v⟩ := head
    obtain ⟨hnew, hrest⟩ := List.nodup_cons.1 h
    by_cases hk : key = k
    · subst hk
      have habsent : (key, value) ∉ rest := fun hmem => hnew (List.mem_map.2 ⟨_, hmem, rfl⟩)
      simp [lookupEntry, habsent, eq_comm]
    · simp [lookupEntry, hk, ih hrest]

/-- A map made of entries with different keys has exactly those entries. -/
theorem find?_ofList_eq_some_iff (h : (entries.map (·.1)).Nodup) :
    (ofList entries).find? key = some value ↔ (key, value) ∈ entries := by
  have hreverse : (entries.reverse.map (·.1)).Nodup :=
    ((List.reverse_perm entries).map (·.1)).nodup_iff.2 h
  rw [find?_ofList, lookupEntry_eq_some_iff_of_nodup hreverse, List.mem_reverse]

/-- Entries with different keys make one map in whatever order they come. -/
theorem ofList_eq_of_perm (h : (entries.map (·.1)).Nodup) (hperm : entries.Perm others) :
    ofList entries = ofList others := by
  have hothers : (others.map (·.1)).Nodup := (hperm.map _).nodup_iff.1 h
  refine ext_find? fun key => Option.ext fun value => ?_
  rw [find?_ofList_eq_some_iff h, find?_ofList_eq_some_iff hothers, hperm.mem_iff]

/-- No key comes twice. -/
theorem nodup_keys (m : SortedMap α) : (m.entries.map (·.1)).Nodup :=
  List.pairwise_map.2 (m.increasing.imp fun hlt => String.ne_of_lt hlt)

/-- The entries of a map make up the map. -/
theorem ofList_entries (m : SortedMap α) : ofList m.entries = m :=
  ext_find? fun key => Option.ext fun value => by
    rw [find?_ofList_eq_some_iff m.nodup_keys, find?_eq_some_iff]

end Idempotency.SortedMap
