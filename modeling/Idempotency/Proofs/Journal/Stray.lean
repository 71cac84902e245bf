import Idempotency.Proofs.Journal.Cover
import Idempotency.Proofs.Journal.Durable

/-!
# `Idempotency.Proofs.Journal.Stray`: a line that no index knows of

When bringing a record to safety fails, its line may be in the file all the same,
while the index does not have it. Then its key is still free, and another record
may be put under it, with its line later in the file.

A replay meets the stray record first. `Index.withStray` says what becomes of it
when the other records are replayed after it (`Replay.takeAll_stray`): alone under
its key it is in the index; beside a record of another request it makes the file
conflict on the key; and of two records of one request the one that expires last
stays, the stray one if they expire together.
-/

set_option autoImplicit false

namespace Idempotency

/-! ### Indexes with one more record -/

namespace Index

variable {ix : Index} {a b r : Record} {rs : List Record} {now : Instant}

/-- Records with different keys can be stored in either order. -/
theorem store_comm (h : a.key ≠ b.key) (ix : Index) :
    (ix.store a).store b = (ix.store b).store a := by
  refine ext_find? fun key => ?_
  rw [find?_store, find?_store, find?_store, find?_store]
  by_cases ha : key = a.key
  · rw [if_pos ha, if_pos ha, if_neg fun hb => h (ha.symm.trans hb)]
  · rw [if_neg ha, if_neg ha]

/-- Of two records with one key the later one stays. -/
theorem store_store (h : a.key = b.key) (ix : Index) : (ix.store a).store b = ix.store b := by
  refine ext_find? fun key => ?_
  rw [find?_store, find?_store, find?_store, h]
  split
  · rfl
  · rfl

/-- A record can be stored before or after those with other keys. -/
theorem foldl_store_store (h : ∀ b ∈ rs, b.key ≠ r.key) (ix : Index) :
    rs.foldl store (ix.store r) = (rs.foldl store ix).store r := by
  induction rs generalizing ix with
  | nil => rfl
  | cons b rs ih =>
    rw [List.foldl_cons, List.foldl_cons, ← ih fun c hc => h c (List.mem_cons_of_mem b hc),
      store_comm (h b List.mem_cons_self).symm]

/-- Storing records with other keys does not change what a key holds. -/
theorem find?_foldl_store (h : ∀ b ∈ rs, b.key ≠ r.key) (ix : Index) :
    (rs.foldl store ix).find? r.key = ix.find? r.key := by
  induction rs generalizing ix with
  | nil => rfl
  | cons b rs ih =>
    rw [List.foldl_cons, ih fun c hc => h c (List.mem_cons_of_mem b hc), find?_store,
      if_neg (h b List.mem_cons_self).symm]

/-- Under a free key, what has expired leaves no trace. -/
theorem live_store (hfree : ix.find? r.key = none) :
    (ix.store r).live now
      = if r.isExpiredAt now then ix.live now else (ix.live now).store r := by
  refine ext_find? fun key => ?_
  rw [find?_live, find?_store]
  cases hexpired : r.isExpiredAt now with
  | true =>
    rw [if_pos rfl, find?_live]
    split
    · next hkey => simp [hkey, hfree, hexpired]
    · rfl
  | false =>
    rw [if_neg Bool.false_ne_true, find?_store, find?_live]
    split
    · simp [hexpired]
    · rfl

/-- Of the records that are stored, those that have not expired are live. -/
theorem live_foldl_store (hfresh : Journal.Fresh ix rs) :
    (rs.foldl store ix).live now
      = (rs.filter fun r => !r.isExpiredAt now).foldl store (ix.live now) := by
  induction rs generalizing ix with
  | nil => rfl
  | cons r rs ih =>
    rw [List.foldl_cons, ih hfresh.store, live_store (hfresh.free r List.mem_cons_self)]
    cases hexpired : r.isExpiredAt now with
    | true => simp [hexpired]
    | false => simp [hexpired]

/-- What a replay comes to that meets a record before it meets those of the index. -/
def withStray (ix : Index) (r : Record) : Except Journal.Damage Index :=
  match ix.find? r.key with
  | none => .ok (ix.store r)
  | some other =>
    if r.requestHash ≠ other.requestHash then .error (.conflict r.key)
    else if other.expiresAt ≤ r.expiresAt then .ok (ix.store r)
    else .ok ix

end Index

namespace Journal

variable {now : Instant} {r : Record} {rs : List Record}

/-- What is fresh to an index is fresh to its live records. -/
theorem Fresh.live {ix : Index} (h : Fresh ix rs) : Fresh (ix.live now) rs :=
  ⟨fun a ha => by rw [Index.find?_live, h.free a ha]; rfl, h.distinct⟩

/-- Of fresh records, no later one has the key of the first. -/
theorem Fresh.ne_key {ix : Index} (h : Fresh ix (r :: rs)) : ∀ b ∈ rs, b.key ≠ r.key :=
  fun _ hb => (List.rel_of_pairwise_cons h.distinct hb).symm

/-- Only the key of a record decides whether it is fresh. -/
theorem Fresh.congr_key {ix : Index} {a : Record} (h : Fresh ix (a :: rs))
    (hkey : a.key = r.key) : Fresh ix (r :: rs) := by
  refine ⟨fun b hb => ?_, .cons (fun b hb => ?_) h.distinct.tail⟩
  · rcases List.mem_cons.1 hb with rfl | hb
    · rw [← hkey]
      exact h.free a List.mem_cons_self
    · exact h.free b (List.mem_cons_of_mem a hb)
  · rw [← hkey]
    exact (h.ne_key b hb).symm

namespace Replay

variable {s u next : Replay} {a : Record}

/-- The first record is taken, and then the others are. -/
theorem takeAll_cons_of_take (htake : s.take now r = .ok next) (rs : List Record) :
    s.takeAll now (r :: rs) = next.takeAll now rs := by
  rw [takeAll, htake]
  rfl

/-- A record that has expired is counted and not taken. -/
theorem take_of_expired (h : r.isExpiredAt now = true) (s : Replay) :
    s.take now r = .ok { s with skipped := s.skipped + 1 } := by
  rw [take, if_pos h]

/-- A record that has not expired is stored under a free key. -/
theorem take_of_live (h : r.isExpiredAt now = false) (hfree : s.index.find? r.key = none) :
    s.take now r = .ok { s with index := s.index.store r } := by
  rw [take, h, if_neg Bool.false_ne_true, hfree]

/-- The record met next has the key of the stray one. -/
theorem takeAll_stray_met (hkey : a.key = r.key) (hlive : a.isExpiredAt now = false)
    (hstray : s.index = u.index.store r) (hfresh : Fresh u.index (a :: rs)) :
    ∃ last, u.takeAll now (a :: rs) = .ok last
      ∧ (s.takeAll now (a :: rs)).map index = last.index.withStray r := by
  have hfirst := take_of_live hlive (hfresh.free a List.mem_cons_self)
  obtain ⟨last, hlast, hindex⟩ :=
    takeAll_of_fresh now (s := { u with index := u.index.store a }) hfresh.store
  refine ⟨last, by rw [takeAll_cons_of_take hfirst, hlast], ?_⟩
  -- No record after it has the key.
  have hne : ∀ b ∈ rs.filter fun b => !b.isExpiredAt now, b.key ≠ r.key := fun b hb =>
    (hfresh.congr_key hkey).ne_key b (List.mem_filter.1 hb).1
  have hheld : last.index.find? r.key = some a := by
    rw [hindex, Index.find?_foldl_store hne, Index.find?_store, if_pos hkey.symm]
  have hstored : s.index.find? a.key = some r := by
    rw [hstray, Index.find?_store, if_pos hkey]
  have htake : s.take now a = if r.requestHash ≠ a.requestHash then .error (.conflict a.key)
      else if a.expiresAt ≤ r.expiresAt then .ok s
      else .ok { s with index := s.index.store a } := by
    rw [take, hlive, if_neg Bool.false_ne_true, hstored]
  unfold Index.withStray
  rw [hheld]
  dsimp only
  by_cases hhash : r.requestHash ≠ a.requestHash
  · rw [if_pos hhash]
    rw [if_pos hhash] at htake
    rw [takeAll, htake, ← hkey]
    rfl
  · rw [if_neg hhash]
    rw [if_neg hhash] at htake
    by_cases hle : a.expiresAt ≤ r.expiresAt
    · rw [if_pos hle]
      rw [if_pos hle] at htake
      have hfresh' : Fresh s.index rs := by
        rw [hstray]
        exact (hfresh.congr_key hkey).store
      obtain ⟨last', hlast', hindex'⟩ := takeAll_of_fresh now hfresh'
      rw [takeAll_cons_of_take htake, hlast', Except.map, hindex', hindex, hstray,
        ← Index.foldl_store_store hne, Index.store_store hkey]
    · rw [if_neg hle]
      rw [if_neg hle] at htake
      have hsame : s.index.store a = u.index.store a := by
        rw [hstray, Index.store_store hkey.symm]
      obtain ⟨last', hlast', hindex'⟩ := takeAll_of_fresh now
        (s := { s with index := s.index.store a }) (by rw [hsame]; exact hfresh.store)
      rw [takeAll_cons_of_take htake, hlast', Except.map, hindex', hindex, hsame]

/-- Two replays of the same records: the one has a stray record that the other has
not met. -/
theorem takeAll_stray (hfree : u.index.find? r.key = none)
    (hstray : s.index = u.index.store r) (hfresh : Fresh u.index rs) :
    ∃ last, u.takeAll now rs = .ok last
      ∧ (s.takeAll now rs).map index = last.index.withStray r := by
  induction rs generalizing u s with
  | nil =>
    refine ⟨u, rfl, ?_⟩
    rw [Index.withStray, hfree, takeAll, Except.map, hstray]
  | cons a rs ih =>
    cases hexpired : a.isExpiredAt now with
    | true =>
      -- Neither takes it.
      have hskip := take_of_expired hexpired
      obtain ⟨last, hlast, hcomes⟩ :=
        ih (u := { u with skipped := u.skipped + 1 })
          (s := { s with skipped := s.skipped + 1 }) hfree hstray hfresh.skip
      refine ⟨last, ?_, ?_⟩
      · rw [takeAll_cons_of_take (hskip u), hlast]
      · rwa [takeAll_cons_of_take (hskip s)]
    | false =>
      by_cases hkey : a.key = r.key
      · exact takeAll_stray_met hkey hexpired hstray hfresh
      · have hfirst := take_of_live hexpired (hfresh.free a List.mem_cons_self)
        have hboth : s.index.find? a.key = none := by
          rw [hstray, Index.find?_store, if_neg hkey]
          exact hfresh.free a List.mem_cons_self
        have hstray' : s.index.store a = (u.index.store a).store r := by
          rw [hstray, Index.store_comm fun h => hkey h.symm]
        have hfree' : (u.index.store a).find? r.key = none := by
          rw [Index.find?_store, if_neg fun h => hkey h.symm, hfree]
        obtain ⟨last, hlast, hcomes⟩ :=
          ih (u := { u with index := u.index.store a })
            (s := { s with index := s.index.store a }) hfree' hstray' hfresh.store
        refine ⟨last, ?_, ?_⟩
        · rw [takeAll_cons_of_take hfirst, hlast]
        · rwa [takeAll_cons_of_take (take_of_live hexpired hboth)]

end Replay

end Journal

end Idempotency
