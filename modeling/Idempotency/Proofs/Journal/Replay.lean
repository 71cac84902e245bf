import Idempotency.Proofs.Journal.Lines
import Idempotency.Proofs.Time.Order

/-!
# `Idempotency.Proofs.Journal.Replay`: the records that a replay keeps

`Stays now rs r` says that of the records `rs` with the key of `r`, it is `r`
that counts: it has not expired at `now`, it is among those that expire last,
and it is the first of these. `Replay.Holds` is the invariant of the loop:
what the index holds stays, and a key that it does not hold has expired records
only.

If the records of a key that have not expired belong to one request
(`Consistent`), the replay ends with the index (`holds_takeAll`).
-/

set_option autoImplicit false

namespace Idempotency.Journal

variable {now : Instant} {rs later : List Record} {r : Record}

/-- Records of one key that have not expired belong to one request. -/
def Consistent (now : Instant) (rs : List Record) : Prop :=
  ∀ a ∈ rs, ∀ b ∈ rs, a.isExpiredAt now = false → b.isExpiredAt now = false → a.key = b.key →
    a.requestHash = b.requestHash

/-- The record has not expired, and is the first of those with its key that
expire last. -/
def Stays (now : Instant) (rs : List Record) (r : Record) : Prop :=
  ∃ before after, rs = before ++ r :: after ∧ r.isExpiredAt now = false
    ∧ (∀ b ∈ before, b.key = r.key → b.expiresAt < r.expiresAt)
    ∧ ∀ a ∈ after, a.key = r.key → a.expiresAt ≤ r.expiresAt

/-- A record that stays is one of those that came. -/
theorem Stays.mem (h : Stays now rs r) : r ∈ rs := by
  obtain ⟨before, after, rfl, _⟩ := h
  exact List.mem_append_right before List.mem_cons_self

/-- A record that stays has not expired. -/
theorem Stays.live (h : Stays now rs r) : r.isExpiredAt now = false := by
  obtain ⟨_, _, _, hlive, _⟩ := h
  exact hlive

/-- No record with the key expires later. -/
theorem Stays.le (h : Stays now rs r) {a : Record} (ha : a ∈ rs) (hkey : a.key = r.key) :
    a.expiresAt ≤ r.expiresAt := by
  obtain ⟨before, after, rfl, _, hbefore, hafter⟩ := h
  rcases List.mem_append.1 ha with ha | ha
  · exact le_of_lt (hbefore a ha hkey)
  · rcases List.mem_cons.1 ha with rfl | ha
    · exact le_refl _
    · exact hafter a ha hkey

/-- A record that does not expire later changes nothing. -/
theorem Stays.concat (h : Stays now rs r) {next : Record}
    (hle : next.key = r.key → next.expiresAt ≤ r.expiresAt) : Stays now (rs ++ [next]) r := by
  obtain ⟨before, after, rfl, hlive, hbefore, hafter⟩ := h
  refine ⟨before, after ++ [next], by simp, hlive, hbefore, ?_⟩
  intro a ha hkey
  rcases List.mem_append.1 ha with ha | ha
  · exact hafter a ha hkey
  · rw [List.mem_singleton.1 ha] at hkey ⊢
    exact hle hkey

/-- A record that expires after all others with its key stays. -/
theorem stays_concat (hlive : r.isExpiredAt now = false)
    (hlt : ∀ b ∈ rs, b.key = r.key → b.expiresAt < r.expiresAt) : Stays now (rs ++ [r]) r :=
  ⟨rs, [], rfl, hlive, hlt, fun _ h => nomatch h⟩

namespace Replay

/-- What the replay of these records has come to. -/
structure Holds (now : Instant) (rs : List Record) (s : Replay) : Prop where
  stays : ∀ key r, s.index.find? key = some r → Stays now rs r
  expired : ∀ r ∈ rs, s.index.find? r.key = none → r.isExpiredAt now = true

/-- A replay starts with no records. -/
theorem holds_start (now : Instant) : Holds now [] start :=
  ⟨fun _ _ h => (nomatch h), fun _ h => (nomatch h)⟩

variable {s s' : Replay}

/-- An expired record is counted, and the index stays. -/
theorem Holds.skip (h : s.Holds now rs) (hexpired : r.isExpiredAt now = true) (skipped : Nat) :
    Holds now (rs ++ [r]) { s with skipped := skipped } where
  stays key held hheld := by
    have hstays := h.stays key held hheld
    exact hstays.concat fun _ => le_of_lt (Record.lt_of_isExpiredAt hexpired hstays.live)
  expired a ha hfree := by
    rcases List.mem_append.1 ha with ha | ha
    · exact h.expired a ha hfree
    · rw [List.mem_singleton.1 ha]
      exact hexpired

/-- A record that does not expire later than the one held is passed over. -/
theorem Holds.pass (h : s.Holds now rs) {held : Record} (hheld : s.index.find? r.key = some held)
    (hle : r.expiresAt ≤ held.expiresAt) : Holds now (rs ++ [r]) s where
  stays key other hother := by
    refine (h.stays key other hother).concat fun hkey => ?_
    have heq : key = r.key := (Index.key_of_find? hother).symm.trans hkey.symm
    rw [heq, hheld] at hother
    rw [← Option.some.inj hother]
    exact hle
  expired a ha hfree := by
    rcases List.mem_append.1 ha with ha | ha
    · exact h.expired a ha hfree
    · rw [List.mem_singleton.1 ha, hheld] at hfree
      exact nomatch hfree

/-- A record that expires after what its key holds takes the key. -/
theorem Holds.store (h : s.Holds now rs) (hlive : r.isExpiredAt now = false)
    (hlt : ∀ held, s.index.find? r.key = some held → held.expiresAt < r.expiresAt) :
    Holds now (rs ++ [r]) { s with index := s.index.store r } where
  stays key other hother := by
    rw [Index.find?_store] at hother
    split at hother
    · cases hother
      -- Records of the key that came before have expired, or expire no later than
      -- the one held.
      refine stays_concat hlive fun b hb hkey => ?_
      cases hheld : s.index.find? r.key with
      | none =>
        have hexpired := h.expired b hb (by rw [hkey, hheld])
        exact Record.lt_of_isExpiredAt hexpired hlive
      | some held =>
        have hkey' : b.key = held.key := hkey.trans (Index.key_of_find? hheld).symm
        exact lt_of_le_of_lt ((h.stays r.key held hheld).le hb hkey') (hlt held hheld)
    · next hne =>
      refine (h.stays key other hother).concat fun hkey => ?_
      exact absurd ((Index.key_of_find? hother).symm.trans hkey.symm) hne
  expired a ha hfree := by
    rw [Index.find?_store] at hfree
    split at hfree
    · exact nomatch hfree
    · next hne =>
      rcases List.mem_append.1 ha with ha | ha
      · exact h.expired a ha hfree
      · exact absurd (congrArg Record.key (List.mem_singleton.1 ha)) hne

/-- Taking a record keeps the invariant. -/
theorem holds_take (h : s.Holds now rs) (htake : s.take now r = .ok s') :
    Holds now (rs ++ [r]) s' := by
  unfold take at htake
  split at htake
  · next hexpired =>
    cases htake
    exact h.skip hexpired _
  · next hexpired =>
    have hlive : r.isExpiredAt now = false := Bool.eq_false_iff.2 hexpired
    split at htake
    · next hfree =>
      cases htake
      refine h.store hlive fun held hheld => ?_
      rw [hfree] at hheld
      exact nomatch hheld
    · next held hheld =>
      split at htake
      · exact nomatch htake
      · split at htake
        · next hle =>
          cases htake
          exact h.pass hheld hle
        · next hle =>
          cases htake
          refine h.store hlive fun other hother => ?_
          rw [hheld] at hother
          rw [← Option.some.inj hother]
          exact not_le.1 hle

/-- A record of the same request as the others of its key is taken. -/
theorem exists_take (h : s.Holds now rs) (hconsistent : Consistent now (rs ++ [r])) :
    ∃ s', s.take now r = .ok s' := by
  unfold take
  split
  · exact ⟨_, rfl⟩
  · next hexpired =>
    have hlive : r.isExpiredAt now = false := Bool.eq_false_iff.2 hexpired
    split
    · exact ⟨_, rfl⟩
    · next held hheld =>
      have hstays := h.stays r.key held hheld
      have hsame : held.requestHash = r.requestHash :=
        hconsistent held (List.mem_append_left _ hstays.mem) r (by simp) hstays.live hlive
          (Index.key_of_find? hheld)
      rw [if_neg fun hne => hne hsame]
      split
      · exact ⟨_, rfl⟩
      · exact ⟨_, rfl⟩

/-- Taking consistent records succeeds, and keeps the invariant. -/
theorem holds_takeAll (h : s.Holds now rs) (hconsistent : Consistent now (rs ++ later)) :
    ∃ s', s.takeAll now later = .ok s' ∧ s'.Holds now (rs ++ later) := by
  induction later generalizing s rs with
  | nil => exact ⟨s, rfl, by rwa [List.append_nil]⟩
  | cons r later ih =>
    have hsplit : rs ++ r :: later = rs ++ [r] ++ later := by simp
    rw [hsplit] at hconsistent ⊢
    -- What is consistent in all the records is so in those up to this one.
    have hfirst : Consistent now (rs ++ [r]) := fun a ha b hb =>
      hconsistent a (List.mem_append_left _ ha) b (List.mem_append_left _ hb)
    obtain ⟨next, htake⟩ := exists_take h hfirst
    obtain ⟨last, hlater, hlast⟩ := ih (holds_take h htake) hconsistent
    refine ⟨last, ?_, hlast⟩
    rw [takeAll, htake]
    exact hlater

end Replay

end Idempotency.Journal
