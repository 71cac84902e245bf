import Idempotency.Proofs.Race.Turns

/-!
# `Idempotency.Proofs.Race.SingleOwner`: racing calls agree on one record

Calls on one key that race may all find it free, may all run their operations,
and may come to put their payloads in any order. `single_owner` says what still
holds, for a stretch of a race that starts with the key free and in which
nothing evicts its record:

* At most one put for the key inserts its record, which then stays.
* A call that succeeds is of the same request as that record. It has the
  record's payload if its operation has not run, and else what that gave.
* A call of another request that comes to the store after the insertion ends in
  a conflict. A call of the same request never does on the guard's account.

What carries the proof is that a call, when it ends, agrees with the record that
the key holds at that moment (`Runner.Settled`), and that the key keeps it.
-/

set_option autoImplicit false

namespace Idempotency

variable {ε : Type}

namespace Race

/-- So many turns of a schedule. Before them the key is free, and none of them
evicts its record. -/
structure Stretch (race : Race ε) (turns : Nat → Turn ε) (length : Nat) (key : String) :
    Prop where
  inMemory : race.InMemory
  free : race.held key = none
  kept : ∀ n < length, ¬ (race.after turns n).Evicts (turns n) key

end Race

/-- A call, if it is over, has ended in a way that the record under its key
accounts for. -/
structure Runner.Settled (c : Runner ε) (held : Option Record) : Prop where
  ok : ∀ payload, c.result? = some (.ok payload) →
    ∃ r, held = some r ∧ r.requestHash = c.requestHash
      ∧ c.given?.getD (.ok r.payload) = .ok payload
  conflict : ∀ key, c.result? = some (.error (.refused (.conflict key))) →
    c.given? = c.result? ∨ ∃ r, held = some r ∧ r.requestHash ≠ c.requestHash

/-! ### Calls at their end -/

namespace Runner

variable {s : Service} {ix : Index} {c : Runner ε} {held held' : Option Record}

/-- Nothing is asked of a call that is not over. -/
theorem Settled.of_running (hrunning : c.result? = none) : c.Settled held where
  ok payload h := by simp [hrunning] at h
  conflict key h := by simp [hrunning] at h

/-- It matters only that the record stays. -/
theorem Settled.mono (h : c.Settled held) (hkeeps : ∀ r, held = some r → held' = some r) :
    c.Settled held' where
  ok payload hresult := by
    obtain ⟨r, hheld, hrest⟩ := h.ok payload hresult
    exact ⟨r, hkeeps r hheld, hrest⟩
  conflict key hresult := by
    rcases h.conflict key hresult with hown | ⟨r, hheld, hne⟩
    · exact .inl hown
    · exact .inr ⟨r, hkeeps r hheld, hne⟩

/-- A call that ends in a turn agrees with the record that its key holds after
the turn. -/
theorem settled_act (h : s.Holds ix) (hrunning : c.result? = none)
    (outcome : Except (Failure ε) Bytes) :
    (c.act outcome s).1.Settled ((c.touch ix).find? c.key) := by
  cases hstage : c.stage with
  | timed now =>
    have htouch : (c.touch ix).find? c.key = (ix.lookup c.key now).found := by
      simp only [touch, hstage]
      exact Index.find?_lookup_self ix c.key now
    rw [htouch]
    cases hfound : (ix.lookup c.key now).found with
    | none =>
      rw [act_of_missed h hstage hfound]
      cases now.add? (s.guard c.number).lifetime with
      | none => constructor <;> simp [result?]
      | some expiresAt => exact .of_running rfl
    | some r =>
      rw [act_of_found h hstage hfound]
      by_cases hhash : r.requestHash = c.requestHash
      · constructor <;> simp [result?, given?, hhash]
      · constructor <;> simp [result?, given?, hhash]
  | cleared now expiresAt =>
    rw [act_of_cleared hstage]
    cases outcome with
    | ok payload => exact .of_running rfl
    | error failure => constructor <;> simp [result?, given?]
  | ran now expiresAt payload =>
    rw [act_of_ran h hstage]
    have htouch : (c.touch ix).find? c.key
        = if ix.find? c.key = none then some (c.record expiresAt payload)
          else ix.find? c.key := by
      simp only [touch, hstage]
      split
      · rw [Index.find?_store]
        exact if_pos rfl
      · rfl
    rw [htouch]
    cases hheld : ix.find? c.key with
    | none => constructor <;> simp [result?, given?, record]
    | some r =>
      by_cases hhash : r.requestHash = c.requestHash
      · constructor <;> simp [result?, given?, hhash]
      · constructor <;> simp [result?, given?, hhash]
  | ended now given result => simp [result?, hstage] at hrunning

end Runner

namespace Race

variable {race : Race ε} {turns : Nat → Turn ε} {length n m i : Nat} {key : String}
  {r : Record} {c : Runner ε}

/-! ### The record of a stretch -/

/-- A record stays unless it is evicted. -/
theorem held_kept (h : race.InMemory) {turn : Turn ε} (hheld : race.held key = some r)
    (hkept : ¬ race.Evicts turn key) : (race.step turn).held key = some r := by
  rcases held_step h turn key with hsame | ⟨r', rfl, hins, _⟩ | hevicts
  · rw [hsame, hheld]
  · have hfree := ((inserts_iff h).1 hins).2
    rw [hheld] at hfree
    exact nomatch hfree
  · exact absurd hevicts hkept

namespace Stretch

/-- In a stretch the key keeps its record from one turn to any later one. -/
theorem held_mono (h : race.Stretch turns length key) (hle : n ≤ m) (hm : m ≤ length)
    (hheld : (race.after turns n).held key = some r) :
    (race.after turns m).held key = some r := by
  induction m, hle using Nat.le_induction with
  | base => exact hheld
  | succ m hle ih => exact held_kept (h.inMemory.after turns m) (ih (by omega)) (h.kept m hm)

/-- After a record has been inserted, the key holds it. -/
theorem held_of_insertsAt (h : race.Stretch turns length key) (hlt : n < m) (hm : m ≤ length)
    (hins : race.InsertsAt turns n r) (hkey : r.key = key) :
    (race.after turns m).held key = some r := by
  refine h.held_mono hlt hm ?_
  subst hkey
  exact held_of_inserts (h.inMemory.after turns n) hins

/-- There is no insertion after another one. -/
theorem not_insertsAt_after (h : race.Stretch turns length key) (hlt : n < m)
    (hm : m < length) (hins : race.InsertsAt turns n r) (hkey : r.key = key) {r' : Record}
    (hins' : race.InsertsAt turns m r') (hkey' : r'.key = key) : False := by
  have hheld := h.held_of_insertsAt hlt (Nat.le_of_lt hm) hins hkey
  have hfree := ((inserts_iff (h.inMemory.after turns m)).1 hins').2
  rw [hkey', hheld] at hfree
  exact nomatch hfree

/-! ### The calls of a stretch -/

/-- Calls on the key that were not over before the stretch agree with its record
when they are over. -/
theorem settled (h : race.Stretch turns length key) (hm : m ≤ length)
    (hc : (race.after turns m).calls[i]? = some c) (hkey : c.key = key)
    (hin : ∀ c₀, race.calls[i]? = some c₀ → c₀.result? = none) :
    c.Settled ((race.after turns m).held key) := by
  induction m generalizing c with
  | zero => exact .of_running (hin c hc)
  | succ m ih =>
    have hmemory := h.inMemory.after turns m
    have hkeeps : ∀ r, (race.after turns m).held key = some r →
        (race.after turns (m + 1)).held key = some r := fun r hheld =>
      held_kept hmemory hheld (h.kept m hm)
    rcases call_step hc with hsame | ⟨_, number, k, requestHash, _, rfl⟩ |
      ⟨outcome, c', hturn, hc', rfl⟩
    -- A call that does not take the turn is as settled as it was; one that takes it
    -- and is not over yet may end in it.
    · exact (ih (by omega) hsame hkey).mono hkeeps
    · exact .of_running rfl
    · rw [Runner.key_act] at hkey
      subst hkey
      by_cases hrunning : c'.result? = none
      · have hsettled := Runner.settled_act hmemory hrunning outcome
        rw [show (race.after turns (m + 1)).held c'.key
          = (c'.touch (race.after turns m).index).find? c'.key by
            rw [after, held_step_eq hmemory, hturn]
            simp only [touched, hc']]
        exact hsettled
      · rw [Runner.act_of_over hrunning]
        exact (ih (by omega) hc' rfl).mono hkeeps

/-- A call of another request that comes to the store while the key holds a
record ends in a conflict. -/
theorem conflict_of_act (h : race.Stretch turns length key) (hm : m < length)
    (hheld : (race.after turns m).held key = some r)
    (hc : (race.after turns m).calls[i]? = some c) (hkey : c.key = key)
    (hhash : c.requestHash ≠ r.requestHash) (hstore : c.atStore = true)
    (outcome : Except (Failure ε) Bytes) (hturn : turns m = .act i outcome) :
    (c.act outcome (race.after turns m).service).1.result?
      = some (.error (.refused (.conflict key))) := by
  have hmemory := h.inMemory.after turns m
  subst hkey
  cases hstage : c.stage with
  | timed now =>
    -- The lookup finds the record: if it did not, it would evict it.
    have hfound : ((race.after turns m).index.lookup c.key now).found = some r := by
      rw [← Index.find?_lookup_self]
      have hkeeps := held_kept hmemory hheld (h.kept m hm)
      rw [held_step_eq hmemory, hturn] at hkeeps
      simpa only [touched, hc, Runner.touch, hstage] using hkeeps
    rw [Runner.act_of_found hmemory hstage hfound]
    simp [Runner.result?, Ne.symm hhash]
  | ran now expiresAt payload =>
    rw [Runner.act_of_ran hmemory hstage]
    have hne : ¬ ∀ held, (race.after turns m).index.find? c.key = some held →
        held.requestHash = c.requestHash := fun hall => hhash (hall r hheld).symm
    simp [Runner.result?, hne]
  | cleared now expiresAt => simp [Runner.atStore, hstage] at hstore
  | ended now given result => simp [Runner.atStore, hstage] at hstore

end Stretch

/-- Racing calls agree on one record. In a stretch of a race that starts with a
key free and in which nothing evicts its record, at most one put for the key
inserts a record, and that stays to the end. The calls on the key that start and
end in the stretch agree with it: those that succeed are of its request, and
have its payload or that of their own operation; those of another request that
come to the store after the insertion end in a conflict; and those of its
request end in a conflict only if their own operation gave that. -/
theorem single_owner (h : race.Stretch turns length key) :
    (∀ n < length, ∀ r, race.InsertsAt turns n r → r.key = key →
      (∀ m, n < m → m ≤ length → (race.after turns m).held key = some r)
        ∧ ∀ m < length, ∀ r', race.InsertsAt turns m r' → r'.key = key → m = n)
    ∧ ∀ i c result, race.calls[i]? = none → (race.after turns length).calls[i]? = some c →
      c.key = key → c.result? = some result →
      (∀ payload, result = .ok payload →
        ∃ n < length, ∃ r, race.InsertsAt turns n r ∧ r.key = key
          ∧ c.requestHash = r.requestHash
          ∧ ((∀ m < length, ∀ outcome, ¬ race.RunsAt turns m i outcome) → payload = r.payload)
          ∧ ∀ m < length, ∀ outcome, race.RunsAt turns m i outcome → outcome = .ok payload)
      ∧ ∀ n < length, ∀ r, race.InsertsAt turns n r → r.key = key →
        (c.requestHash ≠ r.requestHash → ∀ m, n < m → m < length → ∀ outcome c',
          turns m = .act i outcome → (race.after turns m).calls[i]? = some c' →
          c'.atStore = true → result = .error (.refused (.conflict key)))
        ∧ (c.requestHash = r.requestHash → ∀ k, result = .error (.refused (.conflict k)) →
          ∃ m < length, race.RunsAt turns m i result) := by
  constructor
  · intro n hn r hins hkey
    refine ⟨fun m hlt hm => h.held_of_insertsAt hlt hm hins hkey, ?_⟩
    intro m hm r' hins' hkey'
    rcases Nat.lt_trichotomy n m with hlt | heq | hgt
    · exact (h.not_insertsAt_after hlt hm hins hkey hins' hkey').elim
    · exact heq.symm
    · exact (h.not_insertsAt_after hgt hn hins' hkey' hins hkey).elim
  · intro i c result hnew hc hkey hresult
    have hsettled := h.settled (Nat.le_refl length) hc hkey (by simp [hnew])
    constructor
    · rintro payload rfl
      obtain ⟨r, hheld, hhash, hgiven⟩ := hsettled.ok payload hresult
      obtain ⟨n, hn, hins, hrkey, _⟩ := exists_insertsAt h.inMemory h.free hheld
      refine ⟨n, hn, r, hins, hrkey, hhash.symm, ?_, ?_⟩
      · intro hnever
        cases hown : c.given? with
        | none =>
          rw [hown] at hgiven
          cases hgiven
          rfl
        | some given =>
          obtain ⟨m, hm, hruns⟩ := exists_runs hnew hc hown
          exact absurd hruns (hnever m hm given)
      · intro m hm outcome hruns
        rw [given_of_runs hruns hm hc] at hgiven
        exact hgiven
    · intro n hn r hins hrkey
      constructor
      -- The call that acts in turn `m` is the one that is over at the end.
      · intro hhash m hnm hm outcome c' hturn hc' hstore
        obtain ⟨hsamekey, hsamehash⟩ := request_stays hc' (Nat.le_of_lt hm) hc
        have hheld := h.held_of_insertsAt hnm (Nat.le_of_lt hm) hins hrkey
        have hconflict := h.conflict_of_act hm hheld hc' (hsamekey.symm.trans hkey)
          (hsamehash ▸ hhash) hstore outcome hturn
        have hact := call_act outcome hc'
        rw [← hturn] at hact
        have hstays := over_stays (n := m + 1) hact (by rw [hconflict]; simp) hm
        rw [hc] at hstays
        cases hstays
        exact Option.some.inj (hresult.symm.trans hconflict)
      · rintro hhash k rfl
        have hheld := h.held_of_insertsAt hn (Nat.le_refl length) hins hrkey
        rcases hsettled.conflict k hresult with hown | ⟨r', hheld', hne⟩
        · exact exists_runs hnew hc (hown.trans hresult)
        · rw [hheld] at hheld'
          cases hheld'
          exact absurd hhash.symm hne

/-- Two calls of different requests that both find their key free and both run
their operations. The second is the first to put its payload. -/
def crossing : Nat → Turn Empty := fun n =>
  [.start 0 "key" "buy", .start 1 "key" "sell", .act 0 (.ok []), .act 1 (.ok []),
    .act 0 (.ok [1]), .act 1 (.ok [2]), .act 1 (.ok []), .act 0 (.ok [])].getD n (.purge .first)

/-- Only the second call inserts a record, and the first one can end in no other way
than with a conflict. -/
theorem single_owner_crossing :
    let race : Race Empty := .fresh { seconds := 0, nanos := 0 } [.new "trades", .new "orders"]
    race.Stretch crossing 8 "key"
      ∧ (∀ m < 8, ∀ r, race.InsertsAt crossing m r → r.key = "key" → m = 6)
      ∧ ∀ c, (race.after crossing 8).calls[0]? = some c → ∀ result, c.result? = some result →
          result = .error (.refused (.conflict "key")) := by
  intro race
  let later : Instant := { seconds := 604800, nanos := 0 }
  have h : race.Stretch crossing 8 "key" := ⟨inMemory_fresh _ _, rfl, by decide⟩
  have hins : race.InsertsAt crossing 6 ⟨"key", "sell", [2], later⟩ := by
    unfold InsertsAt Inserts
    decide
  refine ⟨h, ((single_owner h).1 6 (by decide) _ hins rfl).2, ?_⟩
  intro c hc result hresult
  have hput : (race.after crossing 7).calls[0]?.map Runner.atStore = some true := by decide
  obtain ⟨c', hc', hstore⟩ := Option.map_eq_some_iff.1 hput
  have hrequest : (race.after crossing 8).calls[0]?.map (fun c => (c.key, c.requestHash))
      = some ("key", "buy") := by decide
  rw [hc] at hrequest
  obtain ⟨hkey, hhash⟩ := Prod.mk.inj (Option.some.inj hrequest)
  have hcall := ((single_owner h).2 0 c result rfl hc hkey hresult).2 6 (by decide) _ hins rfl
  exact hcall.1 (by rw [hhash]; decide) 7 (by decide) (by decide) _ c' rfl hc' hstore

end Race

end Idempotency
