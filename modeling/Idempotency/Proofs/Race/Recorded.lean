import Idempotency.Proofs.Race.Turns

/-!
# `Idempotency.Proofs.Race.Recorded`: what a key holds once a call has put its payload

A put takes no notice of the time: it relies on the lookup before it to have
dropped what had expired. In a race another call may put a record in between,
and it may be so late with that that its record has expired already. The put
then loses to a record that does not count any more.

`put_recorded` says exactly when that happens, for a race that starts with an
empty store and whose clock never goes back. A put that does not insert its
record loses to one that another call has put after the lookup. That record
counts at the instant the losing call has read exactly if the instant is not
after what the winner has read and the lifetime that the winner's guard gives.
A record that was in time when it was put always counts. The call may succeed in
either case. If the record counts, the same call made again at that instant is
answered with it; if not, it runs its operation again.

The proof traces the record under a key to the turn that inserted it, and a call
to its lookup. The one comes after the other (`Forward.exists_miss_before`), which
puts the instants in order.
-/

set_option autoImplicit false

namespace Idempotency

variable {ε : Type}

/-- The instant that the call has read, and the one its record is to expire at,
from when its key was free until it is over. -/
def Runner.terms? (c : Runner ε) : Option (Instant × Instant) :=
  match c.stage with
  | .cleared now expiresAt | .ran now expiresAt _ => some (now, expiresAt)
  | _ => none

namespace Race

/-- The clock never goes back. -/
def Forward (race : Race ε) (turns : Nat → Turn ε) : Prop :=
  ∀ n moment, turns n = .clock moment → (race.after turns n).service.now ≤ moment

/-- In a turn, a call that has read the clock at an instant looks its key up and
finds it free. From then on its record is to expire at a set instant. -/
structure Misses (race : Race ε) (turns : Nat → Turn ε) (g i : Nat) (c : Runner ε)
    (read expiresAt : Instant) : Prop where
  turn : ∃ outcome, turns g = .act i outcome
  before : (race.after turns g).calls[i]? = some { c with stage := .timed read }
  free : (race.after turns (g + 1)).held c.key = none
  cleared : (race.after turns (g + 1)).calls[i]?
    = some { c with stage := .cleared read expiresAt }

/-- In a turn, a call that has read the clock at an instant puts a record, and
the store stores it. The record expires when the lifetime that the call's guard
gives has passed since that instant. -/
structure Wins (race : Race ε) (turns : Nat → Turn ε) (m j number : Nat) (read : Instant)
    (r : Record) : Prop where
  inserts : race.InsertsAt turns m r
  turn : ∃ outcome, turns m = .act j outcome
  call : (race.after turns m).calls[j]?
    = some ⟨number, r.key, r.requestHash, .ran read r.expiresAt r.payload⟩
  expires : read.add? (race.service.guard number).lifetime = some r.expiresAt

end Race

/-! ### Turns of a call before it is over -/

namespace Runner

variable {s : Service} {ix : Index} {c : Runner ε} {outcome : Except (Failure ε) Bytes}
  {read expiresAt : Instant}

/-- The terms of a call whose operation has given its payload. -/
theorem terms_of_ran {payload : Bytes} (hstage : c.stage = .ran read expiresAt payload) :
    c.terms? = some (read, expiresAt) := by
  simp only [terms?, hstage]

/-- A call reads the clock once, when it starts. -/
theorem stage_act_ne_timed : (c.act outcome s).1.stage ≠ .timed read := by
  obtain ⟨number, key, requestHash, stage⟩ := c
  cases stage with
  | timed now =>
    simp only [act]
    cases s.enter (ε := ε) number key requestHash now with
    | mk entrance s' => cases entrance <;> simp
  | cleared now expiresAt => cases outcome <;> simp [act]
  | ran now expiresAt payload => simp [act]
  | ended now given result => simp [act]

/-- A turn changes nothing of a call but its stage. -/
theorem withStage_act (c : Runner ε) (outcome : Except (Failure ε) Bytes) (s : Service)
    (stage : Stage ε) : { (c.act outcome s).1 with stage } = { c with stage } := by
  rw [act_eq]

/-- The terms of a call are set in its lookup, if that finds nothing. -/
theorem terms_act (h : s.Holds ix) (hterms : (c.act outcome s).1.terms? = some (read, expiresAt)) :
    c.terms? = some (read, expiresAt)
      ∨ (c.stage = .timed read ∧ (ix.lookup c.key read).found = none
          ∧ read.add? (s.guard c.number).lifetime = some expiresAt
          ∧ (c.act outcome s).1 = { c with stage := .cleared read expiresAt }) := by
  cases hstage : c.stage with
  | timed now =>
    cases hfound : (ix.lookup c.key now).found with
    | some r =>
      rw [act_of_found h hstage hfound] at hterms
      exact nomatch hterms
    | none =>
      have hact : (c.act outcome s).1 = _ := act_of_missed h hstage hfound
      cases hadd : now.add? (s.guard c.number).lifetime with
      | none =>
        rw [hact, hadd] at hterms
        exact nomatch hterms
      | some e =>
        rw [hadd] at hact
        rw [hact] at hterms
        cases hterms
        exact .inr ⟨rfl, hfound, hadd, hact⟩
  | cleared now e =>
    rw [act_of_cleared hstage] at hterms
    cases outcome with
    | error failure => exact nomatch hterms
    | ok payload =>
      cases hterms
      exact .inl (by simp [terms?, hstage])
  | ran now e payload =>
    rw [act_of_ran h hstage] at hterms
    exact nomatch hterms
  | ended now given result =>
    rw [act_of_over (by simp [result?, hstage])] at hterms
    simp [terms?, hstage] at hterms

end Runner

namespace Race

variable {race : Race ε} {turns : Nat → Turn ε} {n m i : Nat} {c : Runner ε}
  {read expiresAt : Instant}

/-! ### The clock and the lifetimes in a run -/

/-- Only a turn of the clock moves the clock. -/
theorem now_step (race : Race ε) (turn : Turn ε) (hturn : ∀ moment, turn ≠ .clock moment) :
    (race.step turn).service.now = race.service.now := by
  cases turn with
  | clock moment => exact absurd rfl (hturn moment)
  | purge moment => exact (Service.keeps_purge race.service moment).now
  | start number key requestHash => rfl
  | act i outcome =>
    simp only [step]
    cases race.calls[i]? with
    | none => rfl
    | some c => exact (Runner.keeps_act race.service c outcome).now

/-- No turn changes the lifetime that a guard gives. -/
theorem lifetime_step (race : Race ε) (turn : Turn ε) (number : Nat) :
    ((race.step turn).service.guard number).lifetime
      = (race.service.guard number).lifetime := by
  cases turn with
  | clock moment => rfl
  | purge moment => exact (Service.keeps_purge race.service moment).lifetime number
  | start _ key requestHash => rfl
  | act i outcome =>
    simp only [step]
    cases race.calls[i]? with
    | none => rfl
    | some c => exact (Runner.keeps_act race.service c outcome).lifetime number

/-- Guards keep the lifetimes that they give. -/
theorem lifetime_after (race : Race ε) (turns : Nat → Turn ε) (n number : Nat) :
    ((race.after turns n).service.guard number).lifetime
      = (race.service.guard number).lifetime := by
  induction n with
  | zero => rfl
  | succ n ih => rw [after, lifetime_step, ih]

/-- With a clock that never goes back, later turns are not earlier in time. -/
theorem Forward.now_mono (hforward : race.Forward turns) (hle : n ≤ m) :
    (race.after turns n).service.now ≤ (race.after turns m).service.now := by
  induction m, hle using Nat.le_induction with
  | base => exact le_refl _
  | succ m hle ih =>
    refine le_trans ih ?_
    by_cases hturn : ∃ moment, turns m = .clock moment
    · obtain ⟨moment, hturn⟩ := hturn
      have hmoment := hforward m moment hturn
      rw [after, hturn]
      exact hmoment
    · rw [after, now_step _ _ (by simpa using hturn)]

/-! ### The lookup of a call -/

/-- The lookup of a call stays its lookup when the call takes a turn. -/
theorem Misses.act {g : Nat} (h : race.Misses turns g i c read expiresAt)
    (outcome : Except (Failure ε) Bytes) (s : Service) :
    race.Misses turns g i (c.act outcome s).1 read expiresAt where
  turn := h.turn
  before := by rw [Runner.withStage_act, h.before]
  free := by rw [Runner.key_act, h.free]
  cleared := by rw [Runner.withStage_act, h.cleared]

/-- A call that is to look its key up has read the clock. -/
theorem Forward.read_le_now (hforward : race.Forward turns) (hnew : race.calls[i]? = none)
    (hc : (race.after turns n).calls[i]? = some c) (hstage : c.stage = .timed read) :
    read ≤ (race.after turns n).service.now := by
  induction n with
  | zero =>
    rw [show (race.after turns 0).calls[i]? = none from hnew] at hc
    exact nomatch hc
  | succ n ih =>
    rcases call_step hc with hsame | ⟨_, number, key, requestHash, hturn, rfl⟩ |
      ⟨outcome, d, _, _, rfl⟩
    · exact le_trans (ih hsame) (hforward.now_mono (Nat.le_succ n))
    · cases hstage
      rw [after, now_step _ _ (by simp [hturn])]
    · exact absurd hstage Runner.stage_act_ne_timed

/-- A call whose terms are set has found its key free in an earlier turn of the
run. Its record expires when the lifetime has passed since it read the clock. -/
theorem Forward.exists_miss (hforward : race.Forward turns) (h : race.InMemory)
    (hnew : race.calls[i]? = none) (hc : (race.after turns n).calls[i]? = some c)
    (hterms : c.terms? = some (read, expiresAt)) :
    (∃ g < n, race.Misses turns g i c read expiresAt ∧ read ≤ (race.after turns g).service.now)
      ∧ read.add? (race.service.guard c.number).lifetime = some expiresAt := by
  induction n generalizing c with
  | zero =>
    rw [show (race.after turns 0).calls[i]? = none from hnew] at hc
    exact nomatch hc
  | succ n ih =>
    -- The terms were set before the last turn, or in it by the lookup.
    have hearlier : ∀ {d : Runner ε}, (race.after turns n).calls[i]? = some d →
        d.terms? = some (read, expiresAt) →
        (∃ g < n + 1, race.Misses turns g i d read expiresAt
            ∧ read ≤ (race.after turns g).service.now)
          ∧ read.add? (race.service.guard d.number).lifetime = some expiresAt := by
      intro d hd hterms
      obtain ⟨⟨g, hg, hrest⟩, hadd⟩ := ih hd hterms
      exact ⟨⟨g, by omega, hrest⟩, hadd⟩
    rcases call_step hc with hsame | ⟨_, number, key, requestHash, _, rfl⟩ |
      ⟨outcome, d, hturn, hd, rfl⟩
    · exact hearlier hsame hterms
    · exact nomatch hterms
    · have hmemory := h.after turns n
      rw [Runner.number_act]
      rcases Runner.terms_act hmemory hterms with hset | ⟨hstage, hfound, hadd, hact⟩
      · obtain ⟨⟨g, hg, hmisses, hread⟩, hadd⟩ := hearlier hd hset
        exact ⟨⟨g, hg, hmisses.act outcome _, hread⟩, hadd⟩
      · rw [lifetime_after] at hadd
        refine ⟨⟨n, Nat.lt_succ_self n, ?_, hforward.read_le_now hnew hd hstage⟩, hadd⟩
        refine Misses.act ⟨⟨outcome, hturn⟩, ?_, ?_, ?_⟩ outcome _
        · rw [hd, ← hstage]
        · rw [after, held_step_eq hmemory, hturn]
          simp only [touched, hd, Runner.touch, hstage]
          rw [Index.find?_lookup_self, hfound]
        · rw [after, hturn, call_act outcome hd, hact]

/-! ### The record that a key holds -/

/-- What a key holds in a race that started with an empty store has been put by
a call, and the key has held it since. -/
theorem Forward.exists_wins (hforward : race.Forward turns) (h : race.InMemory)
    (hnew : race.calls = []) {key : String} (hfree : race.held key = none) {r : Record}
    (hheld : (race.after turns n).held key = some r) :
    ∃ m < n, ∃ j number read, race.Wins turns m j number read r
      ∧ ∀ k, m < k → k ≤ n → (race.after turns k).held key = some r := by
  obtain ⟨m, hlt, hins, _, hsince⟩ := exists_insertsAt h hfree hheld
  obtain ⟨j, outcome, d, read, expiresAt, payload, hturn, hd, hstage, rfl⟩ :=
    exists_of_puts hins.1
  have hadd := (hforward.exists_miss h (by simp [hnew]) hd (Runner.terms_of_ran hstage)).2
  refine ⟨m, hlt, j, d.number, read, ⟨hins, ⟨outcome, hturn⟩, ?_, hadd⟩, hsince⟩
  rw [hd, Runner.record, ← hstage]

/-- While a call is on its way from its lookup to its put, what its key holds
has been put after the lookup. -/
theorem Forward.exists_miss_before (hforward : race.Forward turns) (h : race.InMemory)
    (hnew : race.calls[i]? = none) (hc : (race.after turns n).calls[i]? = some c)
    (hterms : c.terms? = some (read, expiresAt)) {r : Record}
    (hsince : ∀ k, m < k → k ≤ n → (race.after turns k).held c.key = some r) :
    ∃ g < m, race.Misses turns g i c read expiresAt
      ∧ read ≤ (race.after turns m).service.now := by
  obtain ⟨⟨g, hg, hmisses, hread⟩, _⟩ := hforward.exists_miss h hnew hc hterms
  -- Had the record been put before the lookup, the key would not have been free.
  have hgm : g < m := by
    by_contra hle
    have hheld := hsince (g + 1) (by omega) (by omega)
    rw [hmisses.free] at hheld
    exact nomatch hheld
  exact ⟨g, hgm, hmisses, le_trans hread (hforward.now_mono (Nat.le_of_lt hgm))⟩

/-- A call that has put its record is over, so that it does not lose to that. -/
theorem ne_of_wins {j number : Nat} {read' : Instant} {r : Record} (h : race.InMemory)
    (hwins : race.Wins turns m j number read' r) (hlt : m < n)
    (hc : (race.after turns n).calls[i]? = some c) (hrunning : c.result? = none) : j ≠ i := by
  rintro rfl
  obtain ⟨outcome, hturn⟩ := hwins.turn
  have hact := call_act outcome hwins.call
  rw [← hturn, Runner.act_of_ran (h.after turns m) rfl] at hact
  have hstays := over_stays (n := m + 1) hact (by simp [Runner.result?]) hlt
  rw [hc] at hstays
  cases hstays
  cases hrunning

/-- The same call made at an instant, while its key holds a record of its
request: the record answers it if it counts. -/
theorem enter_of_held (h : race.InMemory) {key requestHash : String} {r : Record}
    (hheld : race.held key = some r) (hhash : r.requestHash = requestHash)
    (hle : read ≤ r.expiresAt) (number : Nat) :
    (race.service.enter (ε := ε) number key requestHash read).1 = .answered (.ok r.payload) := by
  have hfound : (race.index.lookup key read).found = some r :=
    Index.found_eq_some_iff.2 ⟨hheld, Record.not_isExpiredAt_iff.2 hle⟩
  rw [Service.enter_of_found h hfound, if_pos hhash]

/-- If it has expired, it does not keep the operation from running. -/
theorem enter_of_expired (h : race.InMemory) {key requestHash : String} {r : Record}
    (hheld : race.held key = some r) (hlt : r.expiresAt < read) {number : Nat}
    (hadd : read.add? (race.service.guard number).lifetime = some expiresAt) :
    (race.service.enter (ε := ε) number key requestHash read).1 = .cleared expiresAt := by
  have hfound : (race.index.lookup key read).found = none := by
    refine Index.found_eq_none_iff.2 fun r' hr' => ?_
    rw [show race.index.find? key = some r from hheld] at hr'
    cases hr'
    exact Record.isExpiredAt_iff.2 hlt
  rw [Service.enter_of_missed h hfound, hadd]

/-! ### A put -/

/-- A put leaves the key with a record, its own if the key was free, and ends
the call by it. -/
theorem put_step (h : race.InMemory) (outcome : Except (Failure ε) Bytes) {payload : Bytes}
    (hc : race.calls[i]? = some c) (hstage : c.stage = .ran read expiresAt payload) :
    ∃ r, (race.step (.act i outcome)).held c.key = some r
      ∧ (race.Inserts (.act i outcome) (c.record expiresAt payload)
            ∧ r = c.record expiresAt payload
          ∨ ¬ race.Inserts (.act i outcome) (c.record expiresAt payload)
            ∧ race.held c.key = some r)
      ∧ (race.step (.act i outcome)).calls[i]?.bind Runner.result?
          = some (if r.requestHash = c.requestHash then .ok payload
              else .error (.refused (.conflict c.key))) := by
  have hputs : race.puts (.act i outcome) = some (c.record expiresAt payload) := by
    simp [puts, hc, Runner.pending, hstage]
  have hstep := held_step_eq h (.act i outcome) c.key
  simp only [touched, hc, Runner.touch, hstage] at hstep
  rw [call_act outcome hc, Runner.act_of_ran h hstage]
  cases hheld : race.held c.key with
  | none =>
    have hfree : race.index.find? c.key = none := hheld
    have hins := (inserts_iff h).2 ⟨hputs, hheld⟩
    have hafter := held_of_inserts h hins
    refine ⟨c.record expiresAt payload, hafter, .inl ⟨hins, rfl⟩, ?_⟩
    simp [Runner.result?, Runner.record, hfree]
  | some r =>
    have hfind : race.index.find? c.key = some r := hheld
    rw [hfind, if_neg (by simp)] at hstep
    refine ⟨r, hstep.trans hfind, .inr ⟨?_, rfl⟩, ?_⟩
    · intro hins
      have hfree : race.held c.key = none := ((inserts_iff h).1 hins).2
      rw [hheld] at hfree
      cases hfree
    · simp [Runner.result?, hfind]

/-- What a put does, in a race that starts with an empty store and whose clock
never goes back. Afterwards the key holds a record `r`, by whose request the
call succeeds or ends in a conflict.

- It is the call's own, which counts at the instant that the call has read; or it
  is the one that the put has lost to. Another call has put that after the lookup
  in which this call found the key free, and at an instant not before the one
  that this call has read. It counts at this if and only if this is not after
  the instant that the other call has read and the lifetime of its guard. So it
  does if the other call put it in time.
- If `r` is of the request and counts, the call made again at that instant, by any
  guard, is answered with it.
- If it does not count, the call made again runs its operation again. -/
theorem put_recorded {start : Instant} {guards : List Guard}
    (hforward : (fresh start guards).Forward turns)
    {payload : Bytes} {outcome : Except (Failure ε) Bytes} (hturn : turns n = .act i outcome)
    (hc : ((fresh start guards).after turns n).calls[i]? = some c)
    (hstage : c.stage = .ran read expiresAt payload) :
    ∃ r, ((fresh start guards).after turns (n + 1)).held c.key = some r
      ∧ ((fresh start guards).InsertsAt turns n (c.record expiresAt payload)
            ∧ r = c.record expiresAt payload ∧ r.isExpiredAt read = false
          ∨ ¬ (fresh start guards).InsertsAt turns n (c.record expiresAt payload)
            ∧ ((fresh start guards).after turns n).held c.key = some r
            ∧ ∃ g m, g < m ∧ m < n
              ∧ (fresh start guards).Misses turns g i c read expiresAt
              ∧ ∃ j ≠ i, ∃ number read', (fresh start guards).Wins turns m j number read' r
                ∧ read ≤ ((fresh start guards).after turns m).service.now
                ∧ (r.isExpiredAt read = false
                  ↔ ∃ deadline, read'.add? ((fresh (ε := ε) start guards).service.guard
                      number).lifetime = some deadline ∧ read ≤ deadline)
                ∧ (((fresh start guards).after turns m).service.now ≤ r.expiresAt →
                    r.isExpiredAt read = false))
      ∧ ((fresh start guards).after turns (n + 1)).calls[i]?.bind Runner.result?
          = some (if r.requestHash = c.requestHash then .ok payload
              else .error (.refused (.conflict c.key)))
      ∧ (r.requestHash = c.requestHash → r.isExpiredAt read = false → ∀ number,
          (((fresh start guards).after turns (n + 1)).service.enter (ε := ε) number c.key
            c.requestHash read).1 = .answered (.ok r.payload))
      ∧ (r.isExpiredAt read = true →
          (((fresh start guards).after turns (n + 1)).service.enter (ε := ε) c.number c.key
            c.requestHash read).1 = .cleared expiresAt) := by
  have hmemory : (fresh (ε := ε) start guards).InMemory := inMemory_fresh start guards
  have hterms := Runner.terms_of_ran hstage
  have hadd := (hforward.exists_miss hmemory rfl hc hterms).2
  obtain ⟨r, hheld, hwhose, hresult⟩ := put_step (hmemory.after turns n) outcome hc hstage
  rw [← hturn] at hheld hwhose hresult
  refine ⟨r, hheld, ?_, hresult, ?_, ?_⟩
  · rcases hwhose with ⟨hins, hown⟩ | ⟨hlost, hbefore⟩
    -- The own record expires a positive length of time after the clock was read.
    · refine .inl ⟨hins, hown, Record.not_isExpiredAt_iff.2 ?_⟩
      rw [hown]
      exact le_of_lt (Instant.lt_of_add? (Guard.lifetime_pos _) hadd)
    · obtain ⟨m, hlt, j, number, read', hwins, hsince⟩ :=
        hforward.exists_wins hmemory rfl rfl hbefore
      obtain ⟨g, hgm, hmisses, hread⟩ :=
        hforward.exists_miss_before hmemory rfl hc hterms hsince
      have hrunning : c.result? = none := by simp [Runner.result?, hstage]
      refine .inr ⟨hlost, hbefore, g, m, hgm, hlt, hmisses, j,
        ne_of_wins hmemory hwins hlt hc hrunning, number, read', hwins, hread, ?_, ?_⟩
      · simp only [hwins.expires, Option.some.injEq, exists_eq_left']
        exact Record.not_isExpiredAt_iff
      · intro hintime
        exact Record.not_isExpiredAt_iff.2 (le_trans hread hintime)
  · intro hhash hlive number
    exact enter_of_held (hmemory.after turns (n + 1)) hheld hhash
      (Record.not_isExpiredAt_iff.1 hlive) number
  · intro hexpired
    refine enter_of_expired (hmemory.after turns (n + 1)) hheld
      (Record.isExpiredAt_iff.1 hexpired) ?_
    rw [lifetime_after]
    exact hadd

/-- A guard whose records count for a second, and one with the usual lifetime. -/
def hasty : List Guard := [(Guard.new "orders").withLifetime (.ofSeconds 1), .new "orders"]

/-- Two calls of one request. The first reads the clock at zero and finds the key
free, the second does so ten seconds later. Then both run their operations, and
the first puts its payload first. -/
def overdue : Nat → Turn Empty := fun n =>
  [.start 0 "key" "buy", .act 0 (.ok []), .clock { seconds := 10, nanos := 0 },
    .start 1 "key" "buy", .act 1 (.ok []), .act 0 (.ok [1]), .act 1 (.ok [1]),
    .act 0 (.ok []), .act 1 (.ok [])].getD n (.purge .first)

/-- The clock goes from zero to ten seconds, and does not go back. -/
theorem forward_overdue :
    (fresh (ε := Empty) { seconds := 0, nanos := 0 } hasty).Forward overdue := by
  intro n moment hturn
  match n, hturn with
  | 2, hturn =>
    cases hturn
    decide
  | 0, hturn | 1, hturn | 3, hturn | 4, hturn | 5, hturn | 6, hturn | 7, hturn | 8, hturn =>
    exact nomatch hturn
  | n + 9, hturn => exact nomatch hturn

/-- The second call's put is under way. Its key holds a record afterwards, and if that
does not count, the second call made again runs its operation again. -/
theorem put_recorded_overdue :
    let race : Race Empty := .fresh { seconds := 0, nanos := 0 } hasty
    let read : Instant := { seconds := 10, nanos := 0 }
    let own : Record := ⟨"key", "buy", [1], { seconds := 604810, nanos := 0 }⟩
    race.Forward overdue
      ∧ overdue 8 = .act 1 (.ok [])
      ∧ (race.after overdue 8).calls[1]? = some ⟨1, "key", "buy", .ran read own.expiresAt [1]⟩
      ∧ ∃ r, (race.after overdue 9).held "key" = some r
        ∧ (r.isExpiredAt read = true →
            ((race.after overdue 9).service.enter (ε := Empty) 1 "key" "buy" read).1
              = .cleared own.expiresAt) := by
  intro race read own
  have hc : (race.after overdue 8).calls[1]?
      = some ⟨1, "key", "buy", .ran read own.expiresAt [1]⟩ := by decide
  obtain ⟨r, hheld, _, _, _, hexpired⟩ := put_recorded (n := 8) forward_overdue rfl hc rfl
  exact ⟨forward_overdue, rfl, hc, r, hheld, hexpired⟩

/-- The second call loses to a record that does not count any more at the instant
that it has read. It succeeds, and made again it runs its operation again. -/
theorem overdue_expired :
    let race : Race Empty := .fresh { seconds := 0, nanos := 0 } hasty
    let read : Instant := { seconds := 10, nanos := 0 }
    let own : Record := ⟨"key", "buy", [1], { seconds := 604810, nanos := 0 }⟩
    let held : Record := ⟨"key", "buy", [1], { seconds := 1, nanos := 0 }⟩
    race.Forward overdue
      ∧ overdue 8 = .act 1 (.ok [])
      ∧ (race.after overdue 8).calls[1]? = some ⟨1, "key", "buy", .ran read own.expiresAt [1]⟩
      ∧ ((race.after overdue 8).service.guardedPut own).1 = .ok .duplicate
      ∧ (race.after overdue 8).held "key" = some held
      ∧ held.isExpiredAt read = true
      ∧ (race.after overdue 9).calls[1]?.bind Runner.result? = some (.ok [1])
      ∧ (race.after overdue 9).held "key" = some held
      ∧ ((race.after overdue 9).service.enter (ε := Empty) 1 "key" "buy" read).1
          = .cleared own.expiresAt := by
  refine ⟨forward_overdue, rfl, ?_⟩
  decide

end Race

end Idempotency
