import Mathlib.Data.Nat.Init
import Idempotency.Proofs.Race.Basic

/-!
# `Idempotency.Proofs.Race.Turns`: what a turn of a race does

For a store in memory, a turn does this:

* `index_step`: what it does to the records.
* `held_step`: a key keeps what it holds, or the turn inserts a record under it,
  or the turn evicts its record.
* `call_step`: only its own turns change a call. What they make of it is in
  `act_of_found`, `act_of_missed`, `act_of_cleared` and `act_of_ran`.

In a run, what a key holds has been inserted (`exists_insertsAt`). A call stays
under its key and for its request (`request_stays`), what it ends with stays
(`over_stays`), and what it says that its operation gave is the outcome of the
turn in which that ran (`given_of_runs`, `exists_runs`).
-/

set_option autoImplicit false

namespace Idempotency

variable {ε : Type}

/-! ### What a turn does to the records -/

namespace Runner

variable {s : Service} {ix : Index} {c : Runner ε}

/-- A turn of a call changes the records as its stage says. -/
theorem holds_act (h : s.Holds ix) (c : Runner ε) (outcome : Except (Failure ε) Bytes) :
    (c.act outcome s).2.Holds (c.touch ix) := by
  obtain ⟨number, key, requestHash, stage⟩ := c
  cases stage with
  | timed now =>
    have hholds := h.enter (ε := ε) number key requestHash now
    simp only [act, touch]
    cases henter : s.enter (ε := ε) number key requestHash now with
    | mk entrance s' =>
      rw [henter] at hholds
      cases entrance with
      | answered result => exact hholds
      | cleared expiresAt => exact hholds
  | cleared now expiresAt =>
    cases outcome with
    | error failure => exact h.abandon number key
    | ok payload => exact h
  | ran now expiresAt payload => exact h.settle number _
  | ended now given result => exact h

/-- A turn of a call neither moves the clock nor changes how long records last. -/
theorem keeps_act (s : Service) (c : Runner ε) (outcome : Except (Failure ε) Bytes) :
    s.Keeps (c.act outcome s).2 := by
  obtain ⟨number, key, requestHash, stage⟩ := c
  cases stage with
  | timed now =>
    have hkeeps := Service.keeps_enter (ε := ε) s number key requestHash now
    simp only [act]
    cases henter : s.enter (ε := ε) number key requestHash now with
    | mk entrance s' =>
      rw [henter] at hkeeps
      cases entrance with
      | answered result => exact hkeeps
      | cleared expiresAt => exact hkeeps
  | cleared now expiresAt =>
    cases outcome with
    | error failure => exact Service.keeps_abandon s number key
    | ok payload => exact .refl s
  | ran now expiresAt payload => exact Service.keeps_settle s number _
  | ended now given result => exact .refl s

end Runner

namespace Race

variable {race : Race ε}

/-- After a turn, the service has the records that `touched` says, in memory. -/
theorem holds_step (h : race.InMemory) (turn : Turn ε) :
    (race.step turn).service.Holds (race.touched turn) := by
  cases turn with
  | clock moment => exact ⟨h.store, h.outage⟩
  | purge moment => exact Service.Holds.purge h moment
  | start number key requestHash => exact h
  | act i outcome =>
    simp only [step, touched]
    cases race.calls[i]? with
    | none => exact h
    | some c => exact Runner.holds_act h c outcome

/-- After a turn, the records are those that `touched` says. -/
theorem index_step (h : race.InMemory) (turn : Turn ε) :
    (race.step turn).index = race.touched turn := by
  have hstore := (holds_step h turn).store
  simp only [index, hstore, Store.index]

/-- A turn leaves the records in memory. -/
theorem InMemory.step (h : race.InMemory) (turn : Turn ε) : (race.step turn).InMemory := by
  have hholds := holds_step h turn
  rw [← index_step h turn] at hholds
  exact hholds

/-- So do any number of turns. -/
theorem InMemory.after (h : race.InMemory) (turns : Nat → Turn ε) (n : Nat) :
    (race.after turns n).InMemory := by
  induction n with
  | zero => exact h
  | succ n ih => exact ih.step (turns n)

/-- A record is put by a call whose operation has given its payload. -/
theorem exists_of_puts {turn : Turn ε} {r : Record} (hputs : race.puts turn = some r) :
    ∃ i outcome c now expiresAt payload, turn = .act i outcome ∧ race.calls[i]? = some c
      ∧ c.stage = .ran now expiresAt payload ∧ r = c.record expiresAt payload := by
  cases turn with
  | clock moment => exact nomatch hputs
  | purge moment => exact nomatch hputs
  | start number key requestHash => exact nomatch hputs
  | act i outcome =>
    simp only [puts, Option.bind_eq_some_iff] at hputs
    obtain ⟨c, hc, hpending⟩ := hputs
    cases hstage : c.stage with
    | ran now expiresAt payload =>
      simp only [Runner.pending, hstage, Option.some.injEq] at hpending
      exact ⟨i, outcome, c, now, expiresAt, payload, rfl, hc, hstage, hpending.symm⟩
    | timed now => simp [Runner.pending, hstage] at hpending
    | cleared now expiresAt => simp [Runner.pending, hstage] at hpending
    | ended now given result => simp [Runner.pending, hstage] at hpending

/-- A record is inserted exactly if its key is free when it is put. -/
theorem inserts_iff (h : race.InMemory) {turn : Turn ε} {r : Record} :
    race.Inserts turn r ↔ race.puts turn = some r ∧ race.held r.key = none := by
  have hput := Service.guardedPut_placement h r
  have hplaced : (race.service.guardedPut r).1 = .ok .inserted ↔ race.held r.key = none := by
    rw [hput]
    unfold held
    cases hheld : race.index.find? r.key with
    | none => simp [Index.put_of_free hheld, Except.map]
    | some held =>
      rw [Index.put_of_held hheld]
      by_cases hhash : held.requestHash = r.requestHash
      · simp [hhash, Except.map]
      · simp [hhash, Except.map]
  unfold Inserts
  rw [hplaced]

/-- What a key holds after a turn is among the records that `touched` says. -/
theorem held_step_eq (h : race.InMemory) (turn : Turn ε) (key : String) :
    (race.step turn).held key = (race.touched turn).find? key := by
  rw [held, index_step h]

/-- A turn that only drops expired records leaves a key alone or evicts its
record. -/
theorem eq_or_evicts {turn : Turn ε} {key : String} {p : Record → Bool}
    (hstep : (race.step turn).held key = (race.held key).filter p) :
    (race.step turn).held key = race.held key ∨ race.Evicts turn key := by
  cases hheld : race.held key with
  | none =>
    rw [hheld] at hstep
    exact .inl hstep
  | some r =>
    rw [hheld] at hstep
    by_cases hp : p r = true
    · exact .inl (by rw [hstep, Option.filter_some, if_pos hp])
    · refine .inr ⟨by simp [hheld], ?_⟩
      rw [hstep, Option.filter_some, if_neg hp]

/-- What happens to a key in a turn: nothing, or a record is inserted under it,
or its record is evicted. -/
theorem held_step (h : race.InMemory) (turn : Turn ε) (key : String) :
    (race.step turn).held key = race.held key
      ∨ (∃ r, r.key = key ∧ race.Inserts turn r ∧ (race.step turn).held key = some r)
      ∨ race.Evicts turn key := by
  have hstep := held_step_eq h turn key
  cases turn with
  | clock moment => exact .inl hstep
  | start number k requestHash => exact .inl hstep
  | purge moment =>
    simp only [touched, Index.find?_live] at hstep
    exact (eq_or_evicts hstep).imp_right .inr
  | act i outcome =>
    cases hc : race.calls[i]? with
    | none =>
      simp only [touched, hc] at hstep
      exact .inl hstep
    | some c =>
      simp only [touched, hc, Runner.touch] at hstep
      cases hstage : c.stage with
      | timed now =>
        -- A lookup drops the record of its own key, or none.
        simp only [hstage, Index.find?_lookup] at hstep
        by_cases hk : key = c.key
        · subst hk
          rw [if_pos rfl] at hstep
          exact (eq_or_evicts hstep).imp_right .inr
        · rw [if_neg hk] at hstep
          exact .inl hstep
      | ran now expiresAt payload =>
        -- A put stores under its own key, if that is free.
        simp only [hstage] at hstep
        by_cases hfree : race.index.find? c.key = none
        · rw [if_pos hfree, Index.find?_store] at hstep
          by_cases hk : key = c.key
          · subst hk
            refine .inr (.inl ⟨c.record expiresAt payload, rfl, ?_, ?_⟩)
            · refine (inserts_iff h).2 ⟨?_, hfree⟩
              simp [puts, hc, Runner.pending, hstage]
            · rw [hstep]
              exact if_pos rfl
          · rw [if_neg (show ¬ key = (c.record expiresAt payload).key from hk)] at hstep
            exact .inl hstep
        · rw [if_neg hfree] at hstep
          exact .inl hstep
      | cleared now expiresAt =>
        simp only [hstage] at hstep
        exact .inl hstep
      | ended now given result =>
        simp only [hstage] at hstep
        exact .inl hstep

/-- A record that is inserted is what its key holds. -/
theorem held_of_inserts (h : race.InMemory) {turn : Turn ε} {r : Record}
    (hins : race.Inserts turn r) : (race.step turn).held r.key = some r := by
  obtain ⟨hputs, hfree⟩ := (inserts_iff h).1 hins
  obtain ⟨i, outcome, c, now, expiresAt, payload, rfl, hc, hstage, rfl⟩ := exists_of_puts hputs
  have hfree' : race.index.find? c.key = none := hfree
  rw [held_step_eq h]
  simp only [touched, hc, Runner.touch, hstage]
  rw [if_pos hfree', Index.find?_store, if_pos rfl]

/-! ### What a turn does to the calls -/

/-- A call in the race after a turn was there before and is as it was, or has
just started, or has taken the turn. -/
theorem call_step {turn : Turn ε} {i : Nat} {c' : Runner ε}
    (hc' : (race.step turn).calls[i]? = some c') :
    race.calls[i]? = some c'
      ∨ (race.calls[i]? = none ∧ ∃ number key requestHash,
          turn = .start number key requestHash
            ∧ c' = ⟨number, key, requestHash, .timed race.service.now⟩)
      ∨ ∃ outcome c, turn = .act i outcome ∧ race.calls[i]? = some c
          ∧ c' = (c.act outcome race.service).1 := by
  cases turn with
  | clock moment => exact .inl hc'
  | purge moment => exact .inl hc'
  | start number key requestHash =>
    simp only [step] at hc'
    -- The call that starts gets the first number that is not taken.
    rcases Nat.lt_trichotomy i race.calls.length with hlt | heq | hgt
    · rw [List.getElem?_append_left hlt] at hc'
      exact .inl hc'
    · subst heq
      rw [List.getElem?_concat_length] at hc'
      cases hc'
      exact .inr (.inl ⟨List.getElem?_eq_none (Nat.le_refl _), _, _, _, rfl, rfl⟩)
    · rw [List.getElem?_eq_none (by simp; omega)] at hc'
      cases hc'
  | act j outcome =>
    simp only [step] at hc'
    cases hj : race.calls[j]? with
    | none =>
      rw [hj] at hc'
      exact .inl hc'
    | some c =>
      rw [hj] at hc'
      by_cases hij : j = i
      · subst hij
        have hlt : j < race.calls.length := (List.getElem?_eq_some_iff.1 hj).1
        rw [List.getElem?_set_self hlt] at hc'
        cases hc'
        exact .inr (.inr ⟨outcome, c, rfl, hj, rfl⟩)
      · rw [List.getElem?_set_ne hij] at hc'
        exact .inl hc'

/-- The turn of a call. -/
theorem call_act {i : Nat} {c : Runner ε} (outcome : Except (Failure ε) Bytes)
    (hc : race.calls[i]? = some c) :
    (race.step (.act i outcome)).calls[i]? = some (c.act outcome race.service).1 := by
  have hlt : i < race.calls.length := (List.getElem?_eq_some_iff.1 hc).1
  simp only [step, hc]
  exact List.getElem?_set_self hlt

/-- A call stays as it is when it is not its turn. -/
theorem call_of_other {turn : Turn ε} {i : Nat} {c : Runner ε} (hc : race.calls[i]? = some c)
    (hother : ∀ outcome, turn ≠ .act i outcome) : (race.step turn).calls[i]? = some c := by
  have hlt : i < race.calls.length := (List.getElem?_eq_some_iff.1 hc).1
  cases turn with
  | clock moment => exact hc
  | purge moment => exact hc
  | start number key requestHash =>
    simp only [step]
    rw [List.getElem?_append_left hlt]
    exact hc
  | act j outcome =>
    have hij : j ≠ i := by
      rintro rfl
      exact hother outcome rfl
    simp only [step]
    cases hj : race.calls[j]? with
    | none => exact hc
    | some c' => rw [List.getElem?_set_ne hij, hc]

/-- A call stays as it is, or takes the turn. -/
theorem call_stays_or_acts {i : Nat} {c : Runner ε} (hc : race.calls[i]? = some c)
    (turn : Turn ε) :
    (race.step turn).calls[i]? = some c
      ∨ ∃ outcome, turn = .act i outcome
          ∧ (race.step turn).calls[i]? = some (c.act outcome race.service).1 := by
  by_cases hturn : ∃ outcome, turn = .act i outcome
  · obtain ⟨outcome, rfl⟩ := hturn
    exact .inr ⟨outcome, rfl, call_act outcome hc⟩
  · exact .inl (call_of_other hc (by simpa using hturn))

end Race

namespace Runner

variable {s : Service} {ix : Index} {c : Runner ε} {now : Instant}
  {outcome : Except (Failure ε) Bytes}

/-- A turn changes nothing of a call but how far it has got. -/
theorem act_eq (c : Runner ε) (outcome : Except (Failure ε) Bytes) (s : Service) :
    (c.act outcome s).1 = { c with stage := (c.act outcome s).1.stage } := by
  obtain ⟨number, key, requestHash, stage⟩ := c
  cases stage with
  | timed now =>
    simp only [act]
    cases s.enter (ε := ε) number key requestHash now with
    | mk entrance s' => cases entrance <;> rfl
  | cleared now expiresAt => cases outcome <;> rfl
  | ran now expiresAt payload => rfl
  | ended now given result => rfl

/-- A call goes through the same guard all the way. -/
@[simp] theorem number_act (c : Runner ε) (outcome : Except (Failure ε) Bytes) (s : Service) :
    (c.act outcome s).1.number = c.number := by
  rw [act_eq]

/-- A call has the same key all the way. -/
@[simp] theorem key_act (c : Runner ε) (outcome : Except (Failure ε) Bytes) (s : Service) :
    (c.act outcome s).1.key = c.key := by
  rw [act_eq]

/-- A call is of the same request all the way. -/
@[simp] theorem requestHash_act (c : Runner ε) (outcome : Except (Failure ε) Bytes)
    (s : Service) : (c.act outcome s).1.requestHash = c.requestHash := by
  rw [act_eq]

/-- A call that is over stays as it is. -/
theorem act_of_over (hover : c.result? ≠ none) : c.act outcome s = (c, s) := by
  cases hstage : c.stage with
  | ended now given result => simp only [act, hstage]
  | timed now => simp [result?, hstage] at hover
  | cleared now expiresAt => simp [result?, hstage] at hover
  | ran now expiresAt payload => simp [result?, hstage] at hover

/-- A call whose lookup finds a record is over with that. -/
theorem act_of_found (h : s.Holds ix) (hstage : c.stage = .timed now) {r : Record}
    (hfound : (ix.lookup c.key now).found = some r) :
    (c.act outcome s).1
      = { c with
          stage := .ended now none (if r.requestHash = c.requestHash then .ok r.payload
            else .error (.refused (.conflict c.key))) } := by
  have hanswer : (s.enter (ε := ε) c.number c.key c.requestHash now).1 = _ :=
    Service.enter_of_found h hfound
  obtain ⟨entrance, s', henter⟩ :
      ∃ entrance s', s.enter (ε := ε) c.number c.key c.requestHash now = (entrance, s') :=
    ⟨_, _, rfl⟩
  rw [henter] at hanswer
  simp only at hanswer
  simp only [act, hstage, henter, hanswer]

/-- A call whose lookup finds nothing is cleared, unless its record could not
expire. -/
theorem act_of_missed (h : s.Holds ix) (hstage : c.stage = .timed now)
    (hfound : (ix.lookup c.key now).found = none) :
    (c.act outcome s).1
      = { c with
          stage := match now.add? (s.guard c.number).lifetime with
            | some expiresAt => .cleared now expiresAt
            | none => .ended now none (.error (.refused
                (.expiryOverflow (s.guard c.number).lifetime.wholeSeconds))) } := by
  have hanswer : (s.enter (ε := ε) c.number c.key c.requestHash now).1 = _ :=
    Service.enter_of_missed h hfound
  obtain ⟨entrance, s', henter⟩ :
      ∃ entrance s', s.enter (ε := ε) c.number c.key c.requestHash now = (entrance, s') :=
    ⟨_, _, rfl⟩
  rw [henter] at hanswer
  simp only at hanswer
  simp only [act, hstage, henter, hanswer]
  cases now.add? (s.guard c.number).lifetime with
  | none => rfl
  | some expiresAt => rfl

/-- A call that gives the store its record ends with its own payload, unless
the key belongs to another request. -/
theorem act_of_ran (h : s.Holds ix) {expiresAt : Instant} {payload : Bytes}
    (hstage : c.stage = .ran now expiresAt payload) :
    (c.act outcome s).1
      = { c with
          stage := .ended now (some (.ok payload))
            (if ∀ held, ix.find? c.key = some held → held.requestHash = c.requestHash
              then .ok payload else .error (.refused (.conflict c.key))) } := by
  simp only [act, hstage]
  rw [Service.settle_result h]
  rfl

/-- What an operation gives is the outcome of the turn in which it runs. -/
theorem act_of_cleared {expiresAt : Instant} (hstage : c.stage = .cleared now expiresAt) :
    (c.act outcome s).1
      = { c with
          stage := match outcome with
            | .error failure => .ended now (some outcome) (.error failure)
            | .ok payload => .ran now expiresAt payload } := by
  simp only [act, hstage]
  cases outcome <;> rfl

/-- In the turn in which its operation runs, a call is given the outcome. -/
theorem given_act_of_cleared {expiresAt : Instant} (hstage : c.stage = .cleared now expiresAt) :
    (c.act outcome s).1.given? = some outcome := by
  rw [act_of_cleared hstage]
  cases outcome <;> rfl

/-- No other turn gives it anything. -/
theorem given_act_of_ne (hstage : ∀ now expiresAt, c.stage ≠ .cleared now expiresAt) :
    (c.act outcome s).1.given? = c.given? := by
  obtain ⟨number, key, requestHash, stage⟩ := c
  cases stage with
  | timed now =>
    simp only [act]
    cases s.enter (ε := ε) number key requestHash now with
    | mk entrance s' => cases entrance <;> rfl
  | cleared now expiresAt => exact absurd rfl (hstage now expiresAt)
  | ran now expiresAt payload => rfl
  | ended now given result => rfl

end Runner

/-! ### Runs -/

namespace Race

variable {race : Race ε} {turns : Nat → Turn ε} {n m i : Nat} {c : Runner ε}

/-- What a key holds in a run that started with the key free has been inserted
in a turn of the run, and the key has held it since. -/
theorem exists_insertsAt (h : race.InMemory) {key : String} (hfree : race.held key = none)
    {r : Record} (hheld : (race.after turns n).held key = some r) :
    ∃ m < n, race.InsertsAt turns m r ∧ r.key = key
      ∧ ∀ k, m < k → k ≤ n → (race.after turns k).held key = some r := by
  induction n with
  | zero =>
    rw [show (race.after turns 0).held key = none from hfree] at hheld
    exact nomatch hheld
  | succ n ih =>
    -- If the last turn did nothing to the key, it is an earlier one.
    rcases held_step (h.after turns n) (turns n) key with
      hsame | ⟨r', hkey, hins, hnew⟩ | ⟨_, hgone⟩
    · obtain ⟨m, hlt, hins, hkey, hsince⟩ := ih (hsame.symm.trans hheld)
      refine ⟨m, by omega, hins, hkey, fun k hmk hkn => ?_⟩
      rcases Nat.lt_or_ge n k with hlt' | hge
      · rw [show k = n + 1 by omega]
        exact hheld
      · exact hsince k hmk hge
    · have heq : some r' = some r := hnew.symm.trans hheld
      cases heq
      refine ⟨n, Nat.lt_succ_self n, hins, hkey, fun k hnk hkn => ?_⟩
      rw [show k = n + 1 by omega]
      exact hheld
    · have hnone : (none : Option Record) = some r := hgone.symm.trans hheld
      exact nomatch hnone

/-- A call goes on under its key and for its request. -/
theorem request_stays {c' : Runner ε} (hc : (race.after turns n).calls[i]? = some c)
    (hle : n ≤ m) (hc' : (race.after turns m).calls[i]? = some c') :
    c'.key = c.key ∧ c'.requestHash = c.requestHash := by
  suffices hstep : ∃ d : Runner ε, (race.after turns m).calls[i]? = some d
      ∧ d.key = c.key ∧ d.requestHash = c.requestHash by
    obtain ⟨d, hd, hsame⟩ := hstep
    rw [hd] at hc'
    cases hc'
    exact hsame
  clear hc'
  induction m, hle using Nat.le_induction with
  | base => exact ⟨c, hc, rfl, rfl⟩
  | succ m hle ih =>
    obtain ⟨d, hd, hkey, hhash⟩ := ih
    rcases call_stays_or_acts hd (turns m) with hsame | ⟨outcome, _, hact⟩
    · exact ⟨d, hsame, hkey, hhash⟩
    · exact ⟨_, hact, by rw [Runner.key_act, hkey], by rw [Runner.requestHash_act, hhash]⟩

/-- A call that is over stays as it is. -/
theorem over_stays (hc : (race.after turns n).calls[i]? = some c) (hover : c.result? ≠ none)
    (hle : n ≤ m) : (race.after turns m).calls[i]? = some c := by
  induction m, hle using Nat.le_induction with
  | base => exact hc
  | succ m hle ih =>
    rcases call_stays_or_acts ih (turns m) with hsame | ⟨outcome, _, hact⟩
    · exact hsame
    · rw [Runner.act_of_over hover] at hact
      exact hact

/-- What the operation of a call gives is kept with the call. -/
theorem given_of_runs {outcome : Except (Failure ε) Bytes}
    (hruns : race.RunsAt turns n i outcome) (hlt : n < m)
    (hc : (race.after turns m).calls[i]? = some c) : c.given? = some outcome := by
  suffices hstep : ∃ d : Runner ε, (race.after turns m).calls[i]? = some d
      ∧ d.given? = some outcome by
    obtain ⟨d, hd, hgiven⟩ := hstep
    rw [hd] at hc
    cases hc
    exact hgiven
  clear hc
  induction m, hlt using Nat.le_induction with
  | base =>
    obtain ⟨hturn, c₀, now, expiresAt, hc₀, hstage⟩ := hruns
    have hact := call_act outcome hc₀
    rw [← hturn] at hact
    exact ⟨_, hact, Runner.given_act_of_cleared hstage⟩
  | succ m hle ih =>
    obtain ⟨d, hd, hgiven⟩ := ih
    rcases call_stays_or_acts hd (turns m) with hsame | ⟨outcome', _, hact⟩
    · exact ⟨d, hsame, hgiven⟩
    · refine ⟨_, hact, ?_⟩
      -- The operation has run, so it does not run in this turn.
      rw [Runner.given_act_of_ne, hgiven]
      intro now expiresAt hstage
      simp [Runner.given?, hstage] at hgiven

/-- What the operation of a call has given, it gave in a turn of the run, if the
call started in the run. -/
theorem exists_runs (hnew : race.calls[i]? = none) {given : Except (Failure ε) Bytes}
    (hc : (race.after turns m).calls[i]? = some c) (hgiven : c.given? = some given) :
    ∃ n < m, race.RunsAt turns n i given := by
  induction m generalizing c with
  | zero =>
    rw [show (race.after turns 0).calls[i]? = none from hnew] at hc
    exact nomatch hc
  | succ m ih =>
    rcases call_step hc with hsame | ⟨_, number, key, requestHash, _, rfl⟩ |
      ⟨outcome, d, hturn, hd, rfl⟩
    · obtain ⟨n, hlt, hruns⟩ := ih hsame hgiven
      exact ⟨n, by omega, hruns⟩
    · simp [Runner.given?] at hgiven
    · by_cases hcleared : ∃ now expiresAt, d.stage = .cleared now expiresAt
      · obtain ⟨now, expiresAt, hstage⟩ := hcleared
        rw [Runner.given_act_of_cleared hstage] at hgiven
        cases hgiven
        exact ⟨m, Nat.lt_succ_self m, hturn, d, now, expiresAt, hd, hstage⟩
      · rw [Runner.given_act_of_ne (by simpa using hcleared)] at hgiven
        obtain ⟨n, hlt, hruns⟩ := ih hd hgiven
        exact ⟨n, by omega, hruns⟩

end Race

end Idempotency
