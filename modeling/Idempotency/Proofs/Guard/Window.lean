import Idempotency.Proofs.Guard.Entries
import Idempotency.Proofs.Time.Nanoseconds

/-!
# `Idempotency.Proofs.Guard.Window`: how long a result is replayed

A record expires exactly its lifetime after the call that has made it, to the nanosecond.
A retry is answered from it up to that instant, which still counts, and runs again after
it (`replay_window`).

A call that has found no record runs, unless its own record would expire beyond the last
instant; then it is refused before anything has happened (`runsWithinTime`). That holds
of a first call, and of a retry that has come too late. The store may be of either kind,
the operations may do what they like, and the retry may go through any guard. All that is
asked of the time between the calls is that the store stays as the first one has left it.
-/

set_option autoImplicit false

namespace Idempotency

namespace Service

section
variable {ω ε : Type} {s s₁ s₂ s₃ : Service} {number : Nat} {key requestHash : String}
  {operation : Operation ω ε Bytes}

/-! ### Calls that find no record -/

/-- The call runs its operation on the service that its lookup has left, unless its
record would expire beyond the last instant. Then it is refused, with the lifetime in
whole seconds, and leaves the service as it is after the lookup. -/
def RunsWithinTime (s : Service) (number : Nat) (key requestHash : String)
    (operation : Operation ω ε Bytes) (before : Service) : Prop :=
  if Instant.last.total < s.now.total + (s.guard number).lifetime.total then
    s.callRaw number key requestHash operation
      = ⟨.error (.refused
          (.expiryOverflow ((s.guard number).lifetime.total / nanosPerSecond))), none, before⟩
  else (s.callRaw number key requestHash operation).trace = some (operation before).2.1

/-- Without a record under the key a call may run, unless its record would expire beyond
the last instant. -/
theorem enter_of_missing (hmiss : s.guardedGet key s.now = (.ok none, s₁)) :
    s.enter (ε := ε) number key requestHash s.now
      = (match s.now.add? (s.guard number).lifetime with
          | some expiresAt => .cleared expiresAt
          | none =>
            .answered (.error (.refused
              (.expiryOverflow (s.guard number).lifetime.wholeSeconds))), s₁) := by
  unfold enter
  simp only [hmiss, Guard.decide]
  cases s.now.add? (s.guard number).lifetime with
  | none => rfl
  | some expiresAt => rfl

/-- A call that may run does so. -/
theorem trace_of_cleared {expiresAt : Instant}
    (henter : s.enter (ε := ε) number key requestHash s.now = (.cleared expiresAt, s₁)) :
    (s.callRaw number key requestHash operation).trace = some (operation s₁).2.1 := by
  obtain ⟨outcome, trace, s₂, hrun⟩ : ∃ outcome trace s₂, operation s₁ = (outcome, trace, s₂) :=
    ⟨_, _, _, rfl⟩
  cases outcome with
  | error failure => rw [callRaw_of_failed henter hrun, hrun]
  | ok payload => rw [callRaw_of_done henter hrun, hrun]

/-- A lookup that finds nothing leads to a run, or to the refusal of a lifetime that is
too long. -/
theorem runsWithinTime (hleap : s.now.isLeap = false)
    (hmiss : s.guardedGet key s.now = (.ok none, s₁)) (number : Nat) (requestHash : String)
    (operation : Operation ω ε Bytes) :
    s.RunsWithinTime number key requestHash operation s₁ := by
  have hpos := (s.guard number).lifetime_pos
  have henter : s.enter (ε := ε) number key requestHash s.now = _ := enter_of_missing hmiss
  have hnone := Instant.add?_eq_none_iff hleap hpos
  unfold RunsWithinTime
  -- The sum of instant and lifetime decides both what the call does and what it should do.
  cases hadd : s.now.add? (s.guard number).lifetime with
  | none =>
    rw [hadd] at henter
    rw [if_pos (hnone.1 hadd), callRaw_of_answered henter,
      Span.wholeSeconds_of_isPositive hpos]
  | some expiresAt =>
    have hwithin : ¬ Instant.last.total < s.now.total + (s.guard number).lifetime.total := by
      rw [← hnone, hadd]
      exact Option.some_ne_none _
    rw [hadd] at henter
    rw [if_neg hwithin]
    exact trace_of_cleared henter

/-- No call is refused for its expiry before its operation if its record can expire. -/
theorem enter_ne_overflow {expiresAt : Instant} {seconds : Int}
    (hadd : s.now.add? (s.guard number).lifetime = some expiresAt) :
    (s.enter (ε := ε) number key requestHash s.now).1
      ≠ .answered (.error (.refused (.expiryOverflow seconds))) := by
  intro hanswered
  unfold enter at hanswered
  cases hget : s.guardedGet key s.now with
  | mk answer s' =>
    cases answer with
    | error refusal =>
      obtain ⟨reason, rfl⟩ := storage_of_guardedGet hget
      simp only [hget] at hanswered
      cases hanswered
    | ok found =>
      cases found with
      | none =>
        simp only [hget, Guard.decide, hadd] at hanswered
        cases hanswered
      | some r =>
        by_cases hhash : r.requestHash = requestHash
        · simp only [hget, Guard.decide, hhash, if_true] at hanswered
          cases hanswered
        · simp only [hget, Guard.decide, hhash, if_false] at hanswered
          cases hanswered

/-- No call is refused for its expiry after its operation. -/
theorem settle_ne_overflow (s : Service) (number : Nat) (r : Record) (seconds : Int) :
    (s.settle (ε := ε) number r).1 ≠ .error (.refused (.expiryOverflow seconds)) := by
  unfold settle
  cases hput : s.guardedPut r with
  | mk placed s' =>
    cases placed with
    | ok placement => exact nofun
    | error refusal =>
      rcases of_guardedPut_error hput with rfl | ⟨reason, rfl⟩
      · exact nofun
      · exact nofun

/-- A call whose record can expire is refused for its expiry only by its own operation. -/
theorem of_overflow {seconds : Int} (hadd : ∃ e, s.now.add? (s.guard number).lifetime = some e)
    (hresult : (s.callRaw number key requestHash operation).result
      = .error (.refused (.expiryOverflow seconds))) :
    ∃ before trace after,
      operation before = (.error (.refused (.expiryOverflow seconds)), trace, after)
        ∧ (s.callRaw number key requestHash operation).trace = some trace := by
  obtain ⟨e, hadd⟩ := hadd
  rcases callRaw_cases s number key requestHash operation with
    ⟨result, s₁, henter, hcall⟩ | ⟨expiresAt, s₁, -, hcall⟩
  · rw [hcall] at hresult
    obtain rfl : result = .error (.refused (.expiryOverflow seconds)) := hresult
    exact absurd (congrArg Prod.fst henter) (enter_ne_overflow hadd)
  · rcases hcall with ⟨failure, trace, s₂, hrun, hcall⟩ | ⟨payload, trace, s₂, -, hcall⟩
    · rw [hcall] at hresult ⊢
      obtain rfl : failure = .refused (.expiryOverflow seconds) := Except.error.inj hresult
      exact ⟨s₁, trace, s₂, hrun, rfl⟩
    · rw [hcall] at hresult
      exact absurd hresult (settle_ne_overflow s₂ number _ seconds)

/-! ### Retries -/

/-- A guard finds a record that still counts. -/
theorem guardedGet_of_live {r : Record} (hreach : s.outage.get = none)
    (hfind : s.store.index.find? key = some r) (hlive : r.isExpiredAt s.now = false) :
    (s.guardedGet key s.now).1 = .ok (some r) := by
  have hfound : (s.store.index.lookup key s.now).found = some r :=
    Index.found_eq_some_iff.2 ⟨hfind, hlive⟩
  simp only [guardedGet, hreach]
  exact congrArg Except.ok hfound

/-- A guard that finds an expired record has it dropped. -/
theorem guardedGet_of_expired {r : Record} (hreach : s.outage.get = none)
    (hfind : s.store.index.find? key = some r) (hexpired : r.isExpiredAt s.now = true) :
    ∃ s₁, s.guardedGet key s.now = (.ok none, s₁) ∧ s₁.store.index.find? key = none := by
  have hfound : (s.store.index.lookup key s.now).found = none := by
    rw [Index.found_eq_none_iff]
    intro r' hfind'
    rw [hfind] at hfind'
    obtain rfl := Option.some.inj hfind'
    exact hexpired
  have hanswer : (s.guardedGet key s.now).1 = .ok none := by
    simp only [guardedGet, hreach]
    exact congrArg Except.ok hfound
  refine ⟨(s.guardedGet key s.now).2, Prod.ext hanswer rfl, ?_⟩
  rw [index_guardedGet, lookedUp, hreach]
  show (s.store.index.lookup key s.now).index.find? key = none
  rw [Index.find?_lookup_self, hfound]

/-- A retry is answered from a record up to the instant at which it expires, and after
that goes like a call that finds none. -/
theorem retry_of_held {r : Record} (hleap : s.now.isLeap = false) (hreach : s.outage.get = none)
    (hfind : s.store.index.find? key = some r) (hnormal : r.expiresAt.isLeap = false)
    (number : Nat) (operation : Operation ω ε Bytes) :
    (((s.callRaw number key r.requestHash operation).result = .ok r.payload
          ∧ (s.callRaw number key r.requestHash operation).trace = none)
        ↔ s.now.total ≤ r.expiresAt.total)
      ∧ (r.expiresAt.total < s.now.total →
        ∃ before, s.guardedGet key s.now = (.ok none, before)
          ∧ before.store.index.find? key = none
          ∧ s.RunsWithinTime number key r.requestHash operation before) := by
  have hexact : s.now ≤ r.expiresAt ↔ s.now.total ≤ r.expiresAt.total :=
    Instant.le_iff_total_le hleap hnormal
  by_cases hlive : s.now ≤ r.expiresAt
  · have hget := guardedGet_of_live hreach hfind (Record.not_isExpiredAt_iff.2 hlive)
    obtain ⟨htrace, hresult⟩ := callRaw_of_got_some hget number r.requestHash operation
    rw [if_pos rfl] at hresult
    exact ⟨iff_of_true ⟨hresult, htrace⟩ (hexact.1 hlive),
      fun hlate => absurd (hexact.1 hlive) (Int.not_le.2 hlate)⟩
  · have hexpired : r.isExpiredAt s.now = true := Record.isExpiredAt_iff.2 (lt_of_not_ge hlive)
    obtain ⟨before, hget, hgone⟩ := guardedGet_of_expired hreach hfind hexpired
    have hruns := runsWithinTime hleap hget number r.requestHash operation
    refine ⟨iff_of_false ?_ fun hwithin => hlive (hexact.2 hwithin),
      fun _ => ⟨before, hget, hgone, hruns⟩⟩
    -- Such a call is refused or leaves a trace, and a replay does neither.
    rintro ⟨hreplayed, hsilent⟩
    unfold RunsWithinTime at hruns
    split at hruns
    · rw [hruns] at hreplayed
      cases hreplayed
    · rw [hsilent] at hruns
      cases hruns

/-- A call whose operation gives a payload, and whose record is inserted, gives the
payload and leaves the record under the key. -/
theorem callRaw_inserted {payload : Bytes} {trace : ω} {expiresAt : Instant}
    (hmiss : s.guardedGet key s.now = (.ok none, s₁))
    (hadd : s.now.add? (s.guard number).lifetime = some expiresAt)
    (hrun : operation s₁ = (.ok payload, trace, s₂))
    (hput : s₂.guardedPut ⟨key, requestHash, payload, expiresAt⟩ = (.ok .inserted, s₃)) :
    (s.callRaw number key requestHash operation).result = .ok payload
      ∧ (s.callRaw number key requestHash operation).service.store.index.find? key
        = some ⟨key, requestHash, payload, expiresAt⟩ := by
  have henter : s.enter (ε := ε) number key requestHash s.now = _ := enter_of_missing hmiss
  rw [hadd] at henter
  have hplaced : (s₂.guardedPut ⟨key, requestHash, payload, expiresAt⟩).1 = .ok .inserted := by
    rw [hput]
  rw [callRaw_of_done henter hrun]
  refine ⟨settle_of_placed hplaced, ?_⟩
  rcases takes_settle (ε := ε) s₂ number ⟨key, requestHash, payload, expiresAt⟩ with
    ⟨-, -, hstored⟩ | ⟨hnot, -⟩
  · show (s₂.settle (ε := ε) number _).2.store.index.find? key = _
    rw [hstored, Index.find?_store, if_pos rfl]
  · exact absurd hplaced hnot

/-- Results are replayed for exactly the lifetime of their records. Outside leap seconds,
a call that finds no record is refused, before it has run or given the store anything,
exactly if its lifetime from now on leads beyond the last instant. Otherwise it runs. If
its operation succeeds and its record is inserted, the record expires at the exact sum, in
normal form. A retry that finds the store as the call has left it gives the payload
without running exactly if no more than the lifetime has passed. After that it finds the
record gone, and runs like any call that finds none. -/
theorem replay_window (number : Nat) (requestHash : String) (operation : Operation ω ε Bytes)
    (hleap : s.now.isLeap = false) (hmiss : s.guardedGet key s.now = (.ok none, s₁)) :
    (s.callRaw number key requestHash operation
          = ⟨.error (.refused
              (.expiryOverflow ((s.guard number).lifetime.total / nanosPerSecond))), none, s₁⟩
        ↔ Instant.last.total < s.now.total + (s.guard number).lifetime.total)
      ∧ (s.now.total + (s.guard number).lifetime.total ≤ Instant.last.total →
        (s.callRaw number key requestHash operation).trace = some (operation s₁).2.1
          ∧ ∃ expiresAt : Instant,
            expiresAt.total = s.now.total + (s.guard number).lifetime.total
            ∧ expiresAt.nanos < nanosPerSecond
            ∧ ∀ payload trace s₂ s₃, operation s₁ = (.ok payload, trace, s₂) →
              s₂.guardedPut ⟨key, requestHash, payload, expiresAt⟩ = (.ok .inserted, s₃) →
              (s.callRaw number key requestHash operation).result = .ok payload
              ∧ (s.callRaw number key requestHash operation).service.store.index.find? key
                = some ⟨key, requestHash, payload, expiresAt⟩
              ∧ ∀ later : Service,
                later.store = (s.callRaw number key requestHash operation).service.store →
                later.outage.get = none → later.now.isLeap = false →
                ∀ {ω' ε' : Type} (number' : Nat) (operation' : Operation ω' ε' Bytes),
                  (((later.callRaw number' key requestHash operation').result = .ok payload
                      ∧ (later.callRaw number' key requestHash operation').trace = none)
                    ↔ later.now.total - s.now.total ≤ (s.guard number).lifetime.total)
                  ∧ ((s.guard number).lifetime.total < later.now.total - s.now.total →
                    ∃ before, later.guardedGet key later.now = (.ok none, before)
                      ∧ before.store.index.find? key = none
                      ∧ later.RunsWithinTime number' key requestHash operation' before)) := by
  have hruns := runsWithinTime hleap hmiss number requestHash operation
  have hnone := Instant.add?_eq_none_iff hleap (s.guard number).lifetime_pos
  unfold RunsWithinTime at hruns
  refine ⟨⟨fun hanswer => ?_, fun hbeyond => by rwa [if_pos hbeyond] at hruns⟩, fun hwithin => ?_⟩
  · by_contra hwithin
    rw [if_neg hwithin, hanswer] at hruns
    cases hruns
  rw [if_neg (Int.not_lt.2 hwithin)] at hruns
  obtain ⟨expiresAt, hadd⟩ : ∃ e, s.now.add? (s.guard number).lifetime = some e := by
    rw [← Option.ne_none_iff_exists', Ne, hnone]
    exact Int.not_lt.2 hwithin
  obtain ⟨htotal, hnanos⟩ := Instant.total_of_add? hleap hadd
  refine ⟨hruns, expiresAt, htotal, hnanos, ?_⟩
  intro payload trace s₂ s₃ hrun hput
  obtain ⟨hresult, hheld⟩ := callRaw_inserted hmiss hadd hrun hput
  refine ⟨hresult, hheld, ?_⟩
  intro later hstore hreach hleap' ω' ε' number' operation'
  rw [← hstore] at hheld
  obtain ⟨hreplayed, hlate⟩ := retry_of_held hleap' hreach hheld
    (Instant.isLeap_eq_false_iff.2 hnanos) number' operation'
  rw [htotal] at hreplayed hlate
  refine ⟨hreplayed.trans ?_, fun hpassed => hlate ?_⟩
  · omega
  · omega

end

/-! ### An example of carrying -/

/-- A guard whose records last a second and a half. -/
def brief : Guard := { moduleName := "orders", lifetime := { seconds := 1, nanos := 500000000 } }

/-- A service with that guard, six tenths into a second. -/
def midway : Service := fresh { seconds := 1111, nanos := 600000000 } [brief]

/-- An operation that always gives the same byte. -/
def ringing : Operation Unit Empty Bytes := fun s => (.ok [7], (), s)

/-- The half second carries: the record lasts until a tenth into the second after the
next, and to the nanosecond. -/
theorem replay_window_carried : ∃ expiresAt : Instant,
    expiresAt.total = 1113100000000
      ∧ (midway.callRaw 0 "key" "hash" ringing).service.store.index.find? "key"
        = some ⟨"key", "hash", [7], expiresAt⟩
      ∧ (({ (midway.callRaw 0 "key" "hash" ringing).service with
            now := { seconds := 1113, nanos := 100000000 } } : Service).callRaw 0 "key" "hash"
          ringing).trace = none
      ∧ (({ (midway.callRaw 0 "key" "hash" ringing).service with
            now := { seconds := 1113, nanos := 100000001 } } : Service).callRaw 0 "key" "hash"
          ringing).trace = some () := by
  have hmiss : midway.guardedGet "key" midway.now
      = (.ok none, (midway.guardedGet "key" midway.now).2) := rfl
  obtain ⟨-, hwithin⟩ := replay_window 0 "hash" ringing
    (show midway.now.isLeap = false by decide) hmiss
  obtain ⟨-, expiresAt, htotal, -, hrecorded⟩ := hwithin (by decide)
  obtain ⟨-, hheld, hretry⟩ := hrecorded [7] () _ _ rfl rfl
  refine ⟨expiresAt, htotal, hheld, ?_, ?_⟩
  · obtain ⟨hreplayed, -⟩ := hretry
      { (midway.callRaw 0 "key" "hash" ringing).service with
        now := { seconds := 1113, nanos := 100000000 } } rfl rfl (by decide) 0 ringing
    exact (hreplayed.2 (by decide)).2
  · obtain ⟨-, hlate⟩ := hretry
      { (midway.callRaw 0 "key" "hash" ringing).service with
        now := { seconds := 1113, nanos := 100000001 } } rfl rfl (by decide) 0 ringing
    obtain ⟨before, -, -, hruns⟩ := hlate (by decide)
    unfold RunsWithinTime at hruns
    rwa [if_neg (by decide)] at hruns

end Service

end Idempotency
