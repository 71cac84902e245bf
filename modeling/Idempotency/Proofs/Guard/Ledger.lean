import Mathlib.Order.Lattice
import Idempotency.Proofs.Guard.InMemory

/-!
# `Idempotency.Proofs.Guard.Ledger`: one call after the other runs each operation at most once

A ledger is what a caller may believe the store to be: under each key the last
record made, never dropped, and counted until it expires (`Ledger.call`). The
store is less simple. It drops expired records when their key is looked up, and
all of them when it is swept, and its `put` takes no notice of the time.

`answers_eq_ledger` says that nobody can tell the two apart. Any number of
guards share a store in memory that starts empty; calls, lookups and sweeps
follow one another in any order and number, while the clock never goes back.
Each lookup and each call then gives what the ledger gives, and an operation
runs exactly when the ledger runs it. An operation here is an `Errand`: it keeps
off the store, may look at the clock, and may take time.

The proof is a simulation. Index and ledger agree at an instant when they hold
the same records that count at it, key by key (`Agrees`). Time keeps that
(`Agrees.mono`), since what has expired stays expired, and each move keeps it.
-/

set_option autoImplicit false

namespace Idempotency

variable {ω ε : Type}

/-- An operation that keeps off the store. From the time at which it starts come
its result, the trace of its having run, and the time at which it is done. -/
structure Errand (ω ε : Type) where
  run : Instant → Except (Failure ε) Bytes × ω × Instant
  forward : ∀ now, now ≤ (run now).2.2

/-- The errand as an operation: it changes nothing of a service but its clock. -/
def Errand.operation (e : Errand ω ε) : Operation ω ε Bytes := fun s =>
  ((e.run s.now).1, (e.run s.now).2.1, { s with now := (e.run s.now).2.2 })

/-- What can happen in a run. Lookups and sweeps are at the time of the clock. -/
inductive Move (ω ε : Type)
  /-- Time passes until an instant, if that is still to come. -/
  | wait (moment : Instant)
  | get (key : String)
  | purge
  /-- A call, from its start to its end. -/
  | call (number : Nat) (key requestHash : String) (errand : Errand ω ε)

/-- What a move lets its caller see. -/
inductive Sight (ω ε : Type)
  | nothing
  | found (held : Option Record)
  /-- The result of a call, and the trace of its operation if that has run. -/
  | answered (result : Except (Failure ε) Bytes) (trace : Option ω)

/-- A move of a run on a service. -/
def Move.onService : Move ω ε → Service → Sight ω ε × Service
  | .wait moment, s => (.nothing, { s with now := max s.now moment })
  | .get key, s => (.found (s.get key s.now).1, (s.get key s.now).2)
  | .purge, s => (.nothing, (s.purge s.now).2)
  | .call number key requestHash errand, s =>
    let answer := s.callRaw number key requestHash errand.operation
    (.answered answer.result answer.trace, answer.service)

/-! ### The ledger -/

/-- A clock, and under each key the last record that was made for it. -/
structure Ledger where
  now : Instant
  held : String → Option Record

namespace Ledger

/-- A ledger without records. -/
def blank (now : Instant) : Ledger := ⟨now, fun _ => none⟩

/-- The record under a key, up to and including the instant it expires at. -/
def counting (m : Ledger) (key : String) : Option Record :=
  (m.held key).filter fun r => m.now ≤ r.expiresAt

/-- The ledger with a record under its key, at a later time. -/
def enter (m : Ledger) (r : Record) (now : Instant) : Ledger :=
  ⟨now, fun key => if key = r.key then some r else m.held key⟩

/-- A call whose key has no record that counts. Unless the record could not
expire, the errand runs, and its payload is entered. -/
def execute (m : Ledger) (lifetime : Span) (key requestHash : String) (errand : Errand ω ε) :
    Sight ω ε × Ledger :=
  match m.now.add? lifetime with
  | none => (.answered (.error (.refused (.expiryOverflow lifetime.wholeSeconds))) none, m)
  | some expiresAt =>
    match errand.run m.now with
    | (.error failure, trace, now) =>
      (.answered (.error failure) (some trace), { m with now := now })
    | (.ok payload, trace, now) =>
      (.answered (.ok payload) (some trace),
        m.enter ⟨key, requestHash, payload, expiresAt⟩ now)

/-- A call. A record that counts answers it, with its payload or by a conflict. -/
def call (m : Ledger) (lifetime : Span) (key requestHash : String) (errand : Errand ω ε) :
    Sight ω ε × Ledger :=
  match m.counting key with
  | some r =>
    if r.requestHash = requestHash then (.answered (.ok r.payload) none, m)
    else (.answered (.error (.refused (.conflict key))) none, m)
  | none => m.execute lifetime key requestHash errand

end Ledger

/-- A move of a run on a ledger. `lifetimes` says how long the records of each
guard count. -/
def Move.onLedger (lifetimes : Nat → Span) : Move ω ε → Ledger → Sight ω ε × Ledger
  | .wait moment, m => (.nothing, { m with now := max m.now moment })
  | .get key, m => (.found (m.counting key), m)
  | .purge, m => (.nothing, m)
  | .call number key requestHash errand, m => m.call (lifetimes number) key requestHash errand

/-- A run: what its moves let see, in order, and what it ends in. -/
def play {σ : Type} (step : Move ω ε → σ → Sight ω ε × σ) :
    List (Move ω ε) → σ → List (Sight ω ε) × σ
  | [], s => ([], s)
  | move :: moves, s =>
    let (sight, s) := step move s
    let (sights, s) := play step moves s
    (sight :: sights, s)

/-! ### Agreement -/

/-- Index and ledger hold the same records that count, each under its key. -/
def Agrees (ix : Index) (m : Ledger) : Prop :=
  ∀ key r, m.now ≤ r.expiresAt → (ix.find? key = some r ↔ m.held key = some r)

/-- A record counts until its expiry, at that instant too. -/
theorem Ledger.counting_eq_some_iff {m : Ledger} {key : String} {r : Record} :
    m.counting key = some r ↔ m.held key = some r ∧ m.now ≤ r.expiresAt := by
  unfold Ledger.counting
  rw [Option.filter_eq_some_iff]
  simp

namespace Agrees

variable {ix : Index} {m : Ledger}

/-- Nothing is held on either side at the start. -/
theorem start (now : Instant) : Agrees .empty (.blank now) := by
  intro key r _
  simp [Ledger.blank]

/-- Time passes. -/
theorem mono (h : Agrees ix m) {later : Instant} (hle : m.now ≤ later) :
    Agrees ix { m with now := later } :=
  fun key r hlive => h key r (le_trans hle hlive)

/-- A lookup finds what the ledger counts. -/
theorem found_eq (h : Agrees ix m) (key : String) :
    (ix.lookup key m.now).found = m.counting key := by
  apply Option.ext
  intro r
  rw [Index.found_eq_some_iff, Ledger.counting_eq_some_iff, Record.not_isExpiredAt_iff]
  constructor
  · rintro ⟨hfind, hlive⟩
    exact ⟨(h key r hlive).1 hfind, hlive⟩
  · rintro ⟨hheld, hlive⟩
    exact ⟨(h key r hlive).2 hheld, hlive⟩

/-- What a lookup drops does not count. -/
theorem lookup (h : Agrees ix m) (key : String) : Agrees (ix.lookup key m.now).index m := by
  intro k r hlive
  by_cases hk : k = key
  · subst hk
    rw [Index.find?_lookup_self, Index.found_eq_some_iff, Record.not_isExpiredAt_iff,
      and_iff_left hlive]
    exact h k r hlive
  · rw [Index.find?_lookup_of_ne ix m.now hk]
    exact h k r hlive

/-- What a sweep drops does not count. -/
theorem live (h : Agrees ix m) : Agrees (ix.live m.now) m := by
  intro key r hlive
  rw [Index.find?_live, Option.filter_eq_some_iff, Record.not_isExpiredAt_iff.2 hlive]
  simpa using h key r hlive

/-- A record that finds its key free is entered on both sides. -/
theorem store (h : Agrees ix m) (r : Record) {later : Instant} (hle : m.now ≤ later) :
    Agrees (ix.store r) (m.enter r later) := by
  intro key r' hlive
  rw [Index.find?_store]
  simp only [Ledger.enter]
  split
  · rfl
  · exact h key r' (le_trans hle hlive)

end Agrees

/-! ### The simulation -/

/-- The service and the ledger are at the same time and agree, and guards give
their records the lifetimes that the ledger goes by. -/
structure Follows (lifetimes : Nat → Span) (s : Service) (m : Ledger) : Prop where
  holds : ∃ ix, s.Holds ix ∧ Agrees ix m
  now : s.now = m.now
  lifetime : ∀ number, (s.guard number).lifetime = lifetimes number

namespace Follows

variable {lifetimes : Nat → Span} {s : Service} {m : Ledger}

/-- The service goes on to one that holds what agrees with the ledger. -/
private theorem step (h : Follows lifetimes s m) {s' : Service} {m' : Ledger} {ix : Index}
    (hkeeps : s.Keeps s') (hholds : s'.Holds ix) (hagrees : Agrees ix m')
    (hnow : m'.now = m.now) : Follows lifetimes s' m' where
  holds := ⟨ix, hholds, hagrees⟩
  now := by rw [hkeeps.now, h.now, hnow]
  lifetime number := by rw [hkeeps.lifetime, h.lifetime]

/-- The service after the first part of a call has gone on with the ledger,
which did not move. -/
private theorem enter (h : Follows lifetimes s m) (number : Nat) (key requestHash : String) :
    Follows lifetimes (s.enter (ε := ε) number key requestHash s.now).2 m
      ∧ (m.counting key = none →
        ∃ ix, (s.enter (ε := ε) number key requestHash s.now).2.Holds ix ∧ Agrees ix m
          ∧ ix.find? key = none) := by
  obtain ⟨ix, hholds, hagrees⟩ := h.holds
  have hholds₁ := hholds.enter (ε := ε) number key requestHash s.now
  have hagrees₁ : Agrees (ix.lookup key s.now).index m := by
    rw [h.now]
    exact hagrees.lookup key
  refine ⟨h.step (Service.keeps_enter ..) hholds₁ hagrees₁ rfl, fun hfound => ?_⟩
  refine ⟨_, hholds₁, hagrees₁, ?_⟩
  rw [Index.find?_lookup_self, h.now, hagrees.found_eq, hfound]

/-- What the first part of a call decides, by what the ledger counts. -/
private theorem entrance_eq (h : Follows lifetimes s m) (number : Nat)
    (key requestHash : String) :
    (s.enter (ε := ε) number key requestHash s.now).1
      = match m.counting key with
        | some r =>
          .answered (if r.requestHash = requestHash then .ok r.payload
            else .error (.refused (.conflict key)))
        | none =>
          match m.now.add? (lifetimes number) with
          | some expiresAt => .cleared expiresAt
          | none =>
            .answered (.error (.refused
              (.expiryOverflow (lifetimes number).wholeSeconds))) := by
  obtain ⟨ix, hholds, hagrees⟩ := h.holds
  have hfound := hagrees.found_eq key
  cases hcounting : m.counting key with
  | some r =>
    rw [h.now, Service.enter_of_found hholds (hfound.trans hcounting)]
  | none =>
    have hmissed : (s.enter (ε := ε) number key requestHash m.now).1 = _ :=
      Service.enter_of_missed hholds (hfound.trans hcounting)
    rw [h.lifetime] at hmissed
    rw [h.now]
    exact hmissed

/-- A call that is cleared runs its errand and enters the payload, as the ledger
does. -/
private theorem run (h : Follows lifetimes s m) {number : Nat} {key requestHash : String}
    {expiresAt : Instant} (hcounting : m.counting key = none)
    (hexpiry : m.now.add? (lifetimes number) = some expiresAt) (errand : Errand ω ε) :
    ((Move.call number key requestHash errand).onService s).1
        = (m.execute (lifetimes number) key requestHash errand).1
      ∧ Follows lifetimes ((Move.call number key requestHash errand).onService s).2
          (m.execute (lifetimes number) key requestHash errand).2 := by
  obtain ⟨hfollows₁, hfree⟩ := h.enter (ε := ε) number key requestHash
  obtain ⟨ix, hholds₁, hagrees, hfree⟩ := hfree hcounting
  obtain ⟨entrance, s₁, henter⟩ :
    ∃ entrance s₁, s.enter (ε := ε) number key requestHash s.now = (entrance, s₁) :=
      ⟨_, _, rfl⟩
  have hentrance := h.entrance_eq (ε := ε) number key requestHash
  simp only [henter, hcounting, hexpiry] at hfollows₁ hholds₁ hentrance
  subst hentrance
  obtain ⟨result, trace, later, hrun⟩ :
    ∃ result trace later, errand.run m.now = (result, trace, later) := ⟨_, _, _, rfl⟩
  have hforward : m.now ≤ later := by simpa [hrun] using errand.forward m.now
  -- The errand has changed nothing but the clock.
  have hholds₂ : Service.Holds { s₁ with now := later } ix := ⟨hholds₁.store, hholds₁.outage⟩
  have hfollows₂ : Follows lifetimes { s₁ with now := later } { m with now := later } :=
    ⟨⟨ix, hholds₂, hagrees.mono hforward⟩, rfl, hfollows₁.lifetime⟩
  have hoperation : errand.operation s₁ = (result, trace, { s₁ with now := later }) := by
    simp only [Errand.operation, hfollows₁.now, hrun]
  simp only [Move.onService, Ledger.execute, hexpiry, hrun]
  cases result with
  | error failure =>
    rw [Service.callRaw_of_failed henter hoperation]
    exact ⟨rfl, hfollows₂.step (Service.keeps_abandon ..) (hholds₂.abandon number key)
      (hagrees.mono hforward) rfl⟩
  | ok payload =>
    rw [Service.callRaw_of_done henter hoperation]
    have hresult := Service.settle_result (ε := ε) hholds₂ number
      ⟨key, requestHash, payload, expiresAt⟩
    have hstored := hholds₂.settle (ε := ε) number ⟨key, requestHash, payload, expiresAt⟩
    simp only [hfree, reduceCtorEq, false_imp_iff, implies_true, if_true] at hresult hstored
    exact ⟨by rw [hresult], hfollows₂.step (Service.keeps_settle ..) hstored
      (hagrees.store _ hforward) rfl⟩

/-- A call gives what the ledger's call gives, and service and ledger go on
together. -/
theorem call (h : Follows lifetimes s m) (number : Nat) (key requestHash : String)
    (errand : Errand ω ε) :
    ((Move.call number key requestHash errand).onService s).1
        = (m.call (lifetimes number) key requestHash errand).1
      ∧ Follows lifetimes ((Move.call number key requestHash errand).onService s).2
          (m.call (lifetimes number) key requestHash errand).2 := by
  have hfollows₁ := (h.enter (ε := ε) number key requestHash).1
  have hentrance := h.entrance_eq (ε := ε) number key requestHash
  -- A call that is answered after its lookup leaves the ledger as it was.
  have hanswered : ∀ result, (s.enter (ε := ε) number key requestHash s.now).1 = .answered result →
      ((Move.call number key requestHash errand).onService s).1 = .answered result none
        ∧ Follows lifetimes ((Move.call number key requestHash errand).onService s).2 m := by
    intro result hresult
    simp only [Move.onService]
    rw [Service.callRaw_of_answered (Prod.ext hresult rfl)]
    exact ⟨rfl, hfollows₁⟩
  -- The ledger and the first part of the call decide by the same record.
  unfold Ledger.call
  cases hcounting : m.counting key with
  | some r =>
    rw [hcounting] at hentrance
    by_cases hhash : r.requestHash = requestHash
    · simpa [hhash] using hanswered _ hentrance
    · simpa [hhash] using hanswered _ hentrance
  | none =>
    cases hexpiry : m.now.add? (lifetimes number) with
    | none =>
      simp only [hcounting, hexpiry] at hentrance
      simpa [Ledger.execute, hexpiry] using hanswered _ hentrance
    | some expiresAt => exact h.run hcounting hexpiry errand

/-- A move lets see what the ledger's move lets see, and service and ledger go
on together. -/
theorem move (h : Follows lifetimes s m) (move : Move ω ε) :
    (move.onService s).1 = (move.onLedger lifetimes m).1
      ∧ Follows lifetimes (move.onService s).2 (move.onLedger lifetimes m).2 := by
  obtain ⟨ix, hholds, hagrees⟩ := h.holds
  cases move with
  | wait moment =>
    refine ⟨rfl, ⟨ix, ⟨hholds.store, hholds.outage⟩, ?_⟩, ?_, h.lifetime⟩
    · exact hagrees.mono (le_max_left _ _)
    · simp [Move.onService, Move.onLedger, h.now]
  | get key =>
    constructor
    · simp only [Move.onService, Move.onLedger, h.now, Service.get_found hholds,
        hagrees.found_eq]
    · simp only [Move.onService, Move.onLedger, h.now]
      exact h.step (Service.keeps_get ..) (hholds.get key m.now) (hagrees.lookup key) rfl
  | purge =>
    refine ⟨rfl, ?_⟩
    simp only [Move.onService, Move.onLedger, h.now]
    exact h.step (Service.keeps_purge ..) (hholds.purge m.now) hagrees.live rfl
  | call number key requestHash errand => exact h.call number key requestHash errand

/-- A run lets see what the ledger's run lets see. -/
theorem play_eq (moves : List (Move ω ε)) :
    ∀ {s : Service} {m : Ledger}, Follows lifetimes s m →
      (play Move.onService moves s).1 = (play (Move.onLedger lifetimes) moves m).1 := by
  induction moves with
  | nil => intro s m _; rfl
  | cons move moves ih =>
    intro s m h
    obtain ⟨hsight, hnext⟩ := h.move move
    simp only [play]
    rw [hsight, ih hnext]

end Follows

/-- Guards that share a store in memory, starting empty, behave as a ledger
does. For every run of calls, lookups and sweeps, one after the other and under
a clock that never goes back, each call has the result that the ledger gives it
and runs its errand exactly if the ledger does. -/
theorem answers_eq_ledger (now : Instant) (guards : List Guard) (moves : List (Move ω ε)) :
    (play Move.onService moves (.fresh now guards)).1
      = (play (Move.onLedger fun number => ((Service.fresh now guards).guard number).lifetime)
          moves (.blank now)).1 :=
  Follows.play_eq moves ⟨⟨.empty, ⟨rfl, rfl⟩, .start now⟩, rfl, fun _ => rfl⟩

end Idempotency
