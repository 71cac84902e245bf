import Mathlib.Data.List.Basic
import Idempotency.Guard.Call
import Idempotency.Proofs.Time.Order

/-!
# `Idempotency.Proofs.Guard.InMemory`: the parts of a call, on records in memory

`Service.Holds` says what a service with a store in memory holds, and that
guards reach it. A call is three parts, `Service.enter`, its operation, and
`Service.settle` or `Service.abandon`. Each part has the same two lemmas here:
what it answers by what the service holds, and what the service holds after it.
Nothing else of a service decides about calls but the clock and how long the
guards' records last; `Service.Keeps` says that those two stay.

Statements about runs of calls build on these lemmas and do not open the
functions.
-/

set_option autoImplicit false

namespace Idempotency

namespace Index

/-- A lookup finds nothing exactly if the key holds nothing that counts. -/
theorem found_eq_none_iff {ix : Index} {key : String} {now : Instant} :
    (ix.lookup key now).found = none
      ↔ ∀ r, ix.find? key = some r → r.isExpiredAt now = true := by
  rw [found_lookup]
  cases ix.find? key <;> simp [Option.filter_eq_none_iff]

/-- A lookup finds the record of the key if that counts. -/
theorem found_eq_some_iff {ix : Index} {key : String} {now : Instant} {r : Record} :
    (ix.lookup key now).found = some r
      ↔ ix.find? key = some r ∧ r.isExpiredAt now = false := by
  rw [found_lookup, Option.filter_eq_some_iff]
  simp

/-- What a lookup finds is what its key holds after it. -/
theorem find?_lookup_self (ix : Index) (key : String) (now : Instant) :
    (ix.lookup key now).index.find? key = (ix.lookup key now).found := by
  rw [find?_lookup, found_lookup, if_pos rfl]

/-- A lookup leaves the other keys alone. -/
theorem find?_lookup_of_ne (ix : Index) {key k : String} (now : Instant) (hne : k ≠ key) :
    (ix.lookup key now).index.find? k = ix.find? k := by
  rw [find?_lookup, if_neg hne]

end Index

namespace Service

/-- The service keeps the records of the index in memory, and nothing stands
between them and the guards. -/
structure Holds (s : Service) (ix : Index) : Prop where
  store : s.store = .memory ix
  outage : s.outage = {}

/-- A service with its records in memory, of which there are none yet. -/
def fresh (now : Instant) (guards : List Guard) : Service :=
  { disk := .empty, now := now, store := .memory .empty, guards := guards }

/-- A fresh service keeps no records, and in memory. -/
theorem holds_fresh (now : Instant) (guards : List Guard) :
    (fresh now guards).Holds .empty := ⟨rfl, rfl⟩

/-- From one service to the other, neither the clock nor the lifetime that a
guard gives its records has changed. -/
structure Keeps (s s' : Service) : Prop where
  now : s'.now = s.now
  lifetime : ∀ number, (s'.guard number).lifetime = (s.guard number).lifetime

namespace Keeps

/-- Nothing has changed in a service compared with itself. -/
theorem refl (s : Service) : s.Keeps s := ⟨rfl, fun _ => rfl⟩

/-- What is the same after each of two steps is the same after both. -/
theorem trans {a b c : Service} (hab : a.Keeps b) (hbc : b.Keeps c) : a.Keeps c :=
  ⟨hbc.now.trans hab.now, fun number => (hbc.lifetime number).trans (hab.lifetime number)⟩

end Keeps

section
variable {s : Service} {ix : Index}

/-! ### Notes, lookups, sweeps -/

/-- Counting and reporting do not touch the records. -/
theorem Holds.note (h : s.Holds ix) (number : Nat) (count : Count) (event : Event) :
    (s.note number count event).Holds ix :=
  ⟨h.store, h.outage⟩

/-- Counting an end of a call changes no guard's lifetime. -/
theorem keeps_note (s : Service) (number : Nat) (count : Count) (event : Event) :
    s.Keeps (s.note number count event) := by
  refine ⟨rfl, fun n => ?_⟩
  -- A number without a guard stands for one with the usual lifetime, before and
  -- after.
  show ((s.guards.modify number _).getD n (Guard.new "")).lifetime
    = (s.guards.getD n (Guard.new "")).lifetime
  rw [List.getD_eq_getElem?_getD, List.getD_eq_getElem?_getD, List.getElem?_modify]
  cases s.guards[n]? with
  | none => rfl
  | some g =>
    simp only [Option.map_eq_map, Option.map_some, Option.getD_some]
    split <;> rfl

/-- A service finds what its index finds. -/
theorem get_found (h : s.Holds ix) (key : String) (now : Instant) :
    (s.get key now).1 = (ix.lookup key now).found := by
  simp [Service.get, Store.get, h.store, Store.index]

/-- After a lookup, the service has the records that the index has after one. -/
theorem Holds.get (h : s.Holds ix) (key : String) (now : Instant) :
    (s.get key now).2.Holds (ix.lookup key now).index := by
  refine ⟨?_, h.outage⟩
  simp [Service.get, Service.report, Store.get, h.store, Store.index, Store.withIndex]

/-- A lookup keeps clock and lifetimes. -/
theorem keeps_get (s : Service) (key : String) (now : Instant) : s.Keeps (s.get key now).2 :=
  ⟨rfl, fun _ => rfl⟩

/-- After a sweep, the service has the records that have not expired. -/
theorem Holds.purge (h : s.Holds ix) (now : Instant) : (s.purge now).2.Holds (ix.live now) := by
  refine ⟨?_, h.outage⟩
  simp [Service.purge, Service.report, Store.purge, h.store, Store.index, Store.withIndex]

/-- A sweep keeps clock and lifetimes. -/
theorem keeps_purge (s : Service) (now : Instant) : s.Keeps (s.purge now).2 :=
  ⟨rfl, fun _ => rfl⟩

/-- A guard finds what the index finds, since nothing stands in between. -/
theorem guardedGet_found (h : s.Holds ix) (key : String) (now : Instant) :
    (s.guardedGet key now).1 = .ok (ix.lookup key now).found := by
  simp [Service.guardedGet, h.outage, Service.get, Store.get, h.store, Store.index]

/-- A guard's lookup does to the records what a lookup does. -/
theorem Holds.guardedGet (h : s.Holds ix) (key : String) (now : Instant) :
    (s.guardedGet key now).2.Holds (ix.lookup key now).index := by
  constructor <;>
    simp [Service.guardedGet, h.outage, Service.get, Service.report, Store.get, h.store,
      Store.index, Store.withIndex]

/-- A guard's lookup keeps clock and lifetimes, whether or not it gets through. -/
theorem keeps_guardedGet (s : Service) (key : String) (now : Instant) :
    s.Keeps (s.guardedGet key now).2 := by
  cases h : s.outage.get with
  | none =>
    constructor <;>
      simp [Service.guardedGet, h, Service.get, Service.report, Service.guard]
  | some reason => constructor <;> simp [Service.guardedGet, h, Service.guard]

/-! ### The first part of a call -/

variable {ε : Type} {number : Nat} {key requestHash : String} {now : Instant}

/-- A call that gets a record from the store is answered: with the record's payload
if the record is of the same request, and else by a conflict. -/
theorem enter_of_got_some {r : Record} (hget : (s.guardedGet key now).1 = .ok (some r)) :
    (s.enter (ε := ε) number key requestHash now).1
      = .answered (if r.requestHash = requestHash then .ok r.payload
          else .error (.refused (.conflict key))) := by
  obtain ⟨answer, s', hanswer⟩ : ∃ answer s', s.guardedGet key now = (answer, s') := ⟨_, _, rfl⟩
  obtain rfl : answer = .ok (some r) := by rwa [hanswer] at hget
  unfold Service.enter
  simp only [hanswer, Guard.decide]
  by_cases hhash : r.requestHash = requestHash
  · simp [hhash]
  · simp [hhash]

/-- A call that gets no record from the store is cleared to run, unless its record
could not expire. -/
theorem enter_of_got_none (hget : (s.guardedGet key now).1 = .ok none) :
    (s.enter (ε := ε) number key requestHash now).1
      = match now.add? (s.guard number).lifetime with
        | some expiresAt => .cleared expiresAt
        | none =>
          .answered (.error (.refused
            (.expiryOverflow (s.guard number).lifetime.wholeSeconds))) := by
  obtain ⟨answer, s', hanswer⟩ : ∃ answer s', s.guardedGet key now = (answer, s') := ⟨_, _, rfl⟩
  obtain rfl : answer = .ok none := by rwa [hanswer] at hget
  unfold Service.enter
  simp only [hanswer, Guard.decide]
  cases now.add? (s.guard number).lifetime with
  | none => rfl
  | some expiresAt => rfl

/-- A call whose key holds a record that counts is answered: with the record's
payload if the record is of the same request, and else by a conflict. -/
theorem enter_of_found (h : s.Holds ix) {r : Record}
    (hfound : (ix.lookup key now).found = some r) :
    (s.enter (ε := ε) number key requestHash now).1
      = .answered (if r.requestHash = requestHash then .ok r.payload
          else .error (.refused (.conflict key))) :=
  enter_of_got_some (by rw [guardedGet_found h, hfound])

/-- A call whose key holds nothing that counts is cleared to run, unless its
record could not expire. -/
theorem enter_of_missed (h : s.Holds ix) (hfound : (ix.lookup key now).found = none) :
    (s.enter (ε := ε) number key requestHash now).1
      = match now.add? (s.guard number).lifetime with
        | some expiresAt => .cleared expiresAt
        | none =>
          .answered (.error (.refused
            (.expiryOverflow (s.guard number).lifetime.wholeSeconds))) :=
  enter_of_got_none (by rw [guardedGet_found h, hfound])

/-- Whatever the first part of a call decides, the service is the one after the
lookup, perhaps with a note in it. -/
theorem enter_service (s : Service) (number : Nat) (key requestHash : String) (now : Instant) :
    (s.enter (ε := ε) number key requestHash now).2 = (s.guardedGet key now).2
      ∨ ∃ count event, (s.enter (ε := ε) number key requestHash now).2
          = (s.guardedGet key now).2.note number count event := by
  unfold Service.enter
  cases hget : s.guardedGet key now with
  | mk answer s' =>
    cases answer with
    | error refusal => exact .inl rfl
    | ok found =>
      simp only
      cases (s.guard number).decide now requestHash found with
      | conflict => exact .inr ⟨_, _, rfl⟩
      | replay payload => exact .inr ⟨_, _, rfl⟩
      | overflow => exact .inl rfl
      | execute expiresAt => exact .inl rfl

/-- The first part of a call does to the records what its lookup does. -/
theorem Holds.enter (h : s.Holds ix) (number : Nat) (key requestHash : String) (now : Instant) :
    (s.enter (ε := ε) number key requestHash now).2.Holds (ix.lookup key now).index := by
  rcases enter_service (ε := ε) s number key requestHash now with heq | ⟨count, event, heq⟩
  · rw [heq]
    exact h.guardedGet key now
  · rw [heq]
    exact (h.guardedGet key now).note number count event

/-- The first part of a call keeps clock and lifetimes, whatever it decides. -/
theorem keeps_enter (s : Service) (number : Nat) (key requestHash : String) (now : Instant) :
    s.Keeps (s.enter (ε := ε) number key requestHash now).2 := by
  rcases enter_service (ε := ε) s number key requestHash now with heq | ⟨count, event, heq⟩
  · rw [heq]
    exact keeps_guardedGet s key now
  · rw [heq]
    exact (keeps_guardedGet s key now).trans (keeps_note _ number count event)

/-! ### The last part of a call -/

/-- A failure of the operation leaves the records. -/
theorem Holds.abandon (h : s.Holds ix) (number : Nat) (key : String) :
    (s.abandon number key).Holds ix :=
  h.note number _ _

/-- A failure of the operation keeps clock and lifetimes. -/
theorem keeps_abandon (s : Service) (number : Nat) (key : String) :
    s.Keeps (s.abandon number key) :=
  keeps_note s number _ _

/-- What a guard gets when it gives the service a record is what the index
makes of it. -/
theorem guardedPut_placement (h : s.Holds ix) (r : Record) :
    (s.guardedPut r).1 = (ix.put r).map (·.1) := by
  simp only [Service.guardedPut, h.outage, Service.put, Store.put, h.store]
  cases ix.put r with
  | error refusal => rfl
  | ok placed => rfl

/-- A guard's put stores its record exactly if the key is free. -/
theorem Holds.guardedPut (h : s.Holds ix) (r : Record) :
    (s.guardedPut r).2.Holds (if ix.find? r.key = none then ix.store r else ix) := by
  refine ⟨?_, by simp [Service.guardedPut, h.outage, Service.put]⟩
  simp only [Service.guardedPut, h.outage, Service.put, Store.put, h.store]
  cases hheld : ix.find? r.key with
  | none =>
    rw [Index.put_of_free hheld]
    rfl
  | some held =>
    rw [Index.put_of_held hheld]
    by_cases hhash : held.requestHash = r.requestHash
    · simp [hhash]
    · simp [hhash]

/-- A guard's put keeps clock and lifetimes, whether or not it gets through. -/
theorem keeps_guardedPut (s : Service) (r : Record) : s.Keeps (s.guardedPut r).2 := by
  cases h : s.outage.put with
  | none => constructor <;> simp [Service.guardedPut, h, Service.put, Service.guard]
  | some reason => constructor <;> simp [Service.guardedPut, h, Service.guard]

/-- The result of a call whose operation has run: its own payload if the key is
free or holds a record of the same request, and else a conflict. -/
theorem settle_result (h : s.Holds ix) (number : Nat) (r : Record) :
    (s.settle (ε := ε) number r).1
      = if ∀ held, ix.find? r.key = some held → held.requestHash = r.requestHash
        then .ok r.payload else .error (.refused (.conflict r.key)) := by
  obtain ⟨placed, s', hput⟩ : ∃ placed s', s.guardedPut r = (placed, s') := ⟨_, _, rfl⟩
  have hplaced : placed = (ix.put r).map (·.1) := by
    have hval := guardedPut_placement h r
    rwa [hput] at hval
  unfold Service.settle
  simp only [hput, hplaced]
  cases hheld : ix.find? r.key with
  | none =>
    rw [Index.put_of_free hheld]
    simp [Except.map]
  | some held =>
    rw [Index.put_of_held hheld]
    by_cases hhash : held.requestHash = r.requestHash
    · simp [hhash, Except.map]
    · simp [hhash, Except.map]

/-- Whatever becomes of the put, the service is the one after it, perhaps with a note in
it. -/
theorem settle_service (s : Service) (number : Nat) (r : Record) :
    (s.settle (ε := ε) number r).2 = (s.guardedPut r).2
      ∨ ∃ count event, (s.settle (ε := ε) number r).2
          = (s.guardedPut r).2.note number count event := by
  unfold Service.settle
  cases hput : s.guardedPut r with
  | mk placed s' =>
    cases placed with
    | ok placement => exact .inr ⟨_, _, rfl⟩
    | error refusal =>
      -- Of the refusals, only a conflict is counted.
      cases refusal with
      | conflict key => exact .inr ⟨_, _, rfl⟩
      | keyRequired => exact .inl rfl
      | codec reason => exact .inl rfl
      | expiryOverflow seconds => exact .inl rfl
      | storage reason => exact .inl rfl

/-- The last part of a call stores its record exactly if the key is free. -/
theorem Holds.settle (h : s.Holds ix) (number : Nat) (r : Record) :
    (s.settle (ε := ε) number r).2.Holds (if ix.find? r.key = none then ix.store r else ix) := by
  rcases settle_service (ε := ε) s number r with heq | ⟨count, event, heq⟩
  · rw [heq]
    exact h.guardedPut r
  · rw [heq]
    exact (h.guardedPut r).note number count event

/-- The last part of a call keeps clock and lifetimes, whatever becomes of the put. -/
theorem keeps_settle (s : Service) (number : Nat) (r : Record) :
    s.Keeps (s.settle (ε := ε) number r).2 := by
  rcases settle_service (ε := ε) s number r with heq | ⟨count, event, heq⟩
  · rw [heq]
    exact keeps_guardedPut s r
  · rw [heq]
    exact (keeps_guardedPut s r).trans (keeps_note _ number count event)

end

/-! ### A call from its parts -/

section
variable {ω ε : Type} {s s₁ s₂ : Service} {number : Nat} {key requestHash : String}
  {operation : Operation ω ε Bytes} {expiresAt : Instant} {trace : ω}

/-- A call that has its answer after the lookup does not run its operation. -/
theorem callRaw_of_answered {result : Except (Failure ε) Bytes}
    (henter : s.enter number key requestHash s.now = (.answered result, s₁)) :
    s.callRaw number key requestHash operation = ⟨result, none, s₁⟩ := by
  unfold Service.callRaw
  rw [henter]

/-- A call that gets a record from the store does not run its operation. It gives the
record's payload if the record is of the same request, and else a conflict. -/
theorem callRaw_of_got_some {r : Record} (hget : (s.guardedGet key s.now).1 = .ok (some r))
    (number : Nat) (requestHash : String) (operation : Operation ω ε Bytes) :
    (s.callRaw number key requestHash operation).trace = none
      ∧ (s.callRaw number key requestHash operation).result
        = if r.requestHash = requestHash then .ok r.payload
          else .error (.refused (.conflict key)) := by
  have hentrance : (s.enter (ε := ε) number key requestHash s.now).1 = _ := enter_of_got_some hget
  rw [callRaw_of_answered (Prod.ext hentrance rfl)]
  exact ⟨rfl, rfl⟩

/-- A call whose operation fails gives the failure as it is. -/
theorem callRaw_of_failed {failure : Failure ε}
    (henter : s.enter (ε := ε) number key requestHash s.now = (.cleared expiresAt, s₁))
    (hrun : operation s₁ = (.error failure, trace, s₂)) :
    s.callRaw number key requestHash operation
      = ⟨.error failure, some trace, s₂.abandon number key⟩ := by
  unfold Service.callRaw
  rw [henter]
  simp only [hrun]

/-- A call whose operation succeeds ends in `Service.settle`. -/
theorem callRaw_of_done {payload : Bytes}
    (henter : s.enter (ε := ε) number key requestHash s.now = (.cleared expiresAt, s₁))
    (hrun : operation s₁ = (.ok payload, trace, s₂)) :
    s.callRaw number key requestHash operation
      = ⟨(s₂.settle number ⟨key, requestHash, payload, expiresAt⟩).1, some trace,
          (s₂.settle (ε := ε) number ⟨key, requestHash, payload, expiresAt⟩).2⟩ := by
  unfold Service.callRaw
  rw [henter]
  simp only [hrun]

/-- How a call can go. -/
theorem callRaw_cases (s : Service) (number : Nat) (key requestHash : String)
    (operation : Operation ω ε Bytes) :
    (∃ result s₁, s.enter number key requestHash s.now = (.answered result, s₁)
      ∧ s.callRaw number key requestHash operation = ⟨result, none, s₁⟩)
    ∨ ∃ expiresAt s₁, s.enter (ε := ε) number key requestHash s.now = (.cleared expiresAt, s₁)
      ∧ ((∃ failure trace s₂, operation s₁ = (.error failure, trace, s₂)
          ∧ s.callRaw number key requestHash operation
            = ⟨.error failure, some trace, s₂.abandon number key⟩)
        ∨ ∃ payload trace s₂, operation s₁ = (.ok payload, trace, s₂)
          ∧ s.callRaw number key requestHash operation
            = ⟨(s₂.settle number ⟨key, requestHash, payload, expiresAt⟩).1, some trace,
              (s₂.settle (ε := ε) number ⟨key, requestHash, payload, expiresAt⟩).2⟩) := by
  cases henter : s.enter (ε := ε) number key requestHash s.now with
  | mk entrance s₁ =>
    cases entrance with
    | answered result => exact .inl ⟨result, s₁, rfl, callRaw_of_answered henter⟩
    | cleared expiresAt =>
      refine .inr ⟨expiresAt, s₁, rfl, ?_⟩
      obtain ⟨outcome, trace, s₂, hrun⟩ : ∃ outcome trace s₂, operation s₁ = (outcome, trace, s₂) :=
        ⟨_, _, _, rfl⟩
      cases outcome with
      | error failure =>
        exact .inl ⟨failure, trace, s₂, hrun, callRaw_of_failed henter hrun⟩
      | ok payload => exact .inr ⟨payload, trace, s₂, hrun, callRaw_of_done henter hrun⟩

end

/-! ### Results in the form of a codec -/

section
variable {ω ε α : Type}

/-- The result of a call is read back from the bytes. -/
theorem result_call (s : Service) (codec : Codec α) (number : Nat) (key requestHash : String)
    (operation : Operation ω ε α) :
    (s.call codec number key requestHash operation).result
      = (s.callRaw number key requestHash (encoded codec operation)).result
        >>= decoded codec key := rfl

/-- A typed call runs its operation exactly if the call for bytes does, and it leaves
the same trace. -/
theorem trace_call (s : Service) (codec : Codec α) (number : Nat) (key requestHash : String)
    (operation : Operation ω ε α) :
    (s.call codec number key requestHash operation).trace
      = (s.callRaw number key requestHash (encoded codec operation)).trace := rfl

/-- A typed call leaves the service that the call for bytes leaves. -/
theorem service_call (s : Service) (codec : Codec α) (number : Nat) (key requestHash : String)
    (operation : Operation ω ε α) :
    (s.call codec number key requestHash operation).service
      = (s.callRaw number key requestHash (encoded codec operation)).service := rfl

/-- Encoding concerns the result only. -/
theorem snd_encoded (codec : Codec α) (operation : Operation ω ε α) (s : Service) :
    (encoded codec operation s).2 = (operation s).2 := by
  unfold encoded
  split
  · next hrun => rw [hrun]
  · next hrun =>
    rw [hrun]
    dsimp only
    split
    · rfl
    · rfl

end

end Service

end Idempotency
