import Idempotency.Proofs.Guard.InMemory
import Idempotency.Proofs.Journal.Refinement

/-!
# `Idempotency.Proofs.Guard.OnJournal`: a call, on records in a journal

`Service.Journals` says what a service with a journal holds: the index, and a file
that has it too. Whatever is asked of the store at the time of the clock keeps it, as
long as no step on the disk fails, and does to the index what it would do to that of
a store in memory (`Journals.serve`).

A call keeps it as well (`Journals.callRaw`), and no record that still counts is
lost or replaced (`Index.Retains`). If a record is under the key when the operation
has run, it has the payload that the call gives.
-/

set_option autoImplicit false

namespace Idempotency

/-! ### Records that stay -/

namespace Index

/-- Every record that counts at the instant stays. -/
def Retains (now : Instant) (ix ix' : Index) : Prop :=
  ∀ key r, ix.find? key = some r → r.isExpiredAt now = false → ix'.find? key = some r

variable {now late : Instant} {ix ix' ix'' : Index} {r : Record}

/-- An index retains its own records. -/
theorem retains_refl (now : Instant) (ix : Index) : ix.Retains now ix := fun _ _ hfind _ => hfind

/-- What stays in each of two steps stays in both together. -/
theorem Retains.trans (h : ix.Retains now ix') (h' : ix'.Retains now ix'') :
    ix.Retains now ix'' :=
  fun key r hfind hlive => h' key r (h key r hfind hlive) hlive

/-- Fewer records count later. -/
theorem Retains.mono (h : ix.Retains now ix') (hle : now ≤ late) : ix.Retains late ix' :=
  fun key r hfind hlive => h key r hfind (Record.live_of_le hle hlive)

/-- A sweep takes none of the records that count. -/
theorem retains_live (now : Instant) (ix : Index) : ix.Retains now (ix.live now) := by
  intro key r hfind hlive
  rw [find?_live, hfind, Option.filter_some, hlive]
  rfl

/-- Nor does a lookup. -/
theorem retains_lookup (ix : Index) (key : String) (now : Instant) :
    ix.Retains now (ix.lookup key now).index := by
  intro k r hfind hlive
  by_cases hk : k = key
  · subst hk
    rw [find?_lookup_self, found_eq_some_iff]
    exact ⟨hfind, hlive⟩
  · rw [find?_lookup_of_ne ix now hk, hfind]

/-- Nor does a record that is stored under a free key. -/
theorem retains_store (hfree : ix.find? r.key = none) (now : Instant) :
    ix.Retains now (ix.store r) := by
  intro key a hfind _
  have hne : key ≠ r.key := by
    rintro rfl
    rw [hfree] at hfind
    exact nomatch hfind
  rw [find?_store, if_neg hne, hfind]

end Index

namespace Store

/-- What is asked of a store in memory, at an instant, loses no record that counts
then. -/
theorem retains_serve {request : Request} {reply : Reply} {ix ix' : Index} {d d' : Disk}
    {now : Instant} (hat : ∀ moment ∈ request.moment?, moment = now)
    (hserve : serve request (.memory ix) d = (reply, .memory ix', d')) :
    ix.Retains now ix' := by
  cases request with
  | get key moment =>
    obtain rfl := hat moment rfl
    cases hserve
    exact Index.retains_lookup ix key moment
  | put r =>
    cases hheld : ix.find? r.key with
    | none =>
      simp only [serve, Store.put, Index.put_of_free hheld] at hserve
      cases hserve
      exact Index.retains_store hheld now
    | some held =>
      simp only [serve, Store.put, Index.put_of_held hheld] at hserve
      by_cases hhash : held.requestHash = r.requestHash
      · simp only [hhash, if_true] at hserve
        cases hserve
        exact Index.retains_refl now ix
      · simp only [hhash, if_false] at hserve
        cases hserve
        exact Index.retains_refl now ix
  | size =>
    cases hserve
    exact Index.retains_refl now ix
  | purge moment =>
    obtain rfl := hat moment rfl
    cases hserve
    exact Index.retains_live moment ix
  | compact moment =>
    obtain rfl := hat moment rfl
    cases hserve
    exact Index.retains_live moment ix
  | reopen moment =>
    obtain rfl := hat moment rfl
    cases hserve
    exact Index.retains_live moment ix

end Store

/-! ### Operations that keep off -/

section
variable {ω ε α : Type}

/-- The operation does nothing to a service but move its clock on. -/
def KeepsOff (operation : Operation ω ε α) : Prop :=
  ∀ s, ∃ later, s.now ≤ later ∧ (operation s).2.2 = { s with now := later }

/-- Encoding the result makes no difference to that. -/
theorem keepsOff_encoded {operation : Operation ω ε α} (h : KeepsOff operation)
    (codec : Codec α) : KeepsOff (Service.encoded codec operation) := by
  intro s
  obtain ⟨later, hle, hservice⟩ := h s
  exact ⟨later, hle, by rw [Service.snd_encoded, hservice]⟩

/-- Whether the store is the reason. -/
def Failure.isStorage : Failure ε → Bool
  | .refused (.storage _) => true
  | _ => false

/-- Whether a call on the service has failed at the disk: the store was given a
record and refused it for a reason of its own. An operation can fail with such a
refusal too, but then the store is given nothing. -/
def Answer.isFault (answer : Answer ω ε α) (s : Service) : Bool :=
  match answer.result with
  | .error failure => failure.isStorage && s.traffic.puts < answer.service.traffic.puts
  | .ok _ => false

end

namespace Service

/-- The service keeps the records of the index in a journal whose file has them
too, and nothing stands between them and the guards. -/
structure Journals (s : Service) (ix : Index) : Prop where
  store : ∃ j, s.store = .journal j ∧ Store.Mirrors s.now j s.disk ix
  outage : s.outage = {}

section
variable {s s' : Service} {ix : Index} {later : Instant}

/-- Only the store, the disk, the clock and the outage play a part in it. -/
theorem Journals.congr (h : s.Journals ix) (hstore : s'.store = s.store)
    (hdisk : s'.disk = s.disk) (hnow : s'.now = s.now) (houtage : s'.outage = s.outage) :
    s'.Journals ix := by
  obtain ⟨j, hj, hmirrors⟩ := h.store
  refine ⟨⟨j, hstore.trans hj, ?_⟩, houtage.trans h.outage⟩
  rw [hnow, hdisk]
  exact hmirrors

/-- The records of the service are those of the index. -/
theorem Journals.index (h : s.Journals ix) : s.store.index = ix := by
  obtain ⟨j, hj, hmirrors⟩ := h.store
  rw [hj, ← hmirrors.index]
  rfl

/-- Time passes. -/
theorem Journals.wait (h : s.Journals ix) (hle : s.now ≤ later) :
    Journals { s with now := later } ix := by
  obtain ⟨j, hj, hindex, rs, hstands, hcovers⟩ := h.store
  exact ⟨⟨j, hj, hindex, rs, hstands, hcovers.mono hle⟩, h.outage⟩

/-- Counting and reporting touch neither the records nor the file. -/
theorem Journals.note (h : s.Journals ix) (number : Nat) (count : Count) (event : Event) :
    (s.note number count event).Journals ix :=
  h.congr rfl rfl rfl rfl

/-- What is asked of the store at the time of the clock is answered, and done to the
index, as by a store in memory. -/
theorem Journals.serve (h : s.Journals ix) {request : Store.Request} {reply : Store.Reply}
    (hat : ∀ moment ∈ request.moment?, moment = s.now)
    (hserve : Store.serve request s.store s.disk = (reply, s'.store, s'.disk))
    (hfault : reply.isFault = false) (hnow : s'.now = s.now) (houtage : s'.outage = s.outage) :
    ∃ ix', (∀ d, Store.serve request (.memory ix) d = (reply, .memory ix', d))
      ∧ s'.Journals ix' ∧ ix.Retains s.now ix' := by
  obtain ⟨j, hj, hmirrors⟩ := h.store
  rw [hj] at hserve
  obtain ⟨reply', j', d', ix', hjournal, hmemory, hmirrors'⟩ := hmirrors.serve
    (fun moment hmoment => le_of_eq (hat moment hmoment).symm) (by rw [hserve]; exact hfault)
  rw [hserve] at hjournal
  obtain ⟨rfl, hstore, hdisk⟩ : reply = reply' ∧ s'.store = .journal j' ∧ s'.disk = d' := by
    simpa only [Prod.mk.injEq] using hjournal
  have hmoment : request.moment?.getD s.now = s.now := by
    cases hmoment : request.moment? with
    | none => rfl
    | some moment => exact hat moment hmoment
  refine ⟨ix', hmemory, ⟨⟨j', hstore, ?_⟩, houtage.trans h.outage⟩,
    Store.retains_serve hat (hmemory s.disk)⟩
  rw [hdisk, hnow, ← hmoment]
  exact hmirrors'

/-! ### The parts of a call -/

variable {ε : Type} {key : String}

/-- Where nothing stands in between, a guard's lookup is one of the store. -/
theorem serve_guardedGet (h : s.outage = {}) (key : String) (now : Instant) :
    Store.serve (.get key now) s.store s.disk
      = (.found (s.store.get key now).1, (s.guardedGet key now).2.store,
        (s.guardedGet key now).2.disk) := by
  have houtage : s.outage.get = none := by rw [h]
  simp only [Service.guardedGet, houtage]
  rfl

/-- Where nothing stands in between, a guard's put is one of the store. -/
theorem serve_guardedPut (h : s.outage = {}) (r : Record) :
    Store.serve (.put r) s.store s.disk
      = (.placed (s.guardedPut r).1, (s.guardedPut r).2.store, (s.guardedPut r).2.disk) := by
  have houtage : s.outage.put = none := by rw [h]
  simp only [Service.guardedPut, houtage]
  rfl

/-- A guard's lookup changes nothing about what stands in between. -/
theorem outage_guardedGet (s : Service) (key : String) (now : Instant) :
    (s.guardedGet key now).2.outage = s.outage := by
  unfold Service.guardedGet
  dsimp only
  split
  · rfl
  · rfl

/-- Nor does a guard's put. -/
theorem outage_guardedPut (s : Service) (r : Record) :
    (s.guardedPut r).2.outage = s.outage := by
  unfold Service.guardedPut
  dsimp only
  split
  · rfl
  · rfl

/-- A guard gets what the index has, and the store is as after a lookup. -/
theorem Journals.guardedGet (h : s.Journals ix) (key : String) :
    (s.guardedGet key s.now).1 = .ok (ix.lookup key s.now).found
      ∧ (s.guardedGet key s.now).2.Journals (ix.lookup key s.now).index := by
  have houtage : s.outage.get = none := by rw [h.outage]
  obtain ⟨ix', hmemory, hjournals, -⟩ := h.serve (by simp [Store.Request.moment?])
    (serve_guardedGet h.outage key s.now) rfl (keeps_guardedGet s key s.now).now
    (outage_guardedGet s key s.now)
  obtain ⟨hreply, rfl⟩ : (ix.lookup key s.now).found = (s.store.get key s.now).1
      ∧ (ix.lookup key s.now).index = ix' := by
    have hget := hmemory s.disk
    simp only [Store.serve, Prod.mk.injEq, Store.Reply.found.injEq] at hget
    exact ⟨hget.1, Store.memory.inj hget.2.1⟩
  refine ⟨?_, hjournals⟩
  simp only [Service.guardedGet, houtage]
  rw [hreply]
  rfl

/-- The first part of a call does to the records what its lookup does. -/
theorem Journals.enter (h : s.Journals ix) (number : Nat) (key requestHash : String) :
    (s.enter (ε := ε) number key requestHash s.now).2.Journals (ix.lookup key s.now).index := by
  rcases enter_service (ε := ε) s number key requestHash s.now with heq | ⟨count, event, heq⟩
  · rw [heq]
    exact (h.guardedGet key).2
  · rw [heq]
    exact (h.guardedGet key).2.note number count event

/-- A call that is cleared to run has found its key free. -/
theorem Journals.free_of_cleared (h : s.Journals ix) {number : Nat} {requestHash : String}
    {expiresAt : Instant}
    (henter : (s.enter (ε := ε) number key requestHash s.now).1 = .cleared expiresAt) :
    (ix.lookup key s.now).index.find? key = none := by
  have hget := (h.guardedGet key).1
  rw [Index.find?_lookup_self]
  cases hfound : (ix.lookup key s.now).found with
  | none => rfl
  | some r =>
    rw [hfound] at hget
    rw [enter_of_got_some hget] at henter
    exact nomatch henter

/-- A record with a free key is in the index, if the disk takes it. -/
theorem Journals.guardedPut (h : s.Journals ix) {r : Record} (hfree : ix.find? r.key = none)
    (hfault : ∀ reason, (s.guardedPut r).1 ≠ .error (.storage reason)) :
    (s.guardedPut r).1 = .ok .inserted ∧ (s.guardedPut r).2.Journals (ix.store r) := by
  have hreply : (Store.Reply.placed (s.guardedPut r).1).isFault = false := by
    cases hplaced : (s.guardedPut r).1 with
    | ok placement => rfl
    | error refusal =>
      cases refusal with
      | storage reason => exact absurd hplaced (hfault reason)
      | keyRequired => rfl
      | conflict key => rfl
      | codec reason => rfl
      | expiryOverflow seconds => rfl
  obtain ⟨ix', hmemory, hjournals, -⟩ := h.serve (by simp [Store.Request.moment?])
    (serve_guardedPut h.outage r) hreply (keeps_guardedPut s r).now (outage_guardedPut s r)
  obtain ⟨hplaced, rfl⟩ : .ok .inserted = (s.guardedPut r).1 ∧ ix.store r = ix' := by
    have hput := hmemory s.disk
    simp only [Store.serve, Store.put, Index.put_of_free hfree, Prod.mk.injEq,
      Store.Reply.placed.injEq, Store.memory.injEq] at hput
    exact ⟨hput.1, hput.2.1⟩
  exact ⟨hplaced.symm, hjournals⟩

/-- The last part of a call gives the payload of its record, which the index then
has. -/
theorem Journals.settle (h : s.Journals ix) (number : Nat) {r : Record}
    (hfree : ix.find? r.key = none)
    (hfault : ∀ reason, (s.guardedPut r).1 ≠ .error (.storage reason)) :
    (s.settle (ε := ε) number r).1 = .ok r.payload
      ∧ (s.settle (ε := ε) number r).2.Journals (ix.store r) := by
  obtain ⟨hplaced, hjournals⟩ := h.guardedPut hfree hfault
  cases hput : s.guardedPut r with
  | mk placed s' =>
    rw [hput] at hplaced hjournals
    obtain rfl : placed = .ok .inserted := hplaced
    unfold Service.settle
    rw [hput]
    exact ⟨rfl, hjournals.note number _ _⟩

/-- A call whose record has not been kept ends with the reason. -/
theorem settle_of_storage {number : Nat} {r : Record} {reason : String}
    (hput : (s.guardedPut r).1 = .error (.storage reason)) :
    (s.settle (ε := ε) number r).1 = .error (.refused (.storage reason)) := by
  cases hplaced : s.guardedPut r with
  | mk placed s' =>
    rw [hplaced] at hput
    obtain rfl : placed = .error (.storage reason) := hput
    unfold Service.settle
    rw [hplaced]

/-! ### How often the store is given a record -/

/-- The first part of a call gives the store no record. -/
theorem puts_enter (s : Service) (number : Nat) (key requestHash : String) (now : Instant) :
    (s.enter (ε := ε) number key requestHash now).2.traffic.puts = s.traffic.puts := by
  have hget : (s.guardedGet key now).2.traffic.puts = s.traffic.puts := by
    unfold Service.guardedGet
    dsimp only
    split
    · rfl
    · rfl
  rcases enter_service (ε := ε) s number key requestHash now with heq | ⟨count, event, heq⟩
  · rw [heq, hget]
  · rw [heq]
    exact hget

/-- The last part gives it one. -/
theorem puts_settle (s : Service) (number : Nat) (r : Record) :
    (s.settle (ε := ε) number r).2.traffic.puts = s.traffic.puts + 1 := by
  have hput : (s.guardedPut r).2.traffic.puts = s.traffic.puts + 1 := by
    unfold Service.guardedPut
    dsimp only
    split
    · rfl
    · rfl
  rcases settle_service (ε := ε) s number r with heq | ⟨count, event, heq⟩
  · rw [heq, hput]
  · rw [heq]
    exact hput

/-- If a call has not failed at the disk, its put has not. -/
theorem guardedPut_ne_storage {ω : Type} {called : Service} {number : Nat} {r : Record}
    {trace : Option ω} (hputs : s.traffic.puts = called.traffic.puts)
    (hfault : (Answer.mk (s.settle (ε := ε) number r).1 trace
      (s.settle (ε := ε) number r).2).isFault called = false) (reason : String) :
    (s.guardedPut r).1 ≠ .error (.storage reason) := by
  intro hstorage
  have hcount := puts_settle (ε := ε) s number r
  simp only [Answer.isFault, settle_of_storage hstorage, hcount, Failure.isStorage,
    Bool.true_and] at hfault
  exact of_decide_eq_false hfault (Nat.lt_succ_of_le (le_of_eq hputs.symm))

/-! ### A call -/

/-- What becomes of a call, if no step on the disk fails. The service goes on with
the records that count, and if a record is under the key after the operation has
run, then the record is of this request and the result of the call is its payload. -/
theorem Journals.callRaw {ω : Type} (h : s.Journals ix) {number : Nat} {requestHash : String}
    {operation : Operation ω ε Bytes} (hoff : KeepsOff operation)
    (hfault : (s.callRaw number key requestHash operation).isFault s = false) :
    ∃ ix', (s.callRaw number key requestHash operation).service.Journals ix'
      ∧ s.now ≤ (s.callRaw number key requestHash operation).service.now
      ∧ ix.Retains s.now ix'
      ∧ ∀ r, (s.callRaw number key requestHash operation).trace.isSome → ix'.find? key = some r →
        r.requestHash = requestHash
          ∧ (s.callRaw number key requestHash operation).result = .ok r.payload := by
  have hentered := h.enter (ε := ε) number key requestHash
  have hkeeps := keeps_enter (ε := ε) s number key requestHash s.now
  have hputs := puts_enter (ε := ε) s number key requestHash s.now
  have hretains := Index.retains_lookup ix key s.now
  rcases callRaw_cases s number key requestHash operation with
    ⟨result, s₁, henter, hcall⟩ | ⟨expiresAt, s₁, henter, hran⟩
  · rw [henter] at hentered hkeeps
    rw [hcall]
    exact ⟨_, hentered, le_of_eq hkeeps.now.symm, hretains, fun r hrun => nomatch hrun⟩
  · have hfree := h.free_of_cleared (by rw [henter])
    rw [henter] at hentered hkeeps hputs
    obtain ⟨later, hle, hservice⟩ := hoff s₁
    have hlater : s.now ≤ later := by
      rw [← hkeeps.now]
      exact hle
    rcases hran with ⟨failure, trace, s₂, hrun, hcall⟩ | ⟨payload, trace, s₂, hrun, hcall⟩
    · -- The operation has failed, and the key stays free.
      obtain rfl : s₂ = { s₁ with now := later } := by rw [← hservice, hrun]
      rw [hcall]
      refine ⟨_, (hentered.wait hle).note number _ _, hlater, hretains, fun r _ hfind => ?_⟩
      rw [hfree] at hfind
      exact nomatch hfind
    · obtain rfl : s₂ = { s₁ with now := later } := by rw [← hservice, hrun]
      rw [hcall] at hfault ⊢
      have hput : ∀ reason, (Service.guardedPut { s₁ with now := later }
          ⟨key, requestHash, payload, expiresAt⟩).1 ≠ .error (.storage reason) :=
        guardedPut_ne_storage hputs hfault
      obtain ⟨hresult, hjournals⟩ :=
        (hentered.wait hle).settle (ε := ε) number (r := ⟨key, requestHash, payload, expiresAt⟩)
          hfree hput
      refine ⟨_, hjournals, ?_, hretains.trans (Index.retains_store hfree s.now), ?_⟩
      · rw [(keeps_settle _ number _).now]
        exact hlater
      · intro r _ hfind
        rw [Index.find?_store, if_pos rfl] at hfind
        cases hfind
        exact ⟨rfl, hresult⟩

/-- A call whose key holds a record that counts does not run its operation. -/
theorem Journals.callRaw_of_held {ω : Type} (h : s.Journals ix) {r : Record}
    (hfind : ix.find? key = some r) (hlive : r.isExpiredAt s.now = false) (number : Nat)
    (requestHash : String) (operation : Operation ω ε Bytes) :
    (s.callRaw number key requestHash operation).trace = none
      ∧ (s.callRaw number key requestHash operation).result
        = if r.requestHash = requestHash then .ok r.payload
          else .error (.refused (.conflict key)) := by
  have hget := (h.guardedGet key).1
  rw [Index.found_eq_some_iff.2 ⟨hfind, hlive⟩] at hget
  exact callRaw_of_got_some hget number requestHash operation

end

end Service

end Idempotency
