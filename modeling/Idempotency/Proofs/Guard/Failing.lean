import Idempotency.Proofs.Guard.InMemory
import Idempotency.Proofs.Store.Putting

/-!
# `Idempotency.Proofs.Guard.Failing`: what a call that fails leaves behind

A store takes a record or leaves its index as it was (`Index.Takes`), in memory and
in a journal alike, whatever steps on the disk fail. So the records after a call
follow from what the call did: its lookup, its operation, and the put of its result,
if it came to that (`index_enter`, `takes_settle`).

A call that fails has inserted no record, with one exception (`call_failed`). The
result of the operation is recorded before it is read back. If it does not read
back, the caller gets a refusal, and the record stays: until it expires, a retry gets
the same refusal, and the operation does not run again (`unreadable_recorded`).
-/

set_option autoImplicit false

namespace Idempotency

namespace Service

section
variable {s : Service} {ε : Type}

/-! ### The parts of a call -/

/-- The records once a guard has looked a key up: without the key's record, if that
has expired. Where the guards are cut off from the store, nothing changes. -/
def lookedUp (s : Service) (key : String) : Index :=
  match s.outage.get with
  | none => (s.store.index.lookup key s.now).index
  | some _ => s.store.index

/-- A guard's lookup leaves those records. -/
theorem index_guardedGet (s : Service) (key : String) :
    (s.guardedGet key s.now).2.store.index = s.lookedUp key := by
  cases houtage : s.outage.get with
  | none =>
    simp only [Service.guardedGet, lookedUp, houtage]
    exact Store.index_withIndex _ _
  | some reason => simp only [Service.guardedGet, lookedUp, houtage]

/-- So does the first part of a call, whatever it decides. -/
theorem index_enter (s : Service) (number : Nat) (key requestHash : String) :
    (s.enter (ε := ε) number key requestHash s.now).2.store.index = s.lookedUp key := by
  rw [← index_guardedGet]
  rcases enter_service (ε := ε) s number key requestHash s.now with heq | ⟨count, event, heq⟩
  · rw [heq]
  · rw [heq]
    rfl

/-- A guard's put inserts its record under a free key, or leaves the index as it is. -/
theorem takes_guardedPut (s : Service) (r : Record) :
    s.store.index.Takes r (s.guardedPut r).1 (s.guardedPut r).2.store.index := by
  cases houtage : s.outage.put with
  | none =>
    simp only [Service.guardedPut, houtage]
    exact s.store.takes_put r s.disk
  | some reason =>
    simp only [Service.guardedPut, houtage]
    refine .inr ⟨?_, rfl⟩
    intro hinserted
    cases hinserted

/-- So does the last part of a call. -/
theorem takes_settle (s : Service) (number : Nat) (r : Record) :
    s.store.index.Takes r (s.guardedPut r).1 (s.settle (ε := ε) number r).2.store.index := by
  have htakes := s.takes_guardedPut r
  rcases settle_service (ε := ε) s number r with heq | ⟨count, event, heq⟩
  · rw [heq]
    exact htakes
  · rw [heq]
    exact htakes

/-- The result of a call whose record has been taken is the record's payload. -/
theorem settle_of_placed {number : Nat} {r : Record} {placement : Placement}
    (hput : (s.guardedPut r).1 = .ok placement) :
    (s.settle (ε := ε) number r).1 = .ok r.payload := by
  cases hplaced : s.guardedPut r with
  | mk placed s' =>
    rw [hplaced] at hput
    obtain rfl : placed = .ok placement := hput
    unfold Service.settle
    rw [hplaced]

end

/-! ### Results in the form of a codec -/

section
variable {ω ε α : Type} {s s' : Service} {codec : Codec α} {number : Nat}
  {key requestHash : String} {operation : Operation ω ε α} {trace : ω}

/-- Bytes come from a value that can be written. -/
theorem of_encoded_ok {payload : Bytes}
    (h : encoded codec operation s = (.ok payload, trace, s')) :
    ∃ value text, operation s = (.ok value, trace, s') ∧ codec.write value = .ok text
      ∧ payload = Text.encode text := by
  unfold encoded at h
  split at h
  · exact nomatch (Prod.mk.inj h).1
  · next value _ _ hrun =>
    split at h
    · next text hwrite =>
      cases h
      exact ⟨value, text, hrun, hwrite, rfl⟩
    · exact nomatch (Prod.mk.inj h).1

/-- Where there are no bytes, the operation has failed, or its value cannot be
written. -/
theorem of_encoded_error {failure : Failure ε}
    (h : encoded codec operation s = (.error failure, trace, s')) :
    ∃ outcome, operation s = (outcome, trace, s')
      ∧ ∀ value text, outcome = .ok value → codec.write value ≠ .ok text := by
  unfold encoded at h
  split at h
  · next hrun =>
    cases h
    exact ⟨.error failure, hrun, nofun⟩
  · next value _ _ hrun =>
    split at h
    · exact nomatch (Prod.mk.inj h).1
    · next e hwrite =>
      cases h
      refine ⟨.ok value, hrun, fun other text hother hok => ?_⟩
      cases hother
      rw [hwrite] at hok
      exact nomatch hok

/-- Bytes that are not read back are refused for that. -/
theorem of_decoded_error {payload : Bytes} {failure : Failure ε}
    (h : decoded codec key payload = .error failure) :
    ∃ e, Json.readBytes codec.read payload = .error e
      ∧ failure = .refused (.codec
        ("failed to decode stored result for key " ++ key ++ ": " ++ e.message)) := by
  unfold decoded at h
  split at h
  · exact nomatch h
  · next e hread =>
    cases h
    exact ⟨e, hread, rfl⟩

/-! ### A call that fails -/

/-- A call that fails has recorded nothing, unless it is its own result that cannot be
read back. Let a call fail, on a service with any store, cut off from its guards or
not, and on any disk. If its operation has not run, the records are as after the
lookup. If it has run, it found the records as after the lookup, and the records are
as it left them; the exception is an operation whose value is written and inserted,
and does not read back. Then the call fails for that, and the records have one more,
under a key that was free. -/
theorem call_failed {failure : Failure ε}
    (hfails : (s.call codec number key requestHash operation).result = .error failure) :
    (s.call codec number key requestHash operation).trace = none
        ∧ (s.call codec number key requestHash operation).service.store.index = s.lookedUp key
      ∨ ∃ expiresAt before outcome trace left,
        s.enter (ε := ε) number key requestHash s.now = (.cleared expiresAt, before)
        ∧ before.store.index = s.lookedUp key
        ∧ operation before = (outcome, trace, left)
        ∧ (s.call codec number key requestHash operation).trace = some trace
        ∧ ((∀ value text, outcome = .ok value → codec.write value = .ok text →
              (left.guardedPut ⟨key, requestHash, Text.encode text, expiresAt⟩).1 ≠ .ok .inserted)
            ∧ (s.call codec number key requestHash operation).service.store.index
              = left.store.index
          ∨ ∃ value text e, outcome = .ok value ∧ codec.write value = .ok text
            ∧ (left.guardedPut ⟨key, requestHash, Text.encode text, expiresAt⟩).1 = .ok .inserted
            ∧ Json.readBytes codec.read (Text.encode text) = .error e
            ∧ failure = .refused (.codec
              ("failed to decode stored result for key " ++ key ++ ": " ++ e.message))
            ∧ left.store.index.find? key = none
            ∧ (s.call codec number key requestHash operation).service.store.index
              = left.store.index.store ⟨key, requestHash, Text.encode text, expiresAt⟩) := by
  have hentered := s.index_enter (ε := ε) number key requestHash
  rw [result_call] at hfails
  rw [service_call, trace_call]
  rcases callRaw_cases s number key requestHash (encoded codec operation) with
    ⟨result, s₁, henter, hcall⟩ | ⟨expiresAt, before, henter, hran⟩
  · rw [henter] at hentered
    rw [hcall]
    exact .inl ⟨rfl, hentered⟩
  · rw [henter] at hentered
    refine .inr ⟨expiresAt, before, ?_⟩
    rcases hran with ⟨failure', trace, left, hrun, hcall⟩ | ⟨payload, trace, left, hrun, hcall⟩
    · -- There is nothing to put.
      obtain ⟨outcome, hrun', hunwritten⟩ := of_encoded_error hrun
      rw [hcall]
      refine ⟨outcome, trace, left, henter, hentered, hrun', rfl, .inl ⟨?_, rfl⟩⟩
      intro value text hvalue hwrite
      exact absurd hwrite (hunwritten value text hvalue)
    · obtain ⟨value, text, hrun', hwrite, rfl⟩ := of_encoded_ok hrun
      refine ⟨.ok value, trace, left, henter, hentered, hrun', by rw [hcall], ?_⟩
      rw [hcall] at hfails ⊢
      rcases left.takes_settle (ε := ε) number ⟨key, requestHash, Text.encode text, expiresAt⟩ with
        ⟨hinserted, hfree, hindex⟩ | ⟨hkept, hindex⟩
      · rw [settle_of_placed hinserted] at hfails
        obtain ⟨e, hread, hfailure⟩ := of_decoded_error hfails
        exact .inr ⟨value, text, e, rfl, hwrite, hinserted, hread, hfailure, hfree, hindex⟩
      · refine .inl ⟨fun value' text' hvalue hwrite' => ?_, hindex⟩
        cases hvalue
        rw [hwrite] at hwrite'
        cases hwrite'
        exact hkept

/-- A record that has expired under its key. -/
def stale : Record := ⟨"key", "buy", [], { seconds := 4, nanos := 0 }⟩

/-- A record of another key. -/
def aside : Record := ⟨"other", "sell", [], { seconds := 12, nanos := 0 }⟩

/-- An operation that fails after giving the store a record of its own. -/
def meddling : Operation Unit String Bool := fun s =>
  (.error (.domain "sold out"), (), (s.put aside).2)

/-- The expired record is gone, the operation's own record is there, and the call has
left none. -/
theorem call_failed_meddling :
    (Service.call
        { fresh { seconds := 5, nanos := 0 } [] with store := .memory (Index.empty.store stale) }
        Codec.bool 0 "key" "buy" meddling).result = .error (.domain "sold out")
      ∧ (Service.call
        { fresh { seconds := 5, nanos := 0 } [] with store := .memory (Index.empty.store stale) }
        Codec.bool 0 "key" "buy" meddling).service.store.index = Index.empty.store aside := by
  have hfails : (Service.call
      { fresh { seconds := 5, nanos := 0 } [] with store := .memory (Index.empty.store stale) }
      Codec.bool 0 "key" "buy" meddling).result = .error (.domain "sold out") := by
    decide +kernel
  refine ⟨hfails, ?_⟩
  rcases call_failed hfails with ⟨htrace, _⟩ |
    ⟨expiresAt, before, outcome, trace, left, henter, -, hrun, -, ⟨-, hindex⟩ | hunread⟩
  · exact absurd htrace (by decide +kernel)
  · obtain rfl : _ = before := congrArg Prod.snd henter
    obtain rfl : _ = left := congrArg (fun ran => ran.2.2) hrun
    rw [hindex]
    decide +kernel
  · obtain ⟨value, _, _, hvalue, -⟩ := hunread
    exact nomatch hvalue.symm.trans (congrArg Prod.fst hrun).symm

/-- An operation whose result is infinite. It is written as `null`. -/
def overflown : Operation Unit Empty Double := fun s => (.ok ⟨0x7FF0000000000000⟩, (), s)

/-- The call fails, but its record is there, and a retry fails for it without
running the operation. -/
theorem unreadable_recorded :
    ((fresh { seconds := 0, nanos := 0 } []).call Codec.double 0 "key" "buy" overflown).result
        = .error (.refused (.codec
          "failed to decode stored result for key key: invalid type: null, expected f64"))
      ∧ ((fresh { seconds := 0, nanos := 0 } []).call Codec.double 0 "key" "buy"
          overflown).service.store.index
        = Index.empty.store
          ⟨"key", "buy", Text.encode "null".toList, { seconds := 604800, nanos := 0 }⟩
      ∧ (((fresh { seconds := 0, nanos := 0 } []).call Codec.double 0 "key" "buy"
          overflown).service.call Codec.double 0 "key" "buy" overflown).trace = none := by
  refine ⟨?_, ?_, ?_⟩
  · decide +kernel
  · decide +kernel
  · decide +kernel

end

end Service

end Idempotency
