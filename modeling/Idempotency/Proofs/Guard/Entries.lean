import Idempotency.Proofs.Guard.Failing

/-!
# `Idempotency.Proofs.Guard.Entries`: how calls end

A call ends in one of nine ways (`Ending`). Which one it is depends on what the store
answers when the key is looked up, on how the operation comes out, and on what the
store answers when it is given the record (`Request.ending`). What the caller is told
says less: a refusal can come from the operation as well as from the guard or the
store.

`Course` goes through the ways, each with the result and the service that it leaves.
A call takes one of them (`course_answer`), and everything about the ends of calls is
read off from there.
-/

set_option autoImplicit false

namespace Idempotency

/-! ### What a store refuses -/

section
variable {r : Record} {d : Disk} {refusal : Refusal}

/-- An index finds fault with a record for its key only. -/
theorem Index.of_judge_error {ix : Index} (h : ix.judge r = .error refusal) :
    refusal = .conflict r.key := by
  unfold judge Record.judge at h
  split at h
  · cases h
  · split at h
    · cases h
    · cases h
      rfl

/-- An index refuses a record for its key only. -/
theorem Index.of_put_error {ix : Index} (h : ix.put r = .error refusal) :
    refusal = .conflict r.key := by
  unfold put at h
  cases hjudge : ix.judge r with
  | error refused =>
    rw [hjudge] at h
    cases h
    exact of_judge_error hjudge
  | ok judged =>
    rw [hjudge] at h
    cases judged with
    | none => cases h
    | some placement => cases h

/-- A journal refuses a record for its key, or because its line did not get into the
file. -/
theorem Journal.of_put_error {j : Journal} (h : (j.put r d).1 = .error refusal) :
    refusal = .conflict r.key ∨ ∃ reason, refusal = .storage reason := by
  unfold put at h
  cases hjudge : j.index.judge r with
  | error refused =>
    simp only [hjudge] at h
    cases h
    exact .inl (Index.of_judge_error hjudge)
  | ok judged =>
    cases judged with
    | some placement =>
      simp only [hjudge] at h
      cases h
    | none =>
      cases happend : j.append r d with
      | mk fault rest =>
        simp only [hjudge, happend] at h
        cases fault with
        | some fault => exact .inr ⟨_, (Except.error.inj h).symm⟩
        | none => cases h

/-- A record is refused for its key, or because it could not be kept. -/
theorem Store.of_put_error {s : Store} (h : (s.put r d).1 = .error refusal) :
    refusal = .conflict r.key ∨ ∃ reason, refusal = .storage reason := by
  cases s with
  | journal j => exact Journal.of_put_error h
  | memory ix =>
    unfold put at h
    cases hput : ix.put r with
    | ok placed =>
      simp only [hput] at h
      cases h
    | error refused =>
      simp only [hput] at h
      cases h
      exact .inl (Index.of_put_error hput)

end

namespace Service

variable {s s' : Service} {key : String} {now : Instant} {r : Record} {refusal : Refusal}

/-- A lookup is refused only where the guards are cut off from the store. -/
theorem storage_of_guardedGet (h : s.guardedGet key now = (.error refusal, s')) :
    ∃ reason, refusal = .storage reason := by
  cases houtage : s.outage.get with
  | some reason =>
    simp only [guardedGet, houtage] at h
    cases h
    exact ⟨reason, rfl⟩
  | none =>
    simp only [guardedGet, houtage] at h
    cases h

/-- A guard's put is refused for the key of its record, or because the record could not
be kept. -/
theorem of_guardedPut_error (h : s.guardedPut r = (.error refusal, s')) :
    refusal = .conflict r.key ∨ ∃ reason, refusal = .storage reason := by
  cases houtage : s.outage.put with
  | some reason =>
    simp only [guardedPut, houtage] at h
    cases h
    exact .inr ⟨reason, rfl⟩
  | none =>
    simp only [guardedPut, houtage] at h
    exact Store.of_put_error (congrArg Prod.fst h)

end Service

/-- A key that is taken is taken without the blanks around it. -/
theorem of_requireKey_ok {key trimmed : String} (h : requireKey key = .ok trimmed) :
    trimmed = Text.trim key := by
  dsimp only [requireKey] at h
  split at h
  · cases h
  · exact (Except.ok.inj h).symm

/-- A key is refused only for being blank. -/
theorem of_requireKey_error {key : String} {refusal : Refusal}
    (h : requireKey key = .error refusal) : refusal = .keyRequired := by
  dsimp only [requireKey] at h
  split at h
  · exact (Except.error.inj h).symm
  · cases h

/-- A failure without the operation's own reason. -/
def Failure.bare {ε : Type} : Failure ε → Failure Unit
  | .refused refusal => .refused refusal
  | .domain _ => .domain ()

namespace Accounting

open Service

variable {ω ε α : Type} {s s₁ s₂ s₃ : Service} {number : Nat}

/-! ### Calls -/

/-- A call in one of the forms in which a guard takes it. -/
inductive Call (ω ε : Type) : Type → Type 1
  | raw (key requestHash : String) (operation : Operation ω ε Bytes) : Call ω ε Bytes
  | typed {α : Type} (codec : Codec α) (key requestHash : String)
      (operation : Operation ω ε α) : Call ω ε α
  | command {α : Type} (codec : Codec α) (key operationName : String) (parts : List Part)
      (operation : Operation ω ε α) : Call ω ε α

/-- What comes of the call, through the guard with a number. -/
def Call.answer (call : Call ω ε α) (s : Service) (number : Nat) : Answer ω ε α :=
  match call with
  | .raw key requestHash operation => s.callRaw number key requestHash operation
  | .typed codec key requestHash operation => s.call codec number key requestHash operation
  | .command codec key operationName parts operation =>
    s.command codec number key operationName parts operation

/-- The key that a call goes by. -/
def Call.key : Call ω ε α → String
  | .raw key .. => key
  | .typed _ key .. => key
  | .command _ key .. => Text.trim key

/-- What a guard does at most once: an operation whose result is bytes, for a key and a
fingerprint. -/
structure Request (ω ε : Type) where
  key : String
  requestHash : String
  operation : Operation ω ε Bytes

/-- What a call asks its guard to do. A command without a key asks for nothing. -/
def Call.request? : Call ω ε α → Option (Request ω ε)
  | .raw key requestHash operation => some ⟨key, requestHash, operation⟩
  | .typed codec key requestHash operation => some ⟨key, requestHash, encoded codec operation⟩
  | .command codec key operationName parts operation =>
    match requireKey key with
    | .error _ => none
    | .ok key => some ⟨key, Fingerprint.ofRequest operationName parts, encoded codec operation⟩

/-- What comes of the request itself, before anything is read back. -/
def Request.answer (request : Request ω ε) (s : Service) (number : Nat) : Answer ω ε Bytes :=
  s.callRaw number request.key request.requestHash request.operation

/-! ### Endings -/

/-- How a call ends. -/
inductive Ending
  /-- The key is blank. -/
  | keyless
  /-- The store has no answer to the lookup. -/
  | unheard (refusal : Refusal)
  /-- The key holds a record of the same request. -/
  | replayed
  /-- The key holds a record of another request. -/
  | reused
  /-- The record could not expire. -/
  | overflow (seconds : Int)
  /-- The operation fails, or its result cannot be encoded. -/
  | failed (why : Failure Unit)
  /-- The operation has run, and the store has the record or one of the same request. -/
  | committed (placement : Placement)
  /-- The operation has run, and the store has a record of another request. -/
  | overtaken
  /-- The operation has run, and the store does not take the record. -/
  | unrecorded (refusal : Refusal)
  deriving DecidableEq

/-- How a request ends, by what the store and the operation say. -/
def Request.ending (request : Request ω ε) (s : Service) (number : Nat) : Ending :=
  match s.guardedGet request.key s.now with
  | (.error refusal, _) => .unheard refusal
  | (.ok (some r), _) => if r.requestHash = request.requestHash then .replayed else .reused
  | (.ok none, before) =>
    match s.now.add? (s.guard number).lifetime with
    | none => .overflow (s.guard number).lifetime.wholeSeconds
    | some expiresAt =>
      match request.operation before with
      | (.error failure, _, _) => .failed failure.bare
      | (.ok payload, _, left) =>
        match (left.guardedPut ⟨request.key, request.requestHash, payload, expiresAt⟩).1 with
        | .ok placement => .committed placement
        | .error (.conflict _) => .overtaken
        | .error refusal => .unrecorded refusal

/-- The services before and after the operation, if it is run. -/
def Request.inside? (request : Request ω ε) (s : Service) (number : Nat) :
    Option (Service × Service) :=
  match s.guardedGet request.key s.now with
  | (.ok none, before) =>
    (s.now.add? (s.guard number).lifetime).map fun _ => (before, (request.operation before).2.2)
  | _ => none

/-- The services before and after the operation of a call, if it is run. -/
def Call.inside? (call : Call ω ε α) (s : Service) (number : Nat) : Option (Service × Service) :=
  call.request?.bind fun request => request.inside? s number

/-- How a call ends. -/
def Call.ending (call : Call ω ε α) (s : Service) (number : Nat) : Ending :=
  match call.request? with
  | none => .keyless
  | some request => request.ending s number

/-- What the guard counts, if it counts the call. -/
def Ending.count? : Ending → Option Count
  | .committed _ => some .execution
  | .replayed => some .replay
  | .reused => some .conflict
  | .overtaken => some .conflict
  | .failed _ => some .failure
  | .keyless => none
  | .unheard _ => none
  | .overflow _ => none
  | .unrecorded _ => none

/-- Whether the key has been looked up in the store. -/
def Ending.asks : Ending → Bool
  | .keyless => false
  | _ => true

/-- Whether the store has been given a record. -/
def Ending.puts : Ending → Bool
  | .committed _ => true
  | .overtaken => true
  | .unrecorded _ => true
  | _ => false

/-- What a caller is told, without the values and the operation's own reasons. -/
abbrev Verdict := Except (Failure Unit) Unit

def verdict : Except (Failure ε) α → Verdict
  | .ok _ => .ok ()
  | .error failure => .error failure.bare

/-- What the caller is told when a call ends so. A result that is there may still be
unreadable. -/
def Ending.Tells (key : String) (told : Verdict) : Ending → Prop
  | .keyless => told = .error (.refused .keyRequired)
  | .unheard refusal => told = .error (.refused refusal) ∧ ∃ reason, refusal = .storage reason
  | .replayed => told = .ok () ∨ ∃ reason, told = .error (.refused (.codec reason))
  | .reused => told = .error (.refused (.conflict key))
  | .overflow seconds => told = .error (.refused (.expiryOverflow seconds))
  | .failed why => told = .error why
  | .committed _ => told = .ok () ∨ ∃ reason, told = .error (.refused (.codec reason))
  | .overtaken => told = .error (.refused (.conflict key))
  | .unrecorded refusal => told = .error (.refused refusal) ∧ ∃ reason, refusal = .storage reason

/-! ### The ways a call goes -/

/-- A way for a request to go: whether and where the operation has run, how the call
ends, what its result is and which service it leaves. -/
inductive Course (request : Request ω ε) (s : Service) (number : Nat) :
    Option (Service × Service) → Ending → Except (Failure ε) Bytes → Service → Prop
  | unheard {refusal : Refusal} {s₁ : Service}
      (hget : s.guardedGet request.key s.now = (.error refusal, s₁)) :
      Course request s number none (.unheard refusal) (.error (.refused refusal)) s₁
  | replayed {r : Record} {s₁ : Service}
      (hget : s.guardedGet request.key s.now = (.ok (some r), s₁))
      (hsame : r.requestHash = request.requestHash) :
      Course request s number none .replayed (.ok r.payload)
        (s₁.note number .replay (.replayed (s.guard number).moduleName request.key))
  | reused {r : Record} {s₁ : Service}
      (hget : s.guardedGet request.key s.now = (.ok (some r), s₁))
      (hother : r.requestHash ≠ request.requestHash) :
      Course request s number none .reused (.error (.refused (.conflict request.key)))
        (s₁.note number .conflict (.reused (s.guard number).moduleName request.key))
  | overflow {s₁ : Service} (hget : s.guardedGet request.key s.now = (.ok none, s₁))
      (hadd : s.now.add? (s.guard number).lifetime = none) :
      Course request s number none (.overflow (s.guard number).lifetime.wholeSeconds)
        (.error (.refused (.expiryOverflow (s.guard number).lifetime.wholeSeconds))) s₁
  | failed {s₁ s₂ : Service} {failure : Failure ε} {trace : ω}
      (hget : s.guardedGet request.key s.now = (.ok none, s₁))
      (hrun : request.operation s₁ = (.error failure, trace, s₂)) :
      Course request s number (some (s₁, s₂)) (.failed failure.bare) (.error failure)
        (s₂.note number .failure (.failed (s₂.guard number).moduleName request.key))
  | committed {s₁ s₂ s₃ : Service} {payload : Bytes} {trace : ω} {expiresAt : Instant}
      {placement : Placement} (hget : s.guardedGet request.key s.now = (.ok none, s₁))
      (hrun : request.operation s₁ = (.ok payload, trace, s₂))
      (hput : s₂.guardedPut ⟨request.key, request.requestHash, payload, expiresAt⟩
        = (.ok placement, s₃)) :
      Course request s number (some (s₁, s₂)) (.committed placement) (.ok payload)
        (s₃.note number .execution
          (.committed (s₂.guard number).moduleName request.key (placement = .duplicate)))
  | overtaken {s₁ s₂ s₃ : Service} {payload : Bytes} {trace : ω} {expiresAt : Instant}
      {key : String} (hget : s.guardedGet request.key s.now = (.ok none, s₁))
      (hrun : request.operation s₁ = (.ok payload, trace, s₂))
      (hput : s₂.guardedPut ⟨request.key, request.requestHash, payload, expiresAt⟩
        = (.error (.conflict key), s₃)) :
      Course request s number (some (s₁, s₂)) .overtaken (.error (.refused (.conflict key)))
        (s₃.note number .conflict (.overtaken (s₂.guard number).moduleName request.key))
  | unrecorded {s₁ s₂ s₃ : Service} {payload : Bytes} {trace : ω} {expiresAt : Instant}
      {refusal : Refusal} (hget : s.guardedGet request.key s.now = (.ok none, s₁))
      (hrun : request.operation s₁ = (.ok payload, trace, s₂))
      (hput : s₂.guardedPut ⟨request.key, request.requestHash, payload, expiresAt⟩
        = (.error refusal, s₃)) (hother : ∀ key, refusal ≠ .conflict key) :
      Course request s number (some (s₁, s₂)) (.unrecorded refusal) (.error (.refused refusal)) s₃

/-- The last part of a request whose operation has run: by what the store says about the
record. -/
theorem course_settle {request : Request ω ε} {payload : Bytes} {trace : ω}
    (expiresAt : Instant) (hget : s.guardedGet request.key s.now = (.ok none, s₁))
    (hrun : request.operation s₁ = (.ok payload, trace, s₂)) :
    Course request s number (some (s₁, s₂))
      (match (s₂.guardedPut ⟨request.key, request.requestHash, payload, expiresAt⟩).1 with
        | .ok placement => .committed placement
        | .error (.conflict _) => .overtaken
        | .error refusal => .unrecorded refusal)
      (s₂.settle (ε := ε) number ⟨request.key, request.requestHash, payload, expiresAt⟩).1
      (s₂.settle (ε := ε) number ⟨request.key, request.requestHash, payload, expiresAt⟩).2 := by
  unfold settle
  cases hput : s₂.guardedPut ⟨request.key, request.requestHash, payload, expiresAt⟩ with
  | mk placed s₃ =>
    cases placed with
    | ok placement => exact .committed hget hrun hput
    | error refusal =>
      cases refusal with
      | conflict key => exact .overtaken hget hrun hput
      | keyRequired => exact .unrecorded hget hrun hput nofun
      | codec reason => exact .unrecorded hget hrun hput nofun
      | expiryOverflow seconds => exact .unrecorded hget hrun hput nofun
      | storage reason => exact .unrecorded hget hrun hput nofun

/-- A request goes one of the ways. -/
theorem course_answer (request : Request ω ε) (s : Service) (number : Nat) :
    Course request s number (request.inside? s number) (request.ending s number)
      (request.answer s number).result (request.answer s number).service := by
  unfold Request.answer Request.ending Request.inside? callRaw enter
  cases hget : s.guardedGet request.key s.now with
  | mk answer s₁ =>
    cases answer with
    | error refusal => exact .unheard hget
    | ok found =>
      cases found with
      | some r =>
        by_cases hhash : r.requestHash = request.requestHash
        · simp only [Guard.decide, hhash, if_true]
          exact .replayed hget hhash
        · simp only [Guard.decide, hhash, if_false]
          exact .reused hget hhash
      | none =>
        cases hadd : s.now.add? (s.guard number).lifetime with
        | none =>
          simp only [Guard.decide, hadd]
          exact .overflow hget hadd
        | some expiresAt =>
          simp only [Guard.decide, hadd, Option.map_some]
          cases hrun : request.operation s₁ with
          | mk outcome rest =>
            obtain ⟨trace, s₂⟩ := rest
            cases outcome with
            | error failure => exact .failed hget hrun
            | ok payload => exact course_settle expiresAt hget hrun

/-! ### What the caller is told -/

/-- Whatever follows on a result, it fails for no other reason than that the result
cannot be read. -/
def ReadsBack (next : Bytes → Except (Failure ε) α) : Prop :=
  ∀ payload failure, next payload = .error failure → ∃ reason, failure = .refused (.codec reason)

/-- Decoding a payload fails only where the payload cannot be read. -/
theorem readsBack_decoded (codec : Codec α) (key : String) :
    ReadsBack (decoded (ε := ε) codec key) := by
  intro payload failure h
  obtain ⟨e, -, hfailure⟩ := of_decoded_error h
  exact ⟨_, hfailure⟩

/-- The caller is told that all is well, or that the result cannot be read. -/
theorem ReadsBack.verdict {next : Bytes → Except (Failure ε) α} (h : ReadsBack next)
    (payload : Bytes) : verdict (next payload) = .ok ()
      ∨ ∃ reason, verdict (next payload) = .error (.refused (.codec reason)) := by
  cases hnext : next payload with
  | ok value => exact .inl rfl
  | error failure =>
    obtain ⟨reason, rfl⟩ := h payload failure hnext
    exact .inr ⟨reason, rfl⟩

/-- What the caller is told fits the way the request went. -/
theorem Course.tells {request : Request ω ε} {inside? : Option (Service × Service)}
    {ending : Ending} {result : Except (Failure ε) Bytes} {left : Service}
    {next : Bytes → Except (Failure ε) α}
    (h : Course request s number inside? ending result left) (hnext : ReadsBack next) :
    ending.Tells request.key (verdict (result >>= next)) := by
  cases h with
  | unheard hget => exact ⟨rfl, storage_of_guardedGet hget⟩
  | replayed hget hsame => exact hnext.verdict _
  | reused hget hother => rfl
  | overflow hget hadd => rfl
  | failed hget hrun => rfl
  | committed hget hrun hput => exact hnext.verdict _
  | overtaken hget hrun hput =>
    rcases of_guardedPut_error hput with hconflict | ⟨reason, hstorage⟩
    · cases hconflict
      rfl
    · exact nomatch hstorage
  | unrecorded hget hrun hput hother =>
    refine ⟨rfl, ?_⟩
    rcases of_guardedPut_error hput with hconflict | hstorage
    · exact absurd hconflict (hother _)
    · exact hstorage

/-- A call is its request, and what follows on the result. -/
theorem answer_of_request {call : Call ω ε α} {request : Request ω ε}
    (h : call.request? = some request) (s : Service) (number : Nat) :
    request.key = call.key ∧ (call.answer s number).service = (request.answer s number).service
      ∧ ∃ next : Bytes → Except (Failure ε) α, ReadsBack next
        ∧ (call.answer s number).result = (request.answer s number).result >>= next := by
  cases call with
  | raw key requestHash operation =>
    cases h
    exact ⟨rfl, rfl, .ok, nofun, (bind_pure _).symm⟩
  | typed codec key requestHash operation =>
    cases h
    exact ⟨rfl, rfl, _, readsBack_decoded codec key, result_call ..⟩
  | command codec key operationName parts operation =>
    cases hkey : requireKey key with
    | error refusal =>
      simp only [Call.request?, hkey] at h
      exact nomatch h
    | ok trimmed =>
      simp only [Call.request?, hkey] at h
      cases h
      obtain rfl := of_requireKey_ok hkey
      simp only [Call.answer, command, hkey]
      exact ⟨rfl, rfl, _, readsBack_decoded codec _, result_call ..⟩

/-- A call without a request is refused at once. -/
theorem answer_of_keyless {call : Call ω ε α} (h : call.request? = none) (s : Service)
    (number : Nat) :
    call.answer s number = ⟨.error (.refused .keyRequired), none, s⟩ := by
  cases call with
  | raw key requestHash operation => exact nomatch h
  | typed codec key requestHash operation => exact nomatch h
  | command codec key operationName parts operation =>
    cases hkey : requireKey key with
    | error refusal =>
      obtain rfl := of_requireKey_error hkey
      simp only [Call.answer, command, hkey]
    | ok trimmed =>
      simp only [Call.request?, hkey] at h
      exact nomatch h

/-- What the caller is told fits the way the call ends. -/
theorem tells_answer (call : Call ω ε α) (s : Service) (number : Nat) :
    (call.ending s number).Tells call.key (verdict (call.answer s number).result) := by
  unfold Call.ending
  cases hrequest : call.request? with
  | none =>
    rw [answer_of_keyless hrequest]
    rfl
  | some request =>
    obtain ⟨hkey, -, next, hnext, hresult⟩ := answer_of_request hrequest s number
    rw [hresult, ← hkey]
    exact (course_answer request s number).tells hnext

end Accounting

end Idempotency
