import Idempotency.Proofs.Guard.InMemory

/-!
# `Idempotency.Proofs.Race.Basic`: calls that take turns

A race is a service and the calls on it that have started. A call takes up to
four turns: it reads the clock, looks its key up, runs its operation, and
records the result. Between two turns of a call anything can happen: turns of
other calls, a move of the clock in either direction, a sweep. What an operation
gives is part of the turn in which it runs, so that a statement over all turns
is one over all operations.

The turns of a call are the parts that `Service.callRaw` is made of. Taken
without a break they are `Service.callRaw` (`alone_eq_callRaw`).
-/

set_option autoImplicit false

namespace Idempotency

deriving instance DecidableEq for Entrance

/-- How far a call has got. -/
inductive Stage (ε : Type)
  /-- It has read the clock. -/
  | timed (now : Instant)
  /-- Its key was free. Its operation is to run. -/
  | cleared (now expiresAt : Instant)
  /-- Its operation has given a payload, which is to be recorded. -/
  | ran (now expiresAt : Instant) (payload : Bytes)
  /-- It is over. `given` is what its operation gave, if that has run. -/
  | ended (now : Instant) (given : Option (Except (Failure ε) Bytes))
      (result : Except (Failure ε) Bytes)
  deriving DecidableEq

/-- A call that has started. -/
structure Runner (ε : Type) where
  number : Nat
  key : String
  requestHash : String
  stage : Stage ε
  deriving DecidableEq

/-- A service and the calls on it, in the order in which they started. -/
structure Race (ε : Type) where
  service : Service
  calls : List (Runner ε)

/-- What happens next in a race. -/
inductive Turn (ε : Type)
  /-- The clock is set to an instant. -/
  | clock (moment : Instant)
  | purge (moment : Instant)
  /-- A call starts: it reads the clock. -/
  | start (number : Nat) (key requestHash : String)
  /-- A call takes its next turn. Should its operation run in it, it gives the
  outcome. -/
  | act (i : Nat) (outcome : Except (Failure ε) Bytes)

variable {ε : Type}

namespace Runner

/-- The record of the call's result. -/
def record (c : Runner ε) (expiresAt : Instant) (payload : Bytes) : Record :=
  ⟨c.key, c.requestHash, payload, expiresAt⟩

/-- The record that the call gives the store in its next turn. -/
def pending (c : Runner ε) : Option Record :=
  match c.stage with
  | .ran _ expiresAt payload => some (c.record expiresAt payload)
  | _ => none

/-- Whether the next turn of the call is a lookup or a put. -/
def atStore (c : Runner ε) : Bool :=
  match c.stage with
  | .timed _ | .ran _ _ _ => true
  | _ => false

/-- What the call has returned. -/
def result? (c : Runner ε) : Option (Except (Failure ε) Bytes) :=
  match c.stage with
  | .ended _ _ result => some result
  | _ => none

/-- What the operation of the call has given, if it has run. -/
def given? (c : Runner ε) : Option (Except (Failure ε) Bytes) :=
  match c.stage with
  | .ran _ _ payload => some (.ok payload)
  | .ended _ given _ => given
  | _ => none

/-- A turn of a call. -/
def act (c : Runner ε) (outcome : Except (Failure ε) Bytes) (s : Service) :
    Runner ε × Service :=
  match c.stage with
  | .timed now =>
    match s.enter c.number c.key c.requestHash now with
    | (.answered result, s) => ({ c with stage := .ended now none result }, s)
    | (.cleared expiresAt, s) => ({ c with stage := .cleared now expiresAt }, s)
  | .cleared now expiresAt =>
    match outcome with
    | .error failure =>
      ({ c with stage := .ended now (some outcome) (.error failure) }, s.abandon c.number c.key)
    | .ok payload => ({ c with stage := .ran now expiresAt payload }, s)
  | .ran now expiresAt payload =>
    let (result, s) := s.settle c.number (c.record expiresAt payload)
    ({ c with stage := .ended now (some (.ok payload)) result }, s)
  | .ended _ _ _ => (c, s)

/-- What a turn of the call does to the records. -/
def touch (c : Runner ε) (ix : Index) : Index :=
  match c.stage with
  | .timed now => (ix.lookup c.key now).index
  | .ran _ expiresAt payload =>
    if ix.find? c.key = none then ix.store (c.record expiresAt payload) else ix
  | _ => ix

end Runner

namespace Race

/-- A race on a store in memory that is empty, before any call has started. -/
def fresh (now : Instant) (guards : List Guard) : Race ε := ⟨.fresh now guards, []⟩

/-- A turn of a race. -/
def step (race : Race ε) : Turn ε → Race ε
  | .clock moment => { race with service := { race.service with now := moment } }
  | .purge moment => { race with service := (race.service.purge moment).2 }
  | .start number key requestHash =>
    { race with calls := race.calls ++ [⟨number, key, requestHash, .timed race.service.now⟩] }
  | .act i outcome =>
    match race.calls[i]? with
    | none => race
    | some c =>
      { service := (c.act outcome race.service).2
        calls := race.calls.set i (c.act outcome race.service).1 }

/-- The race after so many turns of a schedule. -/
def after (race : Race ε) (turns : Nat → Turn ε) : Nat → Race ε
  | 0 => race
  | n + 1 => (race.after turns n).step (turns n)

/-- The records of the service. -/
def index (race : Race ε) : Index := race.service.store.index

/-- The record under a key, expired or not. -/
def held (race : Race ε) (key : String) : Option Record := race.index.find? key

/-- What a turn does to the records. -/
def touched (race : Race ε) : Turn ε → Index
  | .clock _ => race.index
  | .purge moment => race.index.live moment
  | .start _ _ _ => race.index
  | .act i _ =>
    match race.calls[i]? with
    | none => race.index
    | some c => c.touch race.index

/-- The store is in memory, and guards reach it. -/
def InMemory (race : Race ε) : Prop := race.service.Holds race.index

/-- The record that a turn gives the store. -/
def puts (race : Race ε) : Turn ε → Option Record
  | .act i _ => race.calls[i]?.bind Runner.pending
  | _ => none

/-- The turn is a put, and the store says that it has stored the record. -/
def Inserts (race : Race ε) (turn : Turn ε) (r : Record) : Prop :=
  race.puts turn = some r ∧ (race.service.guardedPut r).1 = .ok .inserted

/-- The turn runs the operation of a call, which gives the outcome. -/
def Runs (race : Race ε) (turn : Turn ε) (i : Nat) (outcome : Except (Failure ε) Bytes) : Prop :=
  turn = .act i outcome
    ∧ ∃ c now expiresAt, race.calls[i]? = some c ∧ c.stage = .cleared now expiresAt

/-- The turn removes the record under a key. -/
def Evicts (race : Race ε) (turn : Turn ε) (key : String) : Prop :=
  race.held key ≠ none ∧ (race.step turn).held key = none

/-- A turn of a schedule is a put, and the store says that it has stored the
record. -/
def InsertsAt (race : Race ε) (turns : Nat → Turn ε) (n : Nat) (r : Record) : Prop :=
  (race.after turns n).Inserts (turns n) r

/-- A turn of a schedule runs the operation of a call, which gives the outcome. -/
def RunsAt (race : Race ε) (turns : Nat → Turn ε) (n i : Nat)
    (outcome : Except (Failure ε) Bytes) : Prop :=
  (race.after turns n).Runs (turns n) i outcome

instance (race : Race ε) (turn : Turn ε) (key : String) : Decidable (race.Evicts turn key) :=
  inferInstanceAs (Decidable (_ ∧ _))

/-- A race starts with its records in memory. -/
theorem inMemory_fresh (now : Instant) (guards : List Guard) :
    (fresh (ε := ε) now guards).InMemory :=
  Service.holds_fresh now guards

end Race

/-! ### Turns of a call on its own -/

/-- A turn of the call that started last. -/
theorem step_act_last (s : Service) (calls : List (Runner ε)) (c : Runner ε)
    (outcome : Except (Failure ε) Bytes) :
    Race.step ⟨s, calls ++ [c]⟩ (.act calls.length outcome)
      = ⟨(c.act outcome s).2, calls ++ [(c.act outcome s).1]⟩ := by
  have hget : (calls ++ [c])[calls.length]? = some c := by simp
  have hset : ∀ c', (calls ++ [c]).set calls.length c' = calls ++ [c'] := by simp
  simp only [Race.step, hget, hset]

/-- A call whose turns follow one another without a break does what
`Service.callRaw` does, and ends with its result. -/
theorem alone_eq_callRaw (race : Race ε) (number : Nat) (key requestHash : String)
    (outcome : Except (Failure ε) Bytes) :
    let act : Turn ε := .act race.calls.length outcome
    let race' := (((race.step (.start number key requestHash)).step act).step act).step act
    let answer := race.service.callRaw number key requestHash fun s => (outcome, (), s)
    race'.service = answer.service
      ∧ ∃ c, race'.calls = race.calls ++ [c] ∧ c.result? = some answer.result
          ∧ c.given?.isSome = answer.trace.isSome := by
  obtain ⟨s, calls⟩ := race
  obtain ⟨entrance, s₁, henter⟩ :
      ∃ entrance s₁, s.enter (ε := ε) number key requestHash s.now = (entrance, s₁) :=
    ⟨_, _, rfl⟩
  simp only
  rw [show Race.step ⟨s, calls⟩ (.start number key requestHash)
    = ⟨s, calls ++ [⟨number, key, requestHash, .timed s.now⟩]⟩ from rfl]
  simp only [step_act_last]
  cases entrance with
  | answered result =>
    rw [Service.callRaw_of_answered henter]
    simp [Runner.act, henter, Runner.result?, Runner.given?]
  | cleared expiresAt =>
    cases outcome with
    | error failure =>
      rw [Service.callRaw_of_failed henter rfl]
      simp [Runner.act, henter, Runner.result?, Runner.given?]
    | ok payload =>
      rw [Service.callRaw_of_done henter rfl]
      simp [Runner.act, henter, Runner.record, Runner.result?, Runner.given?]

end Idempotency
