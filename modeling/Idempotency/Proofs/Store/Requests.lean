import Idempotency.Proofs.Time.Order
import Idempotency.Store

/-!
# `Idempotency.Proofs.Store.Requests`: runs of requests on a store

A request is what a store is asked from outside, with the instant at which it is
asked. `Store.serve` answers one and `Store.run` answers one after the other, on
a disk that nothing else writes to; `Store.after` is where that leaves both.
`Faultless` says that no step on the disk fails in a run, and `Forward` that its
instants do not go back.
-/

set_option autoImplicit false

namespace Idempotency.Store

/-- What is asked of a store, most of it at an instant. -/
inductive Request
  | get (key : String) (now : Instant)
  | put (r : Record)
  | purge (now : Instant)
  | size
  | compact (now : Instant)
  /-- The store is left, and opened again from its file. -/
  | reopen (now : Instant)

/-- The instant of a request, if it has one. -/
def Request.moment? : Request → Option Instant
  | .get _ now => some now
  | .put _ => none
  | .purge now => some now
  | .size => none
  | .compact now => some now
  | .reopen now => some now

/-- What comes back. -/
inductive Reply
  | found (held : Option Record)
  | placed (outcome : Except Refusal Placement)
  | count (n : Nat)
  | compacted (outcome : Except Fault Nat)
  | reopened (outcome : Except Journal.OpenError Unit)

/-- Whether the reply is that a step on the disk has failed. -/
def Reply.isFault : Reply → Bool
  | .placed (.error (.storage _)) => true
  | .compacted (.error _) => true
  | .reopened (.error (.io _)) => true
  | _ => false

/-- Serves a request. A store in memory has no file to compact or to open, and
drops what has expired instead. -/
def serve : Request → Store → Disk → Reply × Store × Disk
  | .get key now, s, d =>
    let (held, s, _) := s.get key now
    (.found held, s, d)
  | .put r, s, d =>
    let (outcome, s, d) := s.put r d
    (.placed outcome, s, d)
  | .purge now, s, d =>
    let (n, s, _) := s.purge now
    (.count n, s, d)
  | .size, s, d => (.count s.size, s, d)
  | .compact now, .memory ix, d =>
    let (n, s, _) := (Store.memory ix).purge now
    (.compacted (.ok n), s, d)
  | .compact now, .journal j, d =>
    let (outcome, j, _, d) := j.compact now d
    (.compacted outcome, .journal j, d)
  | .reopen now, .memory ix, d =>
    let (_, s, _) := (Store.memory ix).purge now
    (.reopened (.ok ()), s, d)
  | .reopen now, .journal j, d =>
    match Journal.openAt j.path now d with
    | (.ok j, _, d) => (.reopened (.ok ()), .journal j, d)
    | (.error reason, _, d) => (.reopened (.error reason), .journal j, d)

/-- Serves requests, one after the other. Each gives a reply and leaves an
index. -/
def run : List Request → Store → Disk → List (Reply × Index)
  | [], _, _ => []
  | request :: requests, s, d =>
    let (reply, s, d) := serve request s d
    (reply, s.index) :: run requests s d

/-- Where requests leave the store and the disk. -/
def after : List Request → Store → Disk → Store × Disk
  | [], s, d => (s, d)
  | request :: requests, s, d =>
    let (_, s, d) := serve request s d
    after requests s d

/-! ### Runs in parts -/

variable {s : Store} {d : Disk} {request : Request} {requests later : List Request}

/-- Where a run leaves the store and the disk, the next one starts. -/
theorem after_append (first later : List Request) (s : Store) (d : Disk) :
    after (first ++ later) s d = after later (after first s d).1 (after first s d).2 := by
  induction first generalizing s d with
  | nil => rfl
  | cons request first ih => exact ih _ _

/-- What comes back in a run and the next one comes back in both together. -/
theorem run_append (first later : List Request) (s : Store) (d : Disk) :
    run (first ++ later) s d
      = run first s d ++ run later (after first s d).1 (after first s d).2 := by
  induction first generalizing s d with
  | nil => rfl
  | cons request first ih => exact congrArg (_ :: ·) (ih _ _)

/-- No step on the disk fails in the run. Where the disk lets all steps go through this
is so of any run (`faultless_of_undisturbed`). -/
def Faultless (requests : List Request) (s : Store) (d : Disk) : Prop :=
  ∀ sight ∈ run requests s d, sight.1.isFault = false

/-- The first reply of such a run. -/
theorem Faultless.head (h : Faultless (request :: requests) s d) :
    (serve request s d).1.isFault = false := h _ List.mem_cons_self

/-- The run after the first reply. -/
theorem Faultless.tail (h : Faultless (request :: requests) s d) :
    Faultless requests (serve request s d).2.1 (serve request s d).2.2 := fun sight hsight =>
  h sight (List.mem_cons_of_mem _ hsight)

/-- The first part of such a run. -/
theorem Faultless.left (h : Faultless (requests ++ later) s d) :
    Faultless requests s d := fun sight hsight =>
  h sight (by rw [run_append]; exact List.mem_append_left _ hsight)

/-- The second part of such a run. -/
theorem Faultless.right (h : Faultless (requests ++ later) s d) :
    Faultless later (after requests s d).1 (after requests s d).2 := fun sight hsight =>
  h sight (by rw [run_append]; exact List.mem_append_right _ hsight)

/-- A first reply without a fault and then a run without one. -/
theorem Faultless.cons (h : (serve request s d).1.isFault = false)
    (hlater : Faultless requests (serve request s d).2.1 (serve request s d).2.2) :
    Faultless (request :: requests) s d := by
  intro sight hsight
  rcases List.mem_cons.1 hsight with rfl | hsight
  · exact h
  · exact hlater sight hsight

/-! ### Instants -/

variable {now : Instant}

/-- The instants do not go back from where they start. -/
def Forward (start : Instant) (requests : List Request) : Prop :=
  (start :: requests.filterMap Request.moment?).Pairwise (· ≤ ·)

/-- The first request is not before the start. -/
theorem Forward.head (h : Forward now (request :: requests)) :
    ∀ moment ∈ request.moment?, now ≤ moment := by
  intro moment hmoment
  refine List.rel_of_pairwise_cons h (List.mem_filterMap.2 ⟨request, List.mem_cons_self, hmoment⟩)

/-- The others do not go back from where the first request is. -/
theorem Forward.tail (h : Forward now (request :: requests)) :
    Forward (request.moment?.getD now) requests := by
  unfold Forward at h ⊢
  cases hmoment : request.moment? with
  | none => rwa [List.filterMap_cons_none hmoment] at h
  | some moment =>
    rw [List.filterMap_cons_some hmoment] at h
    exact h.tail

/-- The latest instant of requests that do not go back. -/
def latest (start : Instant) (requests : List Request) : Instant :=
  requests.foldl (fun now request => request.moment?.getD now) start

end Idempotency.Store
