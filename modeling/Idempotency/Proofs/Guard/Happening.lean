import Mathlib.Order.Lattice
import Idempotency.Proofs.Guard.OnJournal
import Idempotency.Proofs.Store.Undisturbed
import Idempotency.Session

/-!
# `Idempotency.Proofs.Guard.Happening`: what can happen to a service with a journal

Between calls time passes, expired records are dropped, the journal is compacted, and it
is left and opened again from its file. A `Happening` is one of these, or a call, and
`Service.Faultless` says of happenings one after the other that no step on the disk fails
in them.

Whether a step fails is up to the disk. Where a journal has been opened on a disk without
a limit on the length of files, and without a step that is to break off, nothing that
happens to its service fails there (`Service.faultless_of_undisturbed`), if there is
somewhere to put the draft of a compaction. The invariant is `Service.Ready`.
-/

set_option autoImplicit false

namespace Idempotency

/-- What can happen to a service that has its records in a journal. All of it is at
the time of the clock. -/
inductive Happening : Type 1
  /-- Time passes until an instant, if that is still to come. -/
  | wait (moment : Instant)
  /-- What has expired is dropped. -/
  | purge
  | compact
  /-- The journal is left, and opened again from its file. -/
  | reopen
  /-- A call, from its start to its end. -/
  | call {ω ε α : Type} (codec : Codec α) (number : Nat) (key requestHash : String)
      (operation : Operation ω ε α) (off : KeepsOff operation)

/-- Whether the reply is that a step on the disk has failed. -/
def Session.Reply.isFault : Session.Reply → Bool
  | .fault _ => true
  | .notOpened _ (.io _) => true
  | _ => false

namespace Happening

/-- What it makes of a service, and whether a step on the disk has failed. -/
def onService : Happening → Service → Bool × Service
  | .wait moment, s => (false, { s with now := max s.now moment })
  | .purge, s => (false, (s.purge s.now).2)
  | .compact, s =>
    let (reply, s) := Session.compact s s.now
    (reply.isFault, s)
  | .reopen, s =>
    let (reply, s) := Session.reopen s s.now
    (reply.isFault, s)
  | .call codec number key requestHash operation _, s =>
    let answer := s.call codec number key requestHash operation
    (answer.isFault s, answer.service)

end Happening

namespace Service

/-- The service after happenings, one after the other. -/
def after (s : Service) : List Happening → Service
  | [] => s
  | happening :: more => (happening.onService s).2.after more

/-- No step on the disk fails in the happenings. Where the disk lets all steps go through
this is so of any (`faultless_of_undisturbed`). -/
def Faultless (s : Service) : List Happening → Prop
  | [] => True
  | happening :: more =>
    (happening.onService s).1 = false ∧ (happening.onService s).2.Faultless more

/-- Whether a step on the disk fails can be found out by letting things happen. -/
instance decidableFaultless (s : Service) : (run : List Happening) → Decidable (s.Faultless run)
  | [] => isTrue trivial
  | happening :: more =>
    have := decidableFaultless (happening.onService s).2 more
    inferInstanceAs (Decidable (_ ∧ _))

/-- A service with a journal that has just been opened. -/
def onJournal (j : Journal) (disk : Disk) (now : Instant) (guards : List Guard) : Service :=
  { disk := disk, now := now, store := .journal j, guards := guards }

section
variable {s s' : Service}

/-! ### What happens is asked of the store -/

/-- Asking the store for it is all that a sweep does. -/
theorem serve_purge (s : Service) (moment : Instant) :
    Store.serve (.purge moment) s.store s.disk
      = (.count (s.purge moment).1, (s.purge moment).2.store, (s.purge moment).2.disk) := rfl

/-- A compaction of a session is one of the store. -/
theorem compact_eq {j : Journal} (hstore : s.store = .journal j) (moment : Instant) :
    ∃ outcome, Store.serve (.compact moment) s.store s.disk
        = (.compacted outcome, (Session.compact s moment).2.store,
          (Session.compact s moment).2.disk)
      ∧ (Session.compact s moment).1.isFault = (Store.Reply.compacted outcome).isFault
      ∧ (Session.compact s moment).2.now = s.now
      ∧ (Session.compact s moment).2.outage = s.outage := by
  unfold Session.compact
  rw [hstore]
  cases hcompact : j.compact moment s.disk with
  | mk outcome rest =>
    refine ⟨outcome, ?_⟩
    simp only [Store.serve, hcompact]
    cases outcome with
    | ok n => exact ⟨rfl, rfl, rfl, rfl⟩
    | error fault => exact ⟨rfl, rfl, rfl, rfl⟩

/-- Opening the journal of a session again is opening that of the store again. -/
theorem reopen_eq {j : Journal} (hstore : s.store = .journal j) (moment : Instant) :
    ∃ outcome, Store.serve (.reopen moment) s.store s.disk
        = (.reopened outcome, (Session.reopen s moment).2.store,
          (Session.reopen s moment).2.disk)
      ∧ (Session.reopen s moment).1.isFault = (Store.Reply.reopened outcome).isFault
      ∧ (Session.reopen s moment).2.now = s.now
      ∧ (Session.reopen s moment).2.outage = s.outage := by
  unfold Session.reopen
  rw [hstore]
  cases hopen : Journal.openAt j.path moment s.disk with
  | mk opened rest =>
    simp only [Store.serve, hopen]
    cases opened with
    | ok j' => exact ⟨_, rfl, rfl, rfl, rfl⟩
    | error reason =>
      cases reason with
      | io fault => exact ⟨_, rfl, rfl, rfl, rfl⟩
      | damaged damage => exact ⟨_, rfl, rfl, rfl, rfl⟩

section
variable {ω ε α : Type}

/-- A typed call fails at the disk exactly if the call for bytes does. -/
theorem isFault_call (s : Service) (codec : Codec α) (number : Nat) (key requestHash : String)
    (operation : Operation ω ε α) :
    (s.call codec number key requestHash operation).isFault s
      = (s.callRaw number key requestHash (encoded codec operation)).isFault s := by
  unfold Answer.isFault
  rw [result_call]
  cases (s.callRaw number key requestHash (encoded codec operation)).result with
  | error failure => rfl
  | ok payload =>
    -- What is left to fail is reading the result back, which is nothing of the disk's.
    simp only [bind, Except.bind, decoded]
    cases Json.readBytes codec.read payload with
    | ok value => rfl
    | error e => rfl

/-- A call that gives the store no record does not fail at the disk. -/
theorem isFault_of_puts {answer : Answer ω ε α}
    (h : answer.service.traffic.puts = s.traffic.puts) : answer.isFault s = false := by
  unfold Answer.isFault
  rw [h]
  cases answer.result with
  | ok value => rfl
  | error failure => simp

end

/-! ### Where no step on the disk fails -/

/-- Nothing about the disk keeps the journal of the service from being written, opened or
compacted, and nothing stands between it and the guards. -/
structure Ready (s : Service) : Prop where
  store : ∃ j, s.store = .journal j ∧ Store.Ready j.path s.disk ∧ s.disk.Takes j.draftPath
  outage : s.outage = {}

/-- Only the store, the disk and the outage play a part in it. -/
theorem Ready.congr (h : s.Ready) (hstore : s'.store = s.store) (hdisk : s'.disk = s.disk)
    (houtage : s'.outage = s.outage) : s'.Ready := by
  obtain ⟨j, hj, hready, htakes⟩ := h.store
  refine ⟨⟨j, hstore.trans hj, ?_, ?_⟩, houtage.trans h.outage⟩
  · rwa [hdisk]
  · rwa [hdisk]

/-- What is asked of the store does not fail at the disk. -/
theorem Ready.serve (h : s.Ready) {request : Store.Request} {reply : Store.Reply}
    (hserve : Store.serve request s.store s.disk = (reply, s'.store, s'.disk))
    (houtage : s'.outage = s.outage) : reply.isFault = false ∧ s'.Ready := by
  obtain ⟨j, hj, hready, htakes⟩ := h.store
  have hdraft : ∀ now, request = .compact now → s.disk.Takes j.draftPath := fun _ _ => htakes
  obtain ⟨reply', j', d', hjournal, hfault, hpath, hundisturbed, hsame⟩ := hready.serve hdraft
  rw [hj, hjournal] at hserve
  obtain ⟨rfl, hstore, hdisk⟩ : reply' = reply ∧ .journal j' = s'.store ∧ d' = s'.disk := by
    simpa only [Prod.mk.injEq] using hserve
  refine ⟨hfault, ⟨⟨j', hstore.symm, ?_, ?_⟩, houtage.trans h.outage⟩⟩
  · rw [← hdisk, hpath]
    exact hready.congr hundisturbed hsame
  · rw [← hdisk, Journal.draftPath_congr hpath]
    exact htakes.congr hsame

section
variable {ω ε : Type}

/-- The first part of a call asks for a record only. -/
theorem Ready.enter (h : s.Ready) (number : Nat) (key requestHash : String) (now : Instant) :
    (s.enter (ε := ε) number key requestHash now).2.Ready := by
  obtain ⟨-, hget⟩ := h.serve (serve_guardedGet h.outage key now) (outage_guardedGet s key now)
  rcases enter_service (ε := ε) s number key requestHash now with heq | ⟨count, event, heq⟩
  · rw [heq]
    exact hget
  · rw [heq]
    exact hget.congr rfl rfl rfl

/-- The last part of a call gets its record into the file, or is refused for the key. -/
theorem Ready.settle (h : s.Ready) (number : Nat) (r : Record) :
    (s.settle (ε := ε) number r).2.Ready
      ∧ ∀ failure, (s.settle (ε := ε) number r).1 = .error failure →
        failure.isStorage = false := by
  obtain ⟨hfault, hput⟩ := h.serve (serve_guardedPut h.outage r) (outage_guardedPut s r)
  unfold Service.settle
  cases hplaced : s.guardedPut r with
  | mk placed s₁ =>
    rw [hplaced] at hfault hput
    cases placed with
    | ok placement => exact ⟨hput.congr rfl rfl rfl, nofun⟩
    | error refusal =>
      cases refusal with
      | storage reason => exact nomatch hfault
      | conflict key =>
        refine ⟨hput.congr rfl rfl rfl, fun failure hfailure => ?_⟩
        cases hfailure
        rfl
      | keyRequired | codec | expiryOverflow =>
        refine ⟨hput, fun failure hfailure => ?_⟩
        cases hfailure
        rfl

/-- A call does not fail at the disk, whatever comes of it. -/
theorem Ready.callRaw (h : s.Ready) {operation : Operation ω ε Bytes} (hoff : KeepsOff operation)
    (number : Nat) (key requestHash : String) :
    (s.callRaw number key requestHash operation).isFault s = false
      ∧ (s.callRaw number key requestHash operation).service.Ready := by
  have hentered := h.enter (ε := ε) number key requestHash s.now
  have hputs := puts_enter (ε := ε) s number key requestHash s.now
  rcases callRaw_cases s number key requestHash operation with
    ⟨result, s₁, henter, hcall⟩ | ⟨expiresAt, s₁, henter, hran⟩
  · rw [henter] at hentered hputs
    rw [hcall]
    exact ⟨isFault_of_puts hputs, hentered⟩
  · rw [henter] at hentered hputs
    obtain ⟨later, -, hservice⟩ := hoff s₁
    have hwaited : Ready { s₁ with now := later } := hentered.congr rfl rfl rfl
    rcases hran with ⟨failure, trace, s₂, hrun, hcall⟩ | ⟨payload, trace, s₂, hrun, hcall⟩
    · obtain rfl : s₂ = { s₁ with now := later } := by rw [← hservice, hrun]
      rw [hcall]
      exact ⟨isFault_of_puts hputs, hwaited.congr rfl rfl rfl⟩
    · obtain rfl : s₂ = { s₁ with now := later } := by rw [← hservice, hrun]
      obtain ⟨hsettled, hfailure⟩ :=
        hwaited.settle (ε := ε) number ⟨key, requestHash, payload, expiresAt⟩
      rw [hcall]
      refine ⟨?_, hsettled⟩
      unfold Answer.isFault
      dsimp only
      split
      · next failure hresult => rw [hfailure failure hresult, Bool.false_and]
      · rfl

/-- Nor does a typed call. -/
theorem Ready.call {α : Type} (h : s.Ready) {operation : Operation ω ε α}
    (hoff : KeepsOff operation) (codec : Codec α) (number : Nat) (key requestHash : String) :
    (s.call codec number key requestHash operation).isFault s = false
      ∧ (s.call codec number key requestHash operation).service.Ready := by
  obtain ⟨hfault, hready⟩ := h.callRaw (keepsOff_encoded hoff codec) number key requestHash
  exact ⟨(isFault_call s codec number key requestHash operation).trans hfault, hready⟩

end

/-- Nothing that happens fails at the disk, and the disk stays as ready as it is. -/
theorem Ready.happen (h : s.Ready) (happening : Happening) :
    (happening.onService s).1 = false ∧ (happening.onService s).2.Ready := by
  obtain ⟨j, hj, -⟩ := h.store
  cases happening with
  | wait moment => exact ⟨rfl, h.congr rfl rfl rfl⟩
  | purge => exact ⟨rfl, (h.serve (serve_purge s s.now) rfl).2⟩
  | compact =>
    obtain ⟨outcome, hserve, hsame, -, houtage⟩ := compact_eq hj s.now
    obtain ⟨hfault, hready⟩ := h.serve hserve houtage
    exact ⟨hsame.trans hfault, hready⟩
  | reopen =>
    obtain ⟨outcome, hserve, hsame, -, houtage⟩ := reopen_eq hj s.now
    obtain ⟨hfault, hready⟩ := h.serve hserve houtage
    exact ⟨hsame.trans hfault, hready⟩
  | call codec number key requestHash operation off => exact h.call off codec number key requestHash

/-- So it is after any run, and no step on the disk fails in it. -/
theorem Ready.after (h : s.Ready) (run : List Happening) :
    s.Faultless run ∧ (s.after run).Ready := by
  induction run generalizing s with
  | nil => exact ⟨trivial, h⟩
  | cons happening more ih =>
    obtain ⟨hfault, hready⟩ := h.happen happening
    obtain ⟨hmore, hlast⟩ := ih hready
    exact ⟨⟨hfault, hmore⟩, hlast⟩

/-- A journal that has been opened on a disk that lets all steps go through is ready, if
there is somewhere to put its draft. -/
theorem ready_of_undisturbed {path : String} {now : Instant} {d disk : Disk} {j : Journal}
    {events : List Event} (hdisk : d.Undisturbed)
    (hopen : Journal.openAt path now d = (.ok j, events, disk))
    (hdraft : disk.Takes j.draftPath) (guards : List Guard) :
    (onJournal j disk now guards).Ready := by
  have hready := Store.ready_of_openAt hdisk hopen
  rw [← (Journal.of_openAt hopen).1] at hready
  exact ⟨⟨j, rfl, hready, hdraft⟩, rfl⟩

/-- Where no step on the disk is to fail, none does, whatever happens. -/
theorem faultless_of_undisturbed {path : String} {now : Instant} {d disk : Disk} {j : Journal}
    {events : List Event} (hdisk : d.Undisturbed)
    (hopen : Journal.openAt path now d = (.ok j, events, disk))
    (hdraft : disk.Takes j.draftPath) (guards : List Guard) (run : List Happening) :
    (onJournal j disk now guards).Faultless run :=
  ((ready_of_undisturbed hdisk hopen hdraft guards).after run).1

end

end Service

end Idempotency
