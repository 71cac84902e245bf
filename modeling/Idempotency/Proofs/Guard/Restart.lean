import Mathlib.Order.Lattice
import Idempotency.Proofs.Guard.Happening

/-!
# `Idempotency.Proofs.Guard.Restart`: a recorded result outlives restarts

Guards share a journal. Calls follow one another, of any types of results, and
between them time passes, expired records are dropped, the journal is compacted, and
it is left and opened again from its file (`Happening`). As long as no step on the disk
fails, what a call has recorded is what every later call for its key gets, until the
record expires (`call_replayed`).

What is recorded is the text of a result in the form of a codec, and not every text
reads back as the result it was made from. Since the first call reads it back too,
the calls agree even then.

The invariant is `Service.Journals`, with the records that still count
(`Index.Retains`). Each happening keeps it (`Journals.happen`), and so does a run
(`Journals.after`).
-/

set_option autoImplicit false

namespace Idempotency

namespace Service

section
variable {s : Service} {ix : Index}

/-- A journal opened where no file is, or an empty one, has no records. -/
theorem journals_opened {path : String} {now : Instant} {d disk : Disk} {j : Journal}
    {events : List Event} (hempty : d.contentAt (Path.ofText path).place = [])
    (hopen : Journal.openAt path now d = (.ok j, events, disk)) (guards : List Guard) :
    (onJournal j disk now guards).Journals .empty :=
  ⟨⟨j, rfl, Store.mirrors_of_openAt hempty hopen⟩, rfl⟩

/-! ### What happens between calls -/

/-- A sweep keeps the records that count, and takes no step on the disk. -/
theorem Journals.purge (h : s.Journals ix) :
    ∃ ix', (s.purge s.now).2.Journals ix' ∧ ix.Retains s.now ix' := by
  obtain ⟨ix', -, hjournals, hretains⟩ := h.serve (by simp [Store.Request.moment?])
    (serve_purge s s.now) rfl rfl rfl
  exact ⟨ix', hjournals, hretains⟩

/-- A compaction that goes through keeps the records that count. -/
theorem Journals.compact (h : s.Journals ix)
    (hfault : (Session.compact s s.now).1.isFault = false) :
    ∃ ix', (Session.compact s s.now).2.Journals ix' ∧ (Session.compact s s.now).2.now = s.now
      ∧ ix.Retains s.now ix' := by
  obtain ⟨j, hj, -⟩ := h.store
  obtain ⟨outcome, hserve, hsame, hnow, houtage⟩ := compact_eq hj s.now
  obtain ⟨ix', -, hjournals, hretains⟩ := h.serve (by simp [Store.Request.moment?]) hserve
    (hsame.symm.trans hfault) hnow houtage
  exact ⟨ix', hjournals, hnow, hretains⟩

/-- Leaving the journal and opening it again keeps the records that count. -/
theorem Journals.reopen (h : s.Journals ix)
    (hfault : (Session.reopen s s.now).1.isFault = false) :
    ∃ ix', (Session.reopen s s.now).2.Journals ix' ∧ (Session.reopen s s.now).2.now = s.now
      ∧ ix.Retains s.now ix' := by
  obtain ⟨j, hj, -⟩ := h.store
  obtain ⟨outcome, hserve, hsame, hnow, houtage⟩ := reopen_eq hj s.now
  obtain ⟨ix', -, hjournals, hretains⟩ := h.serve (by simp [Store.Request.moment?]) hserve
    (hsame.symm.trans hfault) hnow houtage
  exact ⟨ix', hjournals, hnow, hretains⟩

/-! ### Calls -/

section
variable {ω ε α : Type} {codec : Codec α} {number : Nat} {key requestHash : String}
  {operation : Operation ω ε α}

/-- Reading a result back gives it, or says that it does not read. -/
theorem decoded_cases (codec : Codec α) (key : String) (payload : Bytes) :
    ∃ x : Except Refusal α, ((∃ value, x = .ok value) ∨ ∃ reason, x = .error (.codec reason))
      ∧ ∀ ε, decoded codec key payload = x.mapError (Failure.refused (ε := ε)) := by
  unfold decoded
  cases Json.readBytes codec.read payload with
  | ok value => exact ⟨.ok value, .inl ⟨value, rfl⟩, fun _ => rfl⟩
  | error e => exact ⟨.error (.codec _), .inr ⟨_, rfl⟩, fun _ => rfl⟩

/-- What becomes of a call, if no step on the disk fails. -/
theorem Journals.call (h : s.Journals ix) (hoff : KeepsOff operation)
    (hfault : (s.call codec number key requestHash operation).isFault s = false) :
    ∃ ix', (s.call codec number key requestHash operation).service.Journals ix'
      ∧ s.now ≤ (s.call codec number key requestHash operation).service.now
      ∧ ix.Retains s.now ix'
      ∧ ∀ r, (s.call codec number key requestHash operation).trace.isSome →
        ix'.find? key = some r → r.requestHash = requestHash
          ∧ (s.call codec number key requestHash operation).result
            = decoded codec key r.payload := by
  obtain ⟨ix', hjournals, hle, hretains, hrecorded⟩ :=
    h.callRaw (keepsOff_encoded hoff codec) ((isFault_call ..).symm.trans hfault)
  refine ⟨ix', hjournals, hle, hretains, fun r hran hfind => ?_⟩
  obtain ⟨hhash, hresult⟩ := hrecorded r hran hfind
  refine ⟨hhash, ?_⟩
  rw [result_call, hresult]
  rfl

/-- A call whose key holds a record that counts does not run its operation. -/
theorem Journals.call_of_held (h : s.Journals ix) {r : Record} (hfind : ix.find? key = some r)
    (hlive : r.isExpiredAt s.now = false) (codec : Codec α) (number : Nat) (requestHash : String)
    (operation : Operation ω ε α) :
    (s.call codec number key requestHash operation).trace = none
      ∧ (s.call codec number key requestHash operation).result
        = if r.requestHash = requestHash then decoded codec key r.payload
          else .error (.refused (.conflict key)) := by
  obtain ⟨htrace, hresult⟩ :=
    h.callRaw_of_held hfind hlive number requestHash (encoded codec operation)
  refine ⟨htrace, ?_⟩
  rw [result_call, hresult]
  by_cases hhash : r.requestHash = requestHash
  · rw [if_pos hhash, if_pos hhash]
    rfl
  · rw [if_neg hhash, if_neg hhash]
    rfl

end

/-! ### Runs -/

/-- Whatever happens, the records that count stay. -/
theorem Journals.happen (h : s.Journals ix) (happening : Happening)
    (hfault : (happening.onService s).1 = false) :
    ∃ ix', (happening.onService s).2.Journals ix' ∧ s.now ≤ (happening.onService s).2.now
      ∧ ix.Retains s.now ix' := by
  cases happening with
  | wait moment =>
    have hle : s.now ≤ max s.now moment := le_max_left _ _
    exact ⟨ix, h.wait hle, hle, Index.retains_refl s.now ix⟩
  | purge =>
    obtain ⟨ix', hjournals, hretains⟩ := h.purge
    exact ⟨ix', hjournals, le_refl s.now, hretains⟩
  | compact =>
    obtain ⟨ix', hjournals, hnow, hretains⟩ := h.compact hfault
    exact ⟨ix', hjournals, le_of_eq hnow.symm, hretains⟩
  | reopen =>
    obtain ⟨ix', hjournals, hnow, hretains⟩ := h.reopen hfault
    exact ⟨ix', hjournals, le_of_eq hnow.symm, hretains⟩
  | call codec number key requestHash operation off =>
    obtain ⟨ix', hjournals, hle, hretains, -⟩ := h.call off hfault
    exact ⟨ix', hjournals, hle, hretains⟩

/-- After a run, the records that still count are there. -/
theorem Journals.after {run : List Happening} (h : s.Journals ix) (hfaultless : s.Faultless run) :
    ∃ ix', (s.after run).Journals ix' ∧ ix.Retains (s.after run).now ix'
      ∧ s.now ≤ (s.after run).now := by
  induction run generalizing s ix with
  | nil => exact ⟨ix, h, Index.retains_refl s.now ix, le_refl s.now⟩
  | cons happening more ih =>
    obtain ⟨hfault, hmore⟩ := hfaultless
    obtain ⟨next, hjournals, hle, hretains⟩ := h.happen happening hfault
    obtain ⟨last, hjournals', hretains', hle'⟩ := ih hjournals hmore
    exact ⟨last, hjournals', (hretains.mono (le_trans hle hle')).trans hretains',
      le_trans hle hle'⟩

/-- A recorded result is given again until it expires, across restarts. Let a journal
be opened where no file is, or an empty one, and be shared by guards. Let things
happen, with no step on the disk failing, and let a call run its operation and have a
record under its key at its end. Then its result `x` is a value or a refusal to read
what is recorded; and whatever happens from then on, again with no step on the disk
failing, a call for the key by any guard, at an instant up to the one at which the
record expires, does not run its operation, and gets `x` if it is of the same
request, and a conflict if it is of another. -/
theorem call_replayed {path : String} {start : Instant} {d disk : Disk} {j : Journal}
    {events : List Event} {guards : List Guard} {before : List Happening} {ω ε α : Type}
    {codec : Codec α} {number : Nat} {key requestHash : String} {operation : Operation ω ε α}
    {r : Record} (hempty : d.contentAt (Path.ofText path).place = [])
    (hopen : Journal.openAt path start d = (.ok j, events, disk))
    (hbefore : (onJournal j disk start guards).Faultless before)
    (hs : s = (onJournal j disk start guards).after before)
    (hoff : KeepsOff operation)
    (hfault : (s.call codec number key requestHash operation).isFault s = false)
    (hran : (s.call codec number key requestHash operation).trace.isSome)
    (hrecorded : (s.call codec number key requestHash operation).service.store.index.find? key
      = some r) :
    ∃ x : Except Refusal α, ((∃ value, x = .ok value) ∨ ∃ reason, x = .error (.codec reason))
      ∧ (s.call codec number key requestHash operation).result = x.mapError .refused
      ∧ ∀ between late,
        (s.call codec number key requestHash operation).service.Faultless between →
        late = (s.call codec number key requestHash operation).service.after between →
        late.now ≤ r.expiresAt →
        ∀ {ω' ε' : Type} (number' : Nat) (requestHash' : String) (operation' : Operation ω' ε' α),
          (late.call codec number' key requestHash' operation').trace = none
            ∧ (late.call codec number' key requestHash' operation').result
              = if requestHash' = requestHash then x.mapError .refused
                else .error (.refused (.conflict key)) := by
  obtain ⟨ix, hjournals, -, -⟩ := (journals_opened hempty hopen guards).after hbefore
  rw [← hs] at hjournals
  obtain ⟨ix', hcalled, -, -, hrecords⟩ := hjournals.call hoff hfault
  rw [hcalled.index] at hrecorded
  obtain ⟨hhash, hresult⟩ := hrecords r hran hrecorded
  obtain ⟨x, hcases, hdecoded⟩ := decoded_cases codec key r.payload
  refine ⟨x, hcases, by rw [hresult, hdecoded], ?_⟩
  intro between late hbetween hlate hle ω' ε' number' requestHash' operation'
  obtain ⟨last, hlast, hretains, -⟩ := hcalled.after hbetween
  rw [← hlate] at hlast hretains
  have hlive : r.isExpiredAt late.now = false := Record.not_isExpiredAt_iff.2 hle
  obtain ⟨htrace, hagain⟩ := hlast.call_of_held (hretains key r hrecorded hlive) hlive codec
    number' requestHash' operation'
  refine ⟨htrace, ?_⟩
  rw [hagain, hhash, hdecoded]
  by_cases hsame : requestHash' = requestHash
  · rw [if_pos hsame, if_pos hsame.symm]
  · rw [if_neg hsame, if_neg fun hsame' => hsame hsame'.symm]

/-- An operation that takes its time. -/
def slow : Operation Unit Empty Bool := fun s =>
  (.ok true, (), { s with now := max s.now { seconds := 3, nanos := 0 } })

/-- It does so without touching the store. -/
theorem keepsOff_slow : KeepsOff slow := fun _ => ⟨_, le_max_left _ _, rfl⟩

/-- An operation whose result is written as `null`, and does not read back. -/
def immeasurable : Operation Unit Empty Double := fun s => (.ok .notANumber, (), s)

/-- It touches nothing. -/
theorem keepsOff_immeasurable : KeepsOff immeasurable := fun s => ⟨s.now, le_refl s.now, rfl⟩

/-- What happens before the result is recorded. -/
def early : List Happening :=
  [.call Codec.bool 0 "other" "hash" slow keepsOff_slow, .wait { seconds := 8, nanos := 0 }]

/-- What happens after that, up to the last instant at which the record counts. -/
def meanwhile : List Happening :=
  [.compact, .reopen, .purge, .wait { seconds := 604808, nanos := 0 }]

/-- The journal of an empty file. -/
def unwritten : Journal := ⟨"keys.log", .empty, ⟨0, none⟩⟩

/-- A service with it, and with guards as they are usually. -/
def started : Service :=
  onJournal unwritten (Disk.empty.create ["keys.log"]).2 { seconds := 2, nanos := 0 } []

/-- The result cannot be read back, not by the first call and not after a restart. -/
theorem call_replayed_unreadable : ∃ late reason,
    late = ((started.after early).call Codec.double 0 "key" "buy" immeasurable).service.after
        meanwhile
      ∧ ((started.after early).call Codec.double 0 "key" "buy" immeasurable).result
        = .error (.refused (.codec reason))
      ∧ (late.call Codec.double 1 "key" "buy" immeasurable).trace = none
      ∧ (late.call Codec.double 1 "key" "buy" immeasurable).result
        = .error (.refused (.codec reason))
      ∧ (late.call Codec.double 1 "key" "sell" immeasurable).trace = none
      ∧ (late.call Codec.double 1 "key" "sell" immeasurable).result
        = .error (.refused (.conflict "key")) := by
  have hopen : Journal.openAt "keys.log" { seconds := 2, nanos := 0 } .empty
      = (.ok unwritten, [.opened "keys.log" 0], (Disk.empty.create ["keys.log"]).2) := by
    decide +kernel
  have hstarted : started.after early = (onJournal unwritten (Disk.empty.create ["keys.log"]).2
      { seconds := 2, nanos := 0 } []).after early := rfl
  have hrecorded : ((started.after early).call Codec.double 0 "key" "buy"
      immeasurable).service.store.index.find? "key"
      = some ⟨"key", "buy", Text.encode "null".toList, { seconds := 604808, nanos := 0 }⟩ := by
    decide +kernel
  have htakes : (Disk.empty.create ["keys.log"]).2.Takes unwritten.draftPath :=
    Disk.takes_of_entries (by decide +kernel) (by decide +kernel) (by decide +kernel)
  -- The disk lets all steps go through, before the call, in it and after it.
  have hready : started.Ready := ready_of_undisturbed ⟨rfl, rfl⟩ hopen htakes []
  obtain ⟨hbefore, hcalling⟩ := hready.after early
  obtain ⟨hfault, hcalled⟩ := hcalling.call keepsOff_immeasurable Codec.double 0 "key" "buy"
  have hmeanwhile := (hcalled.after meanwhile).1
  obtain ⟨x, hcases, hfirst, hagain⟩ := call_replayed (by decide) hopen hbefore hstarted
    keepsOff_immeasurable hfault (by decide +kernel) hrecorded
  have hunread : ((started.after early).call Codec.double 0 "key" "buy" immeasurable).result.isOk
      = false := by decide +kernel
  obtain ⟨reason, rfl⟩ : ∃ reason, x = .error (.codec reason) := by
    rcases hcases with ⟨value, rfl⟩ | hcodec
    · rw [hfirst] at hunread
      exact nomatch hunread
    · exact hcodec
  obtain ⟨late, hlate⟩ : ∃ late, late = ((started.after early).call Codec.double 0 "key" "buy"
      immeasurable).service.after meanwhile := ⟨_, rfl⟩
  have hcalls := @hagain meanwhile late hmeanwhile hlate
    (by rw [hlate]; decide +kernel) Unit Empty 1
  obtain ⟨htrace, hresult⟩ := hcalls "buy" immeasurable
  obtain ⟨htrace', hconflict⟩ := hcalls "sell" immeasurable
  exact ⟨late, reason, hlate, hfirst, htrace, hresult, htrace', hconflict⟩

end

end Service

end Idempotency
