import Idempotency.Proofs.Guard.Entries

/-!
# `Idempotency.Proofs.Guard.Accounts`: what guards count is how their calls ended

A run is calls, one after the other and inside each other's operations, and in between
whatever else happens to the service (`Run`). It has a log with an entry for each call,
in the order in which the calls end. `accounts` says that the log explains the
service: the counters of every guard, the events about calls, and how often guards
have called on the store.

The parts of a call are not together: the key is looked up before the calls inside it
begin, and the ending is noted after they have ended. So the invariant, `Moves`, has
the lookups and puts as numbers of their own beside the log. It is additive
(`Moves.trans`), and every part of a call has a lemma of that form.
-/

set_option autoImplicit false

namespace Idempotency

/-- The guard that an event about the end of a call names, and what the guard has
counted there. -/
def Event.end? : Event → Option (String × Count)
  | .committed guard _ _ => some (guard, .execution)
  | .replayed guard _ => some (guard, .replay)
  | .reused guard _ => some (guard, .conflict)
  | .overtaken guard _ => some (guard, .conflict)
  | .failed guard _ => some (guard, .failure)
  | .evicted _ => none
  | .purged _ => none
  | .skippedExpired _ => none
  | .opened _ _ => none
  | .compacted _ _ _ => none

/-- Counting adds one to the counter that it is for, and nothing to the others. -/
theorem Tally.get_add (t : Tally) (count other : Count) :
    (t.add count).get other = t.get other + if count = other then 1 else 0 := by
  cases count <;> cases other <;> simp [Tally.add, Tally.get]

namespace Accounting

open Service

variable {ω ε α : Type} {s s' s₁ s₂ s₃ : Service} {number : Nat}

/-! ### Logs -/

/-- What a log has about a call. -/
structure Entry where
  number : Nat
  name : String
  key : String
  ending : Ending
  told : Verdict

/-- The entry of a call, through the guard with a number. -/
def Call.entry (call : Call ω ε α) (s : Service) (number : Nat) : Entry where
  number := number
  name := (s.guard number).moduleName
  key := call.key
  ending := call.ending s number
  told := verdict (call.answer s number).result

namespace Entry

/-- What is reported about the call. -/
def event? (e : Entry) : Option Event :=
  match e.ending with
  | .committed placement => some (.committed e.name e.key (placement = .duplicate))
  | .replayed => some (.replayed e.name e.key)
  | .reused => some (.reused e.name e.key)
  | .overtaken => some (.overtaken e.name e.key)
  | .failed _ => some (.failed e.name e.key)
  | .keyless => none
  | .unheard _ => none
  | .overflow _ => none
  | .unrecorded _ => none

/-- The guards once the call is counted: at most one counter of one guard is greater,
by one. -/
def mark (guards : List Guard) (e : Entry) : List Guard :=
  match e.ending.count? with
  | none => guards
  | some count => guards.modify e.number fun g => { g with tally := g.tally.add count }

/-- Whether the guard with the number counts the call so. -/
def counts (e : Entry) (number : Nat) (count : Count) : Bool :=
  e.number = number && e.ending.count? = some count

/-- The event names the guard, and says what the guard counts. -/
theorem end?_event? (e : Entry) :
    e.event?.bind Event.end? = e.ending.count?.map fun count => (e.name, count) := by
  obtain ⟨number, name, key, ending, told⟩ := e
  cases ending <;> rfl

/-- A call that is not counted is not reported. -/
theorem event?_eq_none (e : Entry) (h : e.ending.count? = none) : e.event? = none := by
  obtain ⟨number, name, key, ending, told⟩ := e
  cases ending <;> first | rfl | exact nomatch h

end Entry

/-! ### What moves in a service -/

/-- The log explains the counters and the events about calls, and there were so many
lookups and puts. -/
structure Moves (s : Service) (log : List Entry) (gets puts : Nat) (s' : Service) : Prop where
  guards : s'.guards = log.foldl Entry.mark s.guards
  events : s'.reports.filter (·.end?.isSome)
    = s.reports.filter (·.end?.isSome) ++ log.filterMap Entry.event?
  gets : s'.traffic.gets = s.traffic.gets + gets
  puts : s'.traffic.puts = s.traffic.puts + puts

variable {log later : List Entry} {gets puts moreGets morePuts : Nat}

/-- What moves in two steps is in both logs together. -/
theorem Moves.trans (h : Moves s log gets puts s₁) (hthen : Moves s₁ later moreGets morePuts s') :
    Moves s (log ++ later) (gets + moreGets) (puts + morePuts) s' where
  guards := by rw [hthen.guards, h.guards, List.foldl_append]
  events := by rw [hthen.events, h.events, List.filterMap_append, List.append_assoc]
  gets := by rw [hthen.gets, h.gets, Nat.add_assoc]
  puts := by rw [hthen.puts, h.puts, Nat.add_assoc]

/-- What is no call of a guard: it may change everything but what guards count, what is
reported about calls, and how often guards have called on the store. -/
structure Idle (s s' : Service) : Prop where
  guards : s'.guards = s.guards
  events : s'.reports.filter (·.end?.isSome) = s.reports.filter (·.end?.isSome)
  traffic : s'.traffic = s.traffic

/-- What is no call of a guard goes without a log. -/
theorem Idle.moves (h : Idle s s') : Moves s [] 0 0 s' where
  guards := h.guards
  events := by rw [h.events, List.filterMap_nil, List.append_nil]
  gets := by rw [h.traffic, Nat.add_zero]
  puts := by rw [h.traffic, Nat.add_zero]

/-- The clock, the disk, the store and what cuts it off are nobody's account. -/
theorem idle_world (s : Service) (disk : Disk) (now : Instant) (store : Store) (outage : Outage) :
    Idle s { s with disk := disk, now := now, store := store, outage := outage } :=
  ⟨rfl, rfl, rfl⟩

/-- A store reports nothing about calls. -/
theorem idle_get (s : Service) (key : String) (now : Instant) : Idle s (s.get key now).2 := by
  refine ⟨rfl, ?_, rfl⟩
  show (s.reports ++ if _ then [Event.evicted key] else []).filter _ = _
  rw [List.filter_append]
  split
  · exact List.append_nil _
  · exact List.append_nil _

/-! ### The parts of a call -/

/-- A guard's lookup is one, whether or not it gets through to the store. -/
theorem moves_guardedGet {answer : Except Refusal (Option Record)} {key : String} {now : Instant}
    (h : s.guardedGet key now = (answer, s')) : Moves s [] 1 0 s' := by
  have hasked : Moves s [] 1 0
      { s with traffic := { s.traffic with gets := s.traffic.gets + 1 } } :=
    ⟨rfl, (List.append_nil _).symm, rfl, rfl⟩
  unfold guardedGet at h
  dsimp only at h
  split at h
  · cases h
    exact hasked
  · cases h
    exact hasked.trans (idle_get _ key now).moves

/-- A guard's put is one, whether or not it gets through to the store. -/
theorem moves_guardedPut {placed : Except Refusal Placement} {r : Record}
    (h : s.guardedPut r = (placed, s')) : Moves s [] 0 1 s' := by
  have hgiven : Moves s [] 0 1
      { s with traffic := { s.traffic with puts := s.traffic.puts + 1 } } :=
    ⟨rfl, (List.append_nil _).symm, rfl, rfl⟩
  unfold guardedPut at h
  dsimp only at h
  split at h
  · cases h
    exact hgiven
  · cases h
    exact hgiven.trans (idle_world _ _ _ _ _).moves

/-- A counted call is noted. -/
theorem moves_note (s : Service) (e : Entry) {count : Count} {event : Event}
    (hcount : e.ending.count? = some count) (hevent : e.event? = some event) :
    Moves s [e] 0 0 (s.note e.number count event) := by
  have hend := e.end?_event?
  rw [hcount, hevent] at hend
  have hend : event.end? = some (e.name, count) := hend
  refine ⟨?_, ?_, rfl, rfl⟩
  · show _ = e.mark s.guards
    rw [Entry.mark, hcount]
    rfl
  · show (s.reports ++ [event]).filter _ = _
    rw [List.filter_append, List.filter_cons_of_pos (by rw [hend]; rfl), List.filter_nil,
      List.filterMap_cons_some hevent, List.filterMap_nil]

/-- The ending of any other call leaves no trace. -/
theorem moves_unnoted (s : Service) (e : Entry) (h : e.ending.count? = none) :
    Moves s [e] 0 0 s := by
  refine ⟨?_, ?_, rfl, rfl⟩
  · show _ = e.mark s.guards
    rw [Entry.mark, h]
  · rw [List.filterMap_cons_none (e.event?_eq_none h), List.filterMap_nil, List.append_nil]

/-! ### Counters -/

/-- A call is counted where its entry says, and nothing else of a guard changes. -/
theorem getElem?_mark (guards : List Guard) (e : Entry) (n : Nat) :
    ∃ tally : Guard → Tally,
      (e.mark guards)[n]? = guards[n]?.map (fun g => { g with tally := tally g })
      ∧ ∀ g count, (tally g).get count
        = g.tally.get count + if e.counts n count then 1 else 0 := by
  unfold Entry.mark Entry.counts
  cases hcount : e.ending.count? with
  | none => exact ⟨Guard.tally, by simp, by simp⟩
  | some counted =>
    by_cases hn : e.number = n
    · refine ⟨fun g => g.tally.add counted, ?_, ?_⟩
      · rw [List.getElem?_modify]
        simp [hn]
      · intro g count
        simp [hn, Tally.get_add]
    · refine ⟨Guard.tally, ?_, ?_⟩
      · rw [List.getElem?_modify]
        simp [hn]
      · simp [hn]

/-- Every call of a log is counted where its entry says. -/
theorem getElem?_foldl_mark (log : List Entry) (guards : List Guard) (n : Nat) :
    ∃ tally : Guard → Tally,
      (log.foldl Entry.mark guards)[n]? = guards[n]?.map (fun g => { g with tally := tally g })
      ∧ ∀ g count, (tally g).get count
        = g.tally.get count + UInt64.ofNat (log.countP (·.counts n count)) := by
  induction log generalizing guards with
  | nil => exact ⟨Guard.tally, by simp, by simp⟩
  | cons e log ih =>
    obtain ⟨first, hfirst, hcounted⟩ := getElem?_mark guards e n
    obtain ⟨rest, hrest, hlater⟩ := ih (e.mark guards)
    refine ⟨fun g => rest { g with tally := first g }, ?_, fun g count => ?_⟩
    · rw [List.foldl_cons, hrest, hfirst, Option.map_map]
      rfl
    · rw [hlater, hcounted, List.countP_cons, UInt64.ofNat_add, UInt64.add_assoc]
      congr 1
      rw [UInt64.add_comm]
      split <;> rfl

/-- Guards keep their names. -/
theorem Moves.moduleName (h : Moves s log gets puts s') (n : Nat) :
    (s'.guard n).moduleName = (s.guard n).moduleName := by
  obtain ⟨tally, hguard, -⟩ := getElem?_foldl_mark log s.guards n
  unfold Service.guard
  rw [List.getD_eq_getElem?_getD, List.getD_eq_getElem?_getD, h.guards, hguard]
  cases s.guards[n]? with
  | none => rfl
  | some g => rfl

/-- A counter has gone up by the number of calls that the guard counts so, and may have
started over. -/
theorem Moves.tally (h : Moves s log gets puts s') {n : Nat} (hn : n < s.guards.length)
    (count : Count) :
    ((s'.guard n).tally.get count).toNat
      = (((s.guard n).tally.get count).toNat + log.countP (·.counts n count)) % UInt64.size := by
  obtain ⟨tally, hguard, hcounted⟩ := getElem?_foldl_mark log s.guards n
  unfold Service.guard
  rw [List.getD_eq_getElem?_getD, List.getD_eq_getElem?_getD, h.guards, hguard,
    List.getElem?_eq_getElem hn]
  show ((tally _).get count).toNat = _
  rw [hcounted, UInt64.toNat_add, UInt64.toNat_ofNat', Nat.add_mod_mod]
  rfl

/-- There are as many events that name a guard and say what it has counted as there are
calls through guards of that name that are counted so. -/
theorem Moves.countP_end (h : Moves s log gets puts s') (name : String) (count : Count) :
    s'.reports.countP (fun event => event.end? = some (name, count))
      = s.reports.countP (fun event => event.end? = some (name, count))
        + log.countP (fun e => e.name = name && e.ending.count? = some count) := by
  have hends : ∀ events : List Event, events.countP (fun event => event.end? = some (name, count))
      = (events.filter (·.end?.isSome)).countP (fun event => event.end? = some (name, count)) := by
    intro events
    rw [List.countP_filter]
    congr 1
    funext event
    cases event.end? with
    | none => simp
    | some names => simp
  rw [hends, h.events, List.countP_append, ← hends, List.countP_filterMap]
  congr 1
  refine List.countP_congr fun e _ => ?_
  have hend := e.end?_event?
  cases hevent : e.event? with
  | none =>
    rw [hevent] at hend
    simp [Option.map_eq_none_iff.1 hend.symm]
  | some event =>
    rw [hevent, Option.bind_some] at hend
    simp only [Option.map_some, Option.getD_some, hend]
    cases e.ending.count? with
    | none => simp
    | some counted => simp

/-! ### A call -/

/-- A request that has its answer after the lookup has moved what its entry says. -/
theorem Course.moves_answered {request : Request ω ε} {ending : Ending}
    {result : Except (Failure ε) Bytes} {left : Service}
    (h : Course request s number none ending result left) (told : Verdict) :
    Moves s [⟨number, (s.guard number).moduleName, request.key, ending, told⟩]
      (if ending.asks then 1 else 0) (if ending.puts then 1 else 0) left := by
  cases h with
  | unheard hget => exact (moves_guardedGet hget).trans (moves_unnoted _ _ rfl)
  | replayed hget hsame => exact (moves_guardedGet hget).trans (moves_note _ _ rfl rfl)
  | reused hget hother => exact (moves_guardedGet hget).trans (moves_note _ _ rfl rfl)
  | overflow hget hadd => exact (moves_guardedGet hget).trans (moves_unnoted _ _ rfl)

/-- Where an operation runs, the key has been looked up, and nothing else. -/
theorem Course.moves_before {request : Request ω ε} {ending : Ending}
    {result : Except (Failure ε) Bytes} {left : Service}
    (h : Course request s number (some (s₁, s₂)) ending result left) : Moves s [] 1 0 s₁ := by
  cases h with
  | failed hget hrun => exact moves_guardedGet hget
  | committed hget hrun hput => exact moves_guardedGet hget
  | overtaken hget hrun hput => exact moves_guardedGet hget
  | unrecorded hget hrun hput hother => exact moves_guardedGet hget

/-- A request whose operation has run has moved what the operation did, and then what its
entry says. -/
theorem Course.moves_ran {request : Request ω ε} {ending : Ending}
    {result : Except (Failure ε) Bytes} {left : Service}
    (h : Course request s number (some (s₁, s₂)) ending result left)
    (hinside : Moves s₁ log gets puts s₂) (told : Verdict) :
    Moves s (log ++ [⟨number, (s.guard number).moduleName, request.key, ending, told⟩])
      (gets + if ending.asks then 1 else 0) (puts + if ending.puts then 1 else 0) left := by
  have hmoves : Moves s log (gets + 1) puts s₂ := by
    have hsum := h.moves_before.trans hinside
    rwa [Nat.zero_add, Nat.add_comm 1] at hsum
  -- The event names the guard as it is after the operation; its name is the same.
  rw [← hmoves.moduleName number]
  cases h with
  | failed hget hrun => exact hmoves.trans (moves_note _ _ rfl rfl)
  | committed hget hrun hput =>
    exact hmoves.trans ((moves_guardedPut hput).trans (moves_note _ _ rfl rfl))
  | overtaken hget hrun hput =>
    exact hmoves.trans ((moves_guardedPut hput).trans (moves_note _ _ rfl rfl))
  | unrecorded hget hrun hput hother =>
    exact hmoves.trans ((moves_guardedPut hput).trans (moves_unnoted _ _ rfl))

/-! ### Runs -/

/-- Calls, one after the other and inside each other's operations, in between whatever
is no call, and the log of it all. -/
inductive Run : Service → List Entry → Service → Prop
  | done (s : Service) : Run s [] s
  /-- Something happens that is no call. -/
  | idle {s s₁ s' : Service} {log : List Entry} (h : Idle s s₁) (hlater : Run s₁ log s') :
      Run s log s'
  /-- A call that does not run its operation. -/
  | answered {ω ε α : Type} {s s' : Service} {log : List Entry} (call : Call ω ε α)
      (number : Nat) (h : call.inside? s number = none)
      (hlater : Run (call.answer s number).service log s') :
      Run s (call.entry s number :: log) s'
  /-- A call whose operation is itself a run. -/
  | ran {ω ε α : Type} {s before after s' : Service} {inside log : List Entry}
      (call : Call ω ε α) (number : Nat) (h : call.inside? s number = some (before, after))
      (hinside : Run before inside after) (hlater : Run (call.answer s number).service log s') :
      Run s (inside ++ call.entry s number :: log) s'

/-- A call that does not run its operation moves what its entry says. -/
theorem moves_answered (call : Call ω ε α) (h : call.inside? s number = none) :
    Moves s [call.entry s number] (if (call.ending s number).asks then 1 else 0)
      (if (call.ending s number).puts then 1 else 0) (call.answer s number).service := by
  unfold Call.entry Call.ending
  unfold Call.inside? at h
  cases hrequest : call.request? with
  | none =>
    rw [answer_of_keyless hrequest]
    exact moves_unnoted s _ rfl
  | some request =>
    obtain ⟨hkey, hservice, -⟩ := answer_of_request hrequest s number
    have hcourse := course_answer request s number
    rw [hrequest, Option.bind_some] at h
    rw [h] at hcourse
    rw [← hkey, hservice]
    exact hcourse.moves_answered _

/-- A call whose operation runs has looked its key up before. It moves what the
operation does, and then what its entry says. -/
theorem moves_ran (call : Call ω ε α) (h : call.inside? s number = some (s₁, s₂)) :
    Moves s [] 1 0 s₁ ∧ ∀ log gets puts, Moves s₁ log gets puts s₂ →
      Moves s (log ++ [call.entry s number])
        (gets + if (call.ending s number).asks then 1 else 0)
        (puts + if (call.ending s number).puts then 1 else 0) (call.answer s number).service := by
  unfold Call.entry Call.ending
  unfold Call.inside? at h
  cases hrequest : call.request? with
  | none =>
    rw [hrequest] at h
    exact nomatch h
  | some request =>
    obtain ⟨hkey, hservice, -⟩ := answer_of_request hrequest s number
    have hcourse := course_answer request s number
    rw [hrequest, Option.bind_some] at h
    rw [h] at hcourse
    rw [← hkey, hservice]
    exact ⟨hcourse.moves_before, fun log gets puts hinside => hcourse.moves_ran hinside _⟩

/-- What is counted in a log is counted in its parts. -/
theorem countP_entry (counted : Ending → Bool) (inside log : List Entry) (e : Entry) :
    (inside ++ e :: log).countP (fun e => counted e.ending)
      = inside.countP (fun e => counted e.ending) + (if counted e.ending then 1 else 0)
        + log.countP (fun e => counted e.ending) := by
  rw [List.countP_append, List.countP_cons]
  omega

/-- A run moves what its log says. -/
theorem Run.moves (h : Run s log s') :
    Moves s log (log.countP (·.ending.asks)) (log.countP (·.ending.puts)) s' := by
  induction h with
  | done s => exact ⟨rfl, (List.append_nil _).symm, rfl, rfl⟩
  | idle h hlater ih =>
    have hmoves := h.moves.trans ih
    rwa [Nat.zero_add, Nat.zero_add] at hmoves
  | answered call number h hlater ih =>
    rw [List.countP_cons, List.countP_cons, Nat.add_comm, Nat.add_comm (List.countP _ _)]
    exact (moves_answered call h).trans ih
  | ran call number h hinside hlater ihinside ih =>
    have hmoves := ((moves_ran call h).2 _ _ _ ihinside).trans ih
    rw [List.append_assoc] at hmoves
    rw [countP_entry Ending.asks, countP_entry Ending.puts]
    exact hmoves

/-- The entries of a log name their guards and agree with what callers are told. -/
theorem Run.entries (h : Run s log s') :
    ∀ e ∈ log, e.name = (s.guard e.number).moduleName ∧ e.ending.Tells e.key e.told := by
  induction h with
  | done s => exact fun _ hmem => nomatch hmem
  | idle h hlater ih =>
    intro e hmem
    obtain ⟨hname, htells⟩ := ih e hmem
    exact ⟨by rw [hname, h.moves.moduleName], htells⟩
  | answered call number h hlater ih =>
    intro e hmem
    rcases List.mem_cons.1 hmem with rfl | hmem
    · exact ⟨rfl, tells_answer call _ _⟩
    · obtain ⟨hname, htells⟩ := ih e hmem
      exact ⟨by rw [hname, (moves_answered call h).moduleName], htells⟩
  | ran call number h hinside hlater ihinside ih =>
    intro e hmem
    obtain ⟨hbefore, hcall⟩ := moves_ran call h
    rcases List.mem_append.1 hmem with hmem | hmem
    · obtain ⟨hname, htells⟩ := ihinside e hmem
      exact ⟨by rw [hname, hbefore.moduleName], htells⟩
    · rcases List.mem_cons.1 hmem with rfl | hmem
      · exact ⟨rfl, tells_answer call _ _⟩
      · obtain ⟨hname, htells⟩ := ih e hmem
        exact ⟨by rw [hname, (hcall _ _ _ hinside.moves).moduleName], htells⟩

/-- Guards do not count calls without a key, calls that the store has no answer for, and
calls whose record could not expire or is not taken. -/
theorem count?_eq_none_iff (ending : Ending) :
    ending.count? = none ↔ ending = .keyless ∨ (∃ refusal, ending = .unheard refusal)
      ∨ (∃ seconds, ending = .overflow seconds) ∨ ∃ refusal, ending = .unrecorded refusal := by
  cases ending <;> simp [Ending.count?]

/-- What guards count is how their calls ended. Let there be a run of calls, one after the
other and inside each other's operations, through any guards of a service, with any
store, on any disk, cut off from its guards or not, and whatever else happens to the
service in between.

- A call moves at most one counter, by one, and its guard's. So a counter has gone up by
  the number of the guard's calls that ended so, but for starting over when it is full.
- The events about calls are those of the log, one for each call that is counted. If no
  other guard of that name is called, as many name a guard and say how a call ended as
  the guard has counted.
- Every call with a key looks it up in the store, once, and every call whose operation
  gives a result puts a record, once.
- The caller is told what fits the way the call ended. The calls that are not counted
  are those that the guard or the store refuses; what the operation refuses is counted
  as a failure, whatever it says. -/
theorem accounts (h : Run s log s') :
    s'.guards = log.foldl Entry.mark s.guards
      ∧ (∀ n count, n < s.guards.length →
        ((s'.guard n).tally.get count).toNat
          = (((s.guard n).tally.get count).toNat + log.countP (·.counts n count)) % UInt64.size)
      ∧ s'.reports.filter (·.end?.isSome)
        = s.reports.filter (·.end?.isSome) ++ log.filterMap Entry.event?
      ∧ (∀ n count, (∀ e ∈ log, e.name = (s.guard n).moduleName → e.number = n) →
        s'.reports.countP (fun event => event.end? = some ((s.guard n).moduleName, count))
          = s.reports.countP (fun event => event.end? = some ((s.guard n).moduleName, count))
            + log.countP (·.counts n count))
      ∧ s'.traffic.gets = s.traffic.gets + log.countP (·.ending.asks)
      ∧ s'.traffic.puts = s.traffic.puts + log.countP (·.ending.puts)
      ∧ ∀ e ∈ log, e.name = (s.guard e.number).moduleName ∧ e.ending.Tells e.key e.told
        ∧ (e.ending.count? = none ↔ e.ending = .keyless
          ∨ (∃ refusal, e.ending = .unheard refusal) ∨ (∃ seconds, e.ending = .overflow seconds)
          ∨ ∃ refusal, e.ending = .unrecorded refusal) := by
  have hmoves := h.moves
  refine ⟨hmoves.guards, fun n count hn => hmoves.tally hn count, hmoves.events, ?_,
    hmoves.gets, hmoves.puts, ?_⟩
  · intro n count hnames
    rw [hmoves.countP_end]
    congr 1
    refine List.countP_congr fun e hmem => ?_
    -- Of the calls in the log, those of the name are those of the number.
    have hname : e.name = (s.guard n).moduleName ↔ e.number = n := by
      refine ⟨hnames e hmem, ?_⟩
      rintro rfl
      exact (h.entries e hmem).1
    simp [Entry.counts, hname]
  · intro e hmem
    obtain ⟨hname, htells⟩ := h.entries e hmem
    exact ⟨hname, htells, count?_eq_none_iff _⟩

/-- Where there is no record and one could expire, the operation runs after the lookup. -/
theorem inside?_of_missed {call : Call ω ε α} {request : Request ω ε}
    (hrequest : call.request? = some request)
    (hget : (s.guardedGet request.key s.now).1 = .ok none)
    (hadd : (s.now.add? (s.guard number).lifetime).isSome = true) :
    call.inside? s number = some ((s.guardedGet request.key s.now).2,
      (request.operation (s.guardedGet request.key s.now).2).2.2) := by
  obtain ⟨expiresAt, hexpires⟩ := Option.isSome_iff_exists.1 hadd
  unfold Call.inside? Request.inside?
  rw [hrequest, Option.bind_some, hexpires]
  cases hanswer : s.guardedGet request.key s.now with
  | mk answer before =>
    obtain rfl : answer = .ok none := by rwa [hanswer] at hget
    rfl

/-- Two guards that share a store in memory. -/
def shared : Service :=
  fresh { seconds := 80, nanos := 0 } [Guard.new "orders", Guard.new "billing"]

/-- A call that is recorded. -/
def bill : Call Unit String Bytes := .raw "key" "bill" fun s => (.ok [1], (), s)

/-- A call in whose operation another guard records the key. -/
def order : Call Unit String Bytes :=
  .raw "key" "order" fun s => (.ok [2], (), (bill.answer s 1).service)

/-- A call whose operation fails as a store would. -/
def audit : Call Unit String Bool :=
  .typed Codec.bool "audit" "all" fun s => (.error (.refused (.storage "no answer")), (), s)

/-- A call with a key of its own. -/
def renew : Call Unit String Bytes := .raw "renew" "all" fun s => (.ok [3], (), s)

/-- The service after the first two calls, no longer taking records. -/
def cutOff : Service :=
  { (audit.answer (order.answer shared 0).service 0).service with
    outage := { put := some "cut off" } }

/-- The guards of five calls and their endings. The first call is inside the second, and
takes its key. The third fails in its operation and the fourth because the store does
not take its record; the last is the first again. -/
def endings : List (Nat × Ending) :=
  [(1, .committed .inserted), (0, .overtaken), (0, .failed (.refused (.storage "no answer"))),
    (0, .unrecorded (.storage "cut off")), (1, .replayed)]

/-- The orders count one conflict and one failure, and the bills count both their calls.
All five keys are looked up, and three records put. -/
theorem accounts_shared : ∃ log s', Run shared log s'
    ∧ log.map (fun e => (e.number, e.ending)) = endings
    ∧ (∀ count, ((s'.guard 0).tally.get count).toNat
      = if count = .conflict ∨ count = .failure then 1 else 0)
    ∧ (∀ count, ((s'.guard 1).tally.get count).toNat
      = if count = .execution ∨ count = .replay then 1 else 0)
    ∧ s'.traffic.gets = 5 ∧ s'.traffic.puts = 3 := by
  have hbill : Run (shared.guardedGet "key" shared.now).2 _ _ :=
    .ran bill 1 (inside?_of_missed rfl (by decide +kernel) (by decide +kernel))
      (.done _) (.done _)
  have hlast : Run cutOff _ _ :=
    .ran renew 0 (inside?_of_missed rfl (by decide +kernel) (by decide +kernel))
      (.done _)
      (.answered bill 1 (Option.isNone_iff_eq_none.1 (by decide +kernel)) (.done _))
  have hall : Run shared _ _ :=
    .ran order 0 (inside?_of_missed rfl (by decide +kernel) (by decide +kernel)) hbill
      (.ran audit 0
        (inside?_of_missed rfl (by decide +kernel) (by decide +kernel)) (.done _)
        (.idle (idle_world _ _ _ _ _) hlast))
  obtain ⟨log, s', hrun, hlog⟩ : ∃ log s', Run shared log s'
      ∧ log.map (fun e => (e.number, e.ending)) = endings := ⟨_, _, hall, by decide +kernel⟩
  obtain ⟨-, htally, -, -, hgets, hputs, -⟩ := accounts hrun
  have hcounted : ∀ counted : Nat × Ending → Bool,
      log.countP (fun e => counted (e.number, e.ending)) = endings.countP counted := by
    intro counted
    rw [← hlog, List.countP_map]
    rfl
  have hcounts : ∀ n count, log.countP (·.counts n count)
      = endings.countP fun e => e.1 = n && e.2.count? = some count := fun n count =>
    hcounted fun e => e.1 = n && e.2.count? = some count
  refine ⟨log, s', hrun, hlog, fun count => ?_, fun count => ?_, ?_, ?_⟩
  · rw [htally 0 count (by decide), hcounts]
    cases count <;> rfl
  · rw [htally 1 count (by decide), hcounts]
    cases count <;> rfl
  · exact hgets.trans (congrArg (shared.traffic.gets + ·) (hcounted fun e => e.2.asks))
  · exact hputs.trans (congrArg (shared.traffic.puts + ·) (hcounted fun e => e.2.puts))

end Accounting

end Idempotency
