import Idempotency.Proofs.Fingerprint
import Idempotency.Proofs.Guard.InMemory
import Idempotency.Proofs.Text.Blank

/-!
# `Idempotency.Proofs.Guard.Command`: a command that comes again

A command brings a key as it was typed and a request as it was filled in. The key
loses its outer blanks, and of the request only the texts of its fingerprint count.
So `command_retry` says, on records in memory: after a command has run its operation,
a second one with the same key and the same texts gets its value, and one with the
same key and other texts is refused, both without running; one with another key is
answered as if the first had never come. A key that is all blank is refused before
anything else happens.

The parts it is made of: what a call does when its key holds nothing
(`Service.callRaw_of_missed`), what it leaves under its key (`Command.Executes.recorded`),
and that a call is decided by what its own key holds (`Service.callRaw_congr`).
-/

set_option autoImplicit false

namespace Idempotency

/-! ### Operations that leave the store alone -/

section
variable {ω ε α : Type} {operation : Operation ω ε α}

/-- The operation leaves the store alone, and with it what guards go by. -/
structure StaysOut (operation : Operation ω ε α) : Prop where
  store : ∀ s, (operation s).2.2.store = s.store
  outage : ∀ s, (operation s).2.2.outage = s.outage
  guards : ∀ s, (operation s).2.2.guards = s.guards

/-- Of a service, the operation looks at the clock only. -/
def GoesByClock (operation : Operation ω ε α) : Prop :=
  ∀ s s', s.now = s'.now →
    (operation s).1 = (operation s').1 ∧ (operation s).2.1 = (operation s').2.1

/-- Writing the value does not touch the store. -/
theorem StaysOut.encoded (h : StaysOut operation) (codec : Codec α) :
    StaysOut (Service.encoded codec operation) where
  store s := by rw [Service.snd_encoded, h.store]
  outage s := by rw [Service.snd_encoded, h.outage]
  guards s := by rw [Service.snd_encoded, h.guards]

/-- Writing the value depends on nothing but the value. -/
theorem GoesByClock.encoded (h : GoesByClock operation) (codec : Codec α) :
    GoesByClock (Service.encoded codec operation) := by
  intro s s' hnow
  obtain ⟨houtcome, htrace⟩ := h s s' hnow
  refine ⟨?_, by rw [Service.snd_encoded, Service.snd_encoded, htrace]⟩
  obtain ⟨outcome, trace, left, hrun⟩ :
      ∃ outcome trace left, operation s = (outcome, trace, left) := ⟨_, _, _, rfl⟩
  obtain ⟨outcome', trace', left', hrun'⟩ :
      ∃ outcome trace left, operation s' = (outcome, trace, left) := ⟨_, _, _, rfl⟩
  rw [hrun, hrun'] at houtcome
  obtain rfl : outcome = outcome' := houtcome
  unfold Service.encoded
  rw [hrun, hrun']
  cases outcome with
  | error failure => rfl
  | ok value =>
    dsimp only
    split
    · rfl
    · rfl

end

namespace Service

/-! ### Another time -/

/-- The service, with its clock at an instant. -/
def atTime (s : Service) (moment : Instant) : Service := { s with now := moment }

/-- The clock is at that instant. -/
@[simp] theorem now_atTime (s : Service) (moment : Instant) : (s.atTime moment).now = moment := rfl

/-- The guards are the same at any time. -/
@[simp] theorem guard_atTime (s : Service) (moment : Instant) (number : Nat) :
    (s.atTime moment).guard number = s.guard number := rfl

/-- So are the records. -/
theorem Holds.atTime {s : Service} {ix : Index} (h : s.Holds ix) (moment : Instant) :
    (s.atTime moment).Holds ix := ⟨h.store, h.outage⟩

/-! ### Calls on records in memory -/

section
variable {ω ε : Type} {s s' : Service} {ix ix' : Index} {number : Nat} {key requestHash : String}
  {operation : Operation ω ε Bytes} {expiresAt : Instant}

/-- An operation that stays out leaves the records. -/
theorem Holds.leave (h : s.Holds ix) (hout : StaysOut operation) : (operation s).2.2.Holds ix :=
  ⟨(hout.store s).trans h.store, (hout.outage s).trans h.outage⟩

/-- A call whose key holds nothing that counts is its operation, and leaves the record
of the result under its key. -/
theorem callRaw_of_missed (h : s.Holds ix) (hfound : (ix.lookup key s.now).found = none)
    (hexpiry : s.now.add? (s.guard number).lifetime = some expiresAt)
    (hout : StaysOut operation) (requestHash : String) :
    ∃ s₁, s₁.now = s.now
      ∧ (s.callRaw number key requestHash operation).result = (operation s₁).1
      ∧ (s.callRaw number key requestHash operation).trace = some (operation s₁).2.1
      ∧ (∀ n, ((s.callRaw number key requestHash operation).service.guard n).lifetime
          = (s.guard n).lifetime)
      ∧ ∀ payload, (operation s₁).1 = .ok payload →
        (s.callRaw number key requestHash operation).service.Holds
          ((ix.lookup key s.now).index.store ⟨key, requestHash, payload, expiresAt⟩) := by
  obtain ⟨s₁, hs₁⟩ : ∃ s₁, (s.enter (ε := ε) number key requestHash s.now).2 = s₁ := ⟨_, rfl⟩
  have henter : s.enter (ε := ε) number key requestHash s.now = (.cleared expiresAt, s₁) := by
    refine Prod.ext ?_ hs₁
    rw [enter_of_missed h hfound, hexpiry]
  have hholds : s₁.Holds (ix.lookup key s.now).index := by
    rw [← hs₁]
    exact h.enter number key requestHash s.now
  have hkeeps : s.Keeps s₁ := by
    rw [← hs₁]
    exact keeps_enter s number key requestHash s.now
  obtain ⟨outcome, trace, s₂, hrun⟩ : ∃ outcome trace s₂, operation s₁ = (outcome, trace, s₂) :=
    ⟨_, _, _, rfl⟩
  have hholds₂ := hholds.leave hout
  have hlifetime : ∀ n, (s₂.guard n).lifetime = (s.guard n).lifetime := by
    intro n
    have hguards := hout.guards s₁
    rw [hrun] at hguards
    rw [← hkeeps.lifetime, guard, guard, hguards]
  rw [hrun] at hholds₂
  refine ⟨s₁, hkeeps.now, ?_⟩
  rw [hrun]
  cases outcome with
  | error failure =>
    rw [callRaw_of_failed henter hrun]
    refine ⟨rfl, rfl,
      fun n => ((keeps_abandon s₂ number key).lifetime n).trans (hlifetime n), ?_⟩
    intro payload hpayload
    cases hpayload
  | ok payload =>
    have hfree : (ix.lookup key s.now).index.find? key = none := by
      rw [Index.find?_lookup_self, hfound]
    rw [callRaw_of_done henter hrun, settle_result hholds₂]
    refine ⟨if_pos fun held hheld => ?_, rfl, fun n => ?_, fun payload' hpayload => ?_⟩
    · rw [hfree] at hheld
      cases hheld
    · exact ((keeps_settle s₂ number _).lifetime n).trans (hlifetime n)
    · have hsettled := hholds₂.settle (ε := ε) number ⟨key, requestHash, payload, expiresAt⟩
      rw [if_pos hfree] at hsettled
      obtain rfl : payload = payload' := Except.ok.inj hpayload
      exact hsettled

/-- A call whose record could not expire does not run. -/
theorem callRaw_of_overflow (h : s.Holds ix) (hfound : (ix.lookup key s.now).found = none)
    (hexpiry : s.now.add? (s.guard number).lifetime = none) (requestHash : String)
    (operation : Operation ω ε Bytes) :
    (s.callRaw number key requestHash operation).trace = none
      ∧ (s.callRaw number key requestHash operation).result
        = .error (.refused (.expiryOverflow (s.guard number).lifetime.wholeSeconds)) := by
  have hentrance : (s.enter (ε := ε) number key requestHash s.now).1 = _ :=
    enter_of_missed h hfound
  rw [hexpiry] at hentrance
  rw [callRaw_of_answered (Prod.ext hentrance rfl)]
  exact ⟨rfl, rfl⟩

/-- What comes of a call, at a time and through a guard, is decided by what its own
key holds. -/
theorem callRaw_congr (h : s.Holds ix) (h' : s'.Holds ix') (hnow : s'.now = s.now)
    (hlifetime : (s'.guard number).lifetime = (s.guard number).lifetime)
    (hfind : ix'.find? key = ix.find? key) (hout : StaysOut operation)
    (hclock : GoesByClock operation) (requestHash : String) :
    (s'.callRaw number key requestHash operation).result
        = (s.callRaw number key requestHash operation).result
      ∧ (s'.callRaw number key requestHash operation).trace
        = (s.callRaw number key requestHash operation).trace := by
  have hsame : (ix'.lookup key s'.now).found = (ix.lookup key s.now).found := by
    rw [Index.found_lookup, Index.found_lookup, hfind, hnow]
  cases hfound : (ix.lookup key s.now).found with
  | some r =>
    have hgot : (s.guardedGet key s.now).1 = .ok (some r) := by
      rw [guardedGet_found h, hfound]
    have hgot' : (s'.guardedGet key s'.now).1 = .ok (some r) := by
      rw [guardedGet_found h', hsame, hfound]
    obtain ⟨htrace, hresult⟩ := callRaw_of_got_some hgot number requestHash operation
    obtain ⟨htrace', hresult'⟩ := callRaw_of_got_some hgot' number requestHash operation
    rw [htrace, htrace', hresult, hresult']
    exact ⟨rfl, rfl⟩
  | none =>
    rw [hfound] at hsame
    have hsameExpiry : s'.now.add? (s'.guard number).lifetime
        = s.now.add? (s.guard number).lifetime := by
      rw [hlifetime, hnow]
    cases hexpiry : s.now.add? (s.guard number).lifetime with
    | none =>
      rw [hexpiry] at hsameExpiry
      obtain ⟨htrace, hresult⟩ := callRaw_of_overflow h hfound hexpiry requestHash operation
      obtain ⟨htrace', hresult'⟩ :=
        callRaw_of_overflow h' hsame hsameExpiry requestHash operation
      rw [htrace, htrace', hresult, hresult', hlifetime]
      exact ⟨rfl, rfl⟩
    | some expiresAt =>
      rw [hexpiry] at hsameExpiry
      obtain ⟨s₁, hnow₁, hresult, htrace, -⟩ :=
        callRaw_of_missed h hfound hexpiry hout requestHash
      obtain ⟨s₁', hnow₁', hresult', htrace', -⟩ :=
        callRaw_of_missed h' hsame hsameExpiry hout requestHash
      obtain ⟨houtcome, hran⟩ := hclock s₁' s₁ (by rw [hnow₁', hnow, hnow₁])
      rw [hresult, hresult', htrace, htrace', houtcome, hran]
      exact ⟨rfl, rfl⟩

end

section
variable {ω ε α : Type} {codec : Codec α} {key : String} {payload : Bytes} {value : α}

/-- A payload is decoded exactly if it reads as a value. -/
theorem decoded_eq_ok_iff : decoded (ε := ε) codec key payload = .ok value
    ↔ Json.readBytes codec.read payload = .ok value := by
  unfold decoded
  cases Json.readBytes codec.read payload with
  | ok value' => simp
  | error e => simp

end

end Service

/-! ### Commands -/

/-- A command as it comes to a service: the guard it goes through, its key, its request
and what it does. -/
structure Command (ω ε α : Type) where
  number : Nat
  key : String
  operationName : String
  parts : List Part
  operation : Operation ω ε α

namespace Command

variable {ω ε α : Type}

/-- The texts that tell its request from others. -/
def fields (c : Command ω ε α) : List String := Fingerprint.fields c.operationName c.parts

/-- The answer to it. -/
def on (c : Command ω ε α) (codec : Codec α) (s : Service) : Answer ω ε α :=
  s.command codec c.number c.key c.operationName c.parts c.operation

/-- The command runs its operation and gives the value, through a guard whose records
then expire at the instant. -/
structure Executes (c : Command ω ε α) (codec : Codec α) (s : Service) (value : α)
    (expiresAt : Instant) : Prop where
  result : (c.on codec s).result = .ok value
  ran : (c.on codec s).trace.isSome
  expiry : s.now.add? (s.guard c.number).lifetime = some expiresAt

variable {c : Command ω ε α} {codec : Codec α} {s : Service} {ix : Index} {value : α}
  {expiresAt : Instant}

/-- A key of blanks is none. -/
theorem on_of_blank (h : Text.trim c.key = "") (codec : Codec α) (s : Service) :
    c.on codec s = ⟨.error (.refused .keyRequired), none, s⟩ := by
  have hkey : requireKey c.key = .error .keyRequired := by
    rw [requireKey, h]
    rfl
  unfold on Service.command
  rw [hkey]

/-- Any other key loses its outer blanks. -/
theorem on_of_key (h : Text.trim c.key ≠ "") (codec : Codec α) (s : Service) :
    c.on codec s = s.call codec c.number (Text.trim c.key)
      (Fingerprint.ofRequest c.operationName c.parts) c.operation := by
  have hkey : requireKey c.key = .ok (Text.trim c.key) := by
    rw [requireKey]
    exact if_neg (by rwa [String.isEmpty_iff])
  unfold on Service.command
  rw [hkey]

/-- What a command has given is recorded under its key. -/
theorem Executes.recorded (h : c.Executes codec s value expiresAt) (hholds : s.Holds ix)
    (hout : StaysOut c.operation) :
    Text.trim c.key ≠ "" ∧ ∃ payload, Json.readBytes codec.read payload = .ok value
      ∧ (c.on codec s).service.Holds ((ix.lookup (Text.trim c.key) s.now).index.store
        ⟨Text.trim c.key, Fingerprint.ofRequest c.operationName c.parts, payload, expiresAt⟩)
      ∧ ∀ n, ((c.on codec s).service.guard n).lifetime = (s.guard n).lifetime := by
  obtain ⟨hresult, hran, hexpiry⟩ := h
  have hkey : Text.trim c.key ≠ "" := by
    intro hblank
    rw [on_of_blank hblank] at hresult
    exact nomatch hresult
  refine ⟨hkey, ?_⟩
  rw [on_of_key hkey, Service.result_call] at hresult
  rw [on_of_key hkey] at hran ⊢
  cases hfound : (ix.lookup (Text.trim c.key) s.now).found with
  | some r =>
    -- Then the operation would not have run.
    have hgot : (s.guardedGet (Text.trim c.key) s.now).1 = .ok (some r) := by
      rw [Service.guardedGet_found hholds, hfound]
    obtain ⟨htrace, -⟩ := Service.callRaw_of_got_some hgot c.number
      (Fingerprint.ofRequest c.operationName c.parts) (Service.encoded codec c.operation)
    exact absurd hran (by rw [Service.trace_call, htrace]; exact Bool.false_ne_true)
  | none =>
    obtain ⟨s₁, -, hraw, -, hlifetime, hleft⟩ := Service.callRaw_of_missed hholds hfound hexpiry
      (hout.encoded codec) (Fingerprint.ofRequest c.operationName c.parts)
    rw [hraw] at hresult
    cases houtcome : (Service.encoded codec c.operation s₁).1 with
    | error failure =>
      rw [houtcome] at hresult
      exact nomatch hresult
    | ok payload =>
      rw [houtcome] at hresult
      exact ⟨payload, Service.decoded_eq_ok_iff.1 hresult, hleft payload houtcome, hlifetime⟩

/-- Until it expires, that record is what a lookup finds under the key. What other keys
hold is as before the command. -/
theorem Executes.found_later {moment : Instant} (h : c.Executes codec s value expiresAt)
    (hholds : s.Holds ix) (hout : StaysOut c.operation) (hle : moment ≤ expiresAt) :
    ∃ ix', ((c.on codec s).service.atTime moment).Holds ix' ∧ Text.trim c.key ≠ ""
      ∧ ∃ payload, Json.readBytes codec.read payload = .ok value
        ∧ (ix'.lookup (Text.trim c.key) moment).found = some
          ⟨Text.trim c.key, Fingerprint.ofRequest c.operationName c.parts, payload, expiresAt⟩
        ∧ ∀ key, key ≠ Text.trim c.key → ix'.find? key = ix.find? key := by
  obtain ⟨hkey, payload, hread, hleft, -⟩ := h.recorded hholds hout
  refine ⟨_, hleft.atTime moment, hkey, payload, hread, ?_, fun key hne => ?_⟩
  · rw [Index.found_eq_some_iff, Index.find?_store, if_pos rfl, Record.not_isExpiredAt_iff]
    exact ⟨rfl, hle⟩
  · rw [Index.find?_store, if_neg hne, Index.find?_lookup_of_ne _ _ hne]

/-- A command whose key holds a record that counts does not run. It gets what is
recorded if it is of the same request, and is refused otherwise. -/
theorem on_of_found {r : Record} (hholds : s.Holds ix) (hkey : Text.trim c.key ≠ "")
    (hfound : (ix.lookup (Text.trim c.key) s.now).found = some r) (codec : Codec α) :
    (c.on codec s).trace = none
      ∧ (c.on codec s).result
        = if r.requestHash = Fingerprint.ofRequest c.operationName c.parts
          then Service.decoded codec (Text.trim c.key) r.payload
          else .error (.refused (.conflict (Text.trim c.key))) := by
  have hgot : (s.guardedGet (Text.trim c.key) s.now).1 = .ok (some r) := by
    rw [Service.guardedGet_found hholds, hfound]
  obtain ⟨htrace, hresult⟩ := Service.callRaw_of_got_some hgot c.number
    (Fingerprint.ofRequest c.operationName c.parts) (Service.encoded codec c.operation)
  rw [on_of_key hkey, Service.result_call, Service.trace_call, htrace, hresult]
  refine ⟨rfl, ?_⟩
  split
  · rfl
  · rfl

/-- What comes of a command, at a time and through a guard, is decided by what its own
key holds. -/
theorem on_congr {s' : Service} {ix' : Index} (hholds : s.Holds ix) (hholds' : s'.Holds ix')
    (hnow : s'.now = s.now) (hlifetime : ∀ n, (s'.guard n).lifetime = (s.guard n).lifetime)
    (hfind : ix'.find? (Text.trim c.key) = ix.find? (Text.trim c.key))
    (hout : StaysOut c.operation) (hclock : GoesByClock c.operation) :
    (c.on codec s').result = (c.on codec s).result
      ∧ (c.on codec s').trace = (c.on codec s).trace := by
  by_cases hkey : Text.trim c.key = ""
  · rw [on_of_blank hkey, on_of_blank hkey]
    exact ⟨rfl, rfl⟩
  · obtain ⟨hresult, htrace⟩ := Service.callRaw_congr hholds hholds' hnow (hlifetime c.number)
      hfind (hout.encoded codec) (hclock.encoded codec)
      (Fingerprint.ofRequest c.operationName c.parts)
    rw [on_of_key hkey, on_of_key hkey, Service.result_call, Service.result_call,
      Service.trace_call, Service.trace_call, hresult, htrace]
    exact ⟨rfl, rfl⟩

/-- A command that comes after another. Let a service keep its records in memory, and
let a first command, whose operation leaves the store alone, run and give a value. Let
a second one, of results of the same kind and through any guard, come right after it,
up to the instant at which the record of the first expires.

* If the keys are the same but for outer blanks, and the requests have the same texts,
  the second gets the value of the first, without running.
* If the keys are the same but for outer blanks, and the requests have other texts, it
  is refused because of the trimmed key, without running, unless the hash collides on
  the two requests.
* If the keys differ, and its operation leaves the store alone and looks at the clock
  only, it gets and does what it would, had the first never come.

On any service, a command with a key of blanks is refused for that. It does not run,
and the service is as it was: the store has not been asked, and nothing has been
counted or reported. -/
theorem command_retry {α : Type} {codec : Codec α} :
    (∀ {ω ε ω' ε' : Type} {s : Service} {ix : Index} {value : α} {expiresAt moment : Instant}
        (first : Command ω ε α) (second : Command ω' ε' α) (late : Service),
      s.Holds ix → StaysOut first.operation → first.Executes codec s value expiresAt →
      moment ≤ expiresAt → late = (first.on codec s).service.atTime moment →
      (Text.trim second.key = Text.trim first.key → second.fields = first.fields →
        (second.on codec late).result = .ok value ∧ (second.on codec late).trace = none)
      ∧ (Text.trim second.key = Text.trim first.key → second.fields ≠ first.fields →
        (sha256 (Fingerprint.preimage second.fields) = sha256 (Fingerprint.preimage first.fields) →
          Fingerprint.preimage second.fields = Fingerprint.preimage first.fields) →
        (second.on codec late).result = .error (.refused (.conflict (Text.trim second.key)))
          ∧ (second.on codec late).trace = none)
      ∧ (Text.trim second.key ≠ Text.trim first.key → StaysOut second.operation →
        GoesByClock second.operation →
        (second.on codec late).result = (second.on codec (s.atTime moment)).result
          ∧ (second.on codec late).trace = (second.on codec (s.atTime moment)).trace))
    ∧ ∀ {ω ε : Type} (c : Command ω ε α) (s : Service),
        (∀ char ∈ c.key.toList, Text.isBlank char = true) →
        c.on codec s = ⟨.error (.refused .keyRequired), none, s⟩ := by
  constructor
  · intro ω ε ω' ε' s ix value expiresAt moment first second late hholds hout hfirst hle hlate
    subst hlate
    obtain ⟨ix', hlate, hkey, payload, hread, hfound, hothers⟩ :=
      hfirst.found_later hholds hout hle
    refine ⟨fun hsame hfields => ?_, fun hsame hfields hcollide => ?_,
      fun hother hout' hclock => ?_⟩
    · obtain ⟨htrace, hresult⟩ := on_of_found (c := second) hlate (by rwa [hsame])
        (by rw [hsame, Service.now_atTime, hfound]) codec
      have hhash : Fingerprint.ofRequest first.operationName first.parts
          = Fingerprint.ofRequest second.operationName second.parts :=
        congrArg Fingerprint.ofValues hfields.symm
      rw [if_pos hhash, Service.decoded_eq_ok_iff.2 hread] at hresult
      exact ⟨hresult, htrace⟩
    · obtain ⟨htrace, hresult⟩ := on_of_found (c := second) hlate (by rwa [hsame])
        (by rw [hsame, Service.now_atTime, hfound]) codec
      have hhash : ¬ Fingerprint.ofRequest first.operationName first.parts
          = Fingerprint.ofRequest second.operationName second.parts := fun heq =>
        hfields ((Fingerprint.ofRequest_eq_iff hcollide).1 heq.symm)
      rw [if_neg hhash] at hresult
      exact ⟨hresult, htrace⟩
    · obtain ⟨-, -, -, -, hlifetime⟩ := hfirst.recorded hholds hout
      refine on_congr (hholds.atTime moment) hlate ?_ ?_ (hothers _ hother) hout' hclock
      · rw [Service.now_atTime, Service.now_atTime]
      · intro n
        rw [Service.guard_atTime, Service.guard_atTime, hlifetime]
  · intro ω ε c s hblank
    exact on_of_blank (Text.trim_eq_empty_iff.2 hblank) codec s

/-- An operation that gives a value and does nothing else. -/
def granting : Operation Unit Empty Bool := fun s => (.ok true, (), s)

/-- The operation touches nothing. -/
theorem staysOut_granting : StaysOut granting := ⟨fun _ => rfl, fun _ => rfl, fun _ => rfl⟩

/-- It does not even look at the clock. -/
theorem goesByClock_granting : GoesByClock granting := fun _ _ _ => ⟨rfl, rfl⟩

/-- An order of tea, through the first guard. -/
def order (key tea : String) (count : Int) : Command Unit Empty Bool :=
  ⟨0, key, "order", [.normalized tea, .number count], granting⟩

/-- The service after an order, at the last instant at which its record counts. -/
def ordered : Service :=
  Service.atTime
    ((order "key" "Assam" 2).on Codec.bool (Service.fresh { seconds := 0, nanos := 0 } [])).service
    { seconds := 604800, nanos := 0 }

/-- The same order in other letters, another order with its key, an order with
another key, and one without a key. -/
theorem command_retry_order :
    ((order "key " " ASSAM" 2).on Codec.bool ordered).result = .ok true
      ∧ ((order "key " " ASSAM" 2).on Codec.bool ordered).trace = none
      ∧ ((order " key" "Assam" 3).on Codec.bool ordered).result
        = .error (.refused (.conflict "key"))
      ∧ ((order "next" "Assam" 2).on Codec.bool ordered).trace = some ()
      ∧ (order "\t " "Assam" 2).on Codec.bool ordered
        = ⟨.error (.refused .keyRequired), none, ordered⟩ := by
  have hexecutes : (order "key" "Assam" 2).Executes Codec.bool
      (Service.fresh { seconds := 0, nanos := 0 } []) true { seconds := 604800, nanos := 0 } :=
    ⟨by decide +kernel, by decide +kernel, by decide +kernel⟩
  have hretry := fun second : Command Unit Empty Bool => command_retry.1 (order "key" "Assam" 2)
    second ordered (Service.holds_fresh _ []) staysOut_granting hexecutes (by decide) rfl
  obtain ⟨hagain, -, -⟩ := hretry (order "key " " ASSAM" 2)
  obtain ⟨-, hother, -⟩ := hretry (order " key" "Assam" 3)
  obtain ⟨-, -, hnext⟩ := hretry (order "next" "Assam" 2)
  obtain ⟨hsame, hidle⟩ := hagain (by decide +kernel) (by decide +kernel)
  obtain ⟨hconflict, -⟩ := hother (by decide +kernel) (by decide +kernel)
    fun hdigest => absurd hdigest (by decide +kernel)
  obtain ⟨-, hran⟩ := hnext (by decide +kernel) staysOut_granting goesByClock_granting
  have hblank : ∀ char ∈ "\t ".toList, Text.isBlank char = true :=
    Text.trim_eq_empty_iff.1 (by decide +kernel)
  refine ⟨hsame, hidle, hconflict, ?_, command_retry.2 _ _ hblank⟩
  rw [hran]
  decide +kernel

end Command

end Idempotency
