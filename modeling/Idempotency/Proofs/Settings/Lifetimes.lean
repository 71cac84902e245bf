import Mathlib.Data.Fintype.EquivFin
import Idempotency.Proofs.Guard.Window
import Idempotency.Proofs.SortedMap
import Idempotency.Proofs.Text.Order

/-!
# `Idempotency.Proofs.Settings.Lifetimes`: the lifetimes that settings give

Settings are in range if no lifetime in them is longer than a hundred years
(`Settings.InRange`). Validation looks at the common lifetime and at those of the modules
that are named, and these are finitely many. That is enough for every module there could
be: the common lifetime stands in for a module exactly if the module is not named or its
own lifetime is nothing or less (`secondsFor`). It is not too much either, since there is
always a module that is not named (`exists_lifetimeFor_iff`).

What is refused is named by `Blames`: the common lifetime goes first, and then the modules
in the order of the bytes of their names.

A lifetime in range is more than nothing, so a guard takes it as it is, and its records
expire within the range of instants unless the clock is in the last hundred years of that
(`lifetimes_in_range`).
-/

set_option autoImplicit false

namespace Idempotency

namespace Settings

open SortedMap (mem_keys_iff)

variable {s : Settings} {scope moduleName : String} {n : Int64} {seconds : Option Int64}
  {e : SettingsError}

/-- No lifetime is longer than a hundred years. -/
structure InRange (s : Settings) : Prop where
  common : ∀ n, s.defaultSeconds = some n → n.toInt ≤ maxSeconds
  modules : ∀ moduleName n, s.moduleSeconds.find? moduleName = some n → n.toInt ≤ maxSeconds

/-- How many seconds the records of a module last: its own if they are more than nothing,
or else the common ones if these are, or else seven days. -/
def secondsFor (s : Settings) (moduleName : String) : Int :=
  ((s.moduleSeconds.find? moduleName).filter (0 < ·.toInt)
    <|> s.defaultSeconds.filter (0 < ·.toInt)).elim Lifetime.standardSeconds (·.toInt)

/-- The refusal names a lifetime that is out of range: the common one, or else that of
the first module, in the order of bytes, that has one. -/
inductive Blames (s : Settings) : SettingsError → Prop
  | common {n : Int64} (hset : s.defaultSeconds = some n) (hlong : maxSeconds < n.toInt) :
    Blames s (.outOfRange "default_ttl_secs" n)
  | module {moduleName : String} {n : Int64}
    (hcommon : ∀ n, s.defaultSeconds = some n → n.toInt ≤ maxSeconds)
    (hset : s.moduleSeconds.find? moduleName = some n) (hlong : maxSeconds < n.toInt)
    (hfirst : ∀ other n', s.moduleSeconds.find? other = some n' → maxSeconds < n'.toInt →
      other ≠ moduleName → Text.encodeString moduleName < Text.encodeString other) :
    Blames s (.outOfRange ("module_ttl_secs." ++ moduleName) n)

/-! ### Single lifetimes -/

/-- A lifetime beyond a hundred years is refused, under the name it was set by. -/
theorem lifetimeOf_of_lt (scope : String) (hlong : maxSeconds < n.toInt) :
    lifetimeOf scope (some n) = .error (.outOfRange scope n) := by
  have hpos : 0 < n.toInt := Int.lt_trans (by decide) hlong
  simp only [lifetimeOf, hpos, hlong, if_true]

/-- Any other is taken, and the standard one stands in for one that is not set or not
more than nothing. -/
theorem lifetimeOf_of_le (scope : String)
    (hle : ∀ n, seconds = some n → n.toInt ≤ maxSeconds) :
    lifetimeOf scope seconds
      = .ok (.ofSeconds ((seconds.filter (0 < ·.toInt)).elim Lifetime.standardSeconds
          (·.toInt))) := by
  cases seconds with
  | none => rfl
  | some n =>
    have hshort : ¬ maxSeconds < n.toInt := Int.not_lt.2 (hle n rfl)
    by_cases hpos : 0 < n.toInt
    · simp [lifetimeOf, hpos, hshort, Option.filter]
    · simp only [lifetimeOf, hpos, if_false, Option.filter, decide_false]
      rfl

/-- A module with its own lifetime beyond a hundred years has none. -/
theorem lifetimeFor_of_lt (hset : s.moduleSeconds.find? moduleName = some n)
    (hlong : maxSeconds < n.toInt) :
    s.lifetimeFor moduleName = .error (.outOfRange ("module_ttl_secs." ++ moduleName) n) := by
  have hpos : 0 < n.toInt := Int.lt_trans (by decide) hlong
  simp only [lifetimeFor, hset, hpos, if_true]
  exact lifetimeOf_of_lt _ hlong

/-- A lifetime in range is as many seconds as the settings give the module. -/
theorem lifetimeFor_of_le (hcommon : ∀ n, s.defaultSeconds = some n → n.toInt ≤ maxSeconds)
    (hown : ∀ n, s.moduleSeconds.find? moduleName = some n → n.toInt ≤ maxSeconds) :
    s.lifetimeFor moduleName = .ok (.ofSeconds (s.secondsFor moduleName)) := by
  unfold lifetimeFor secondsFor
  cases hset : s.moduleSeconds.find? moduleName with
  | none => exact lifetimeOf_of_le _ hcommon
  | some n =>
    by_cases hpos : 0 < n.toInt
    · simp only [hpos, if_true]
      rw [lifetimeOf_of_le _ (by rintro _ ⟨⟩; exact hown n hset)]
      simp [Option.filter, hpos]
    · simp only [hpos, if_false]
      rw [commonLifetime, lifetimeOf_of_le _ hcommon]
      simp [Option.filter, hpos]

/-- The common lifetime stands in for a module that is not named. -/
theorem lifetimeFor_of_unnamed (hunnamed : s.moduleSeconds.find? moduleName = none) :
    s.lifetimeFor moduleName = lifetimeOf "default_ttl_secs" s.defaultSeconds := by
  simp only [lifetimeFor, hunnamed]
  rfl

/-- Some module is not named. -/
theorem exists_unnamed (s : Settings) : ∃ moduleName, s.moduleSeconds.find? moduleName = none := by
  obtain ⟨moduleName, hfresh⟩ := Infinite.exists_notMem_finset s.moduleSeconds.keys.toFinset
  exact ⟨moduleName, Option.eq_none_iff_forall_ne_some.2 fun n hset =>
    hfresh (List.mem_toFinset.2 (mem_keys_iff.2 ⟨n, hset⟩))⟩

/-- Each module has a lifetime exactly if those that are set are in range. -/
theorem exists_lifetimeFor_iff :
    (∀ moduleName, ∃ d, s.lifetimeFor moduleName = .ok d) ↔ s.InRange := by
  refine ⟨fun hall => ⟨fun n hset => ?_, fun moduleName n hset => ?_⟩, fun h moduleName =>
    ⟨_, lifetimeFor_of_le h.common (h.modules moduleName)⟩⟩
  · by_contra hlong
    obtain ⟨moduleName, hunnamed⟩ := s.exists_unnamed
    obtain ⟨d, hd⟩ := hall moduleName
    rw [lifetimeFor_of_unnamed hunnamed, hset, lifetimeOf_of_lt _ (Int.not_le.1 hlong)] at hd
    cases hd
  · by_contra hlong
    obtain ⟨d, hd⟩ := hall moduleName
    rw [lifetimeFor_of_lt hset (Int.not_le.1 hlong)] at hd
    cases hd

/-! ### Validation -/

/-- Checks made in order succeed if each does, and else fail like the first that does. -/
theorem forM_cases {α ε : Type} (check : α → Except ε Unit) (xs : List α) :
    ((∀ x ∈ xs, check x = .ok ()) ∧ xs.forM check = .ok ())
      ∨ ∃ before x after failure, xs = before ++ x :: after ∧ (∀ y ∈ before, check y = .ok ())
        ∧ check x = .error failure ∧ xs.forM check = .error failure := by
  induction xs with
  | nil => exact .inl ⟨nofun, rfl⟩
  | cons x xs ih =>
    have hstep : (x :: xs).forM check = check x >>= fun _ => xs.forM check := rfl
    cases hcheck : check x with
    | error failure =>
      refine .inr ⟨[], x, xs, failure, rfl, nofun, hcheck, ?_⟩
      rw [hstep, hcheck]
      rfl
    | ok value =>
      rw [hcheck] at hstep
      rcases ih with ⟨hall, hxs⟩ | ⟨before, y, after, failure, hsplit, hbefore, hfails, hxs⟩
      · exact .inl ⟨List.forall_mem_cons.2 ⟨hcheck, hall⟩, hstep.trans hxs⟩
      · refine .inr ⟨x :: before, y, after, failure, ?_,
          List.forall_mem_cons.2 ⟨hcheck, hbefore⟩, hfails, hstep.trans hxs⟩
        rw [hsplit, List.cons_append]

/-- With the common lifetime in range, validation goes through the modules by name. -/
theorem validate_eq_forM (hcommon : ∀ n, s.defaultSeconds = some n → n.toInt ≤ maxSeconds) :
    s.validate
      = s.moduleSeconds.keys.forM fun moduleName =>
          s.lifetimeFor moduleName >>= fun _ => .ok () := by
  rw [validate, commonLifetime, lifetimeOf_of_le _ hcommon]
  rfl

/-- A module that is named passes if its own lifetime is in range. -/
theorem check_eq_ok_iff (hcommon : ∀ n, s.defaultSeconds = some n → n.toInt ≤ maxSeconds)
    (hset : s.moduleSeconds.find? moduleName = some n) :
    (s.lifetimeFor moduleName >>= fun _ => .ok ()) = .ok () ↔ n.toInt ≤ maxSeconds := by
  by_cases hlong : maxSeconds < n.toInt
  · rw [lifetimeFor_of_lt hset hlong]
    exact iff_of_false nofun (Int.not_le.2 hlong)
  · have hown : ∀ n', s.moduleSeconds.find? moduleName = some n' → n'.toInt ≤ maxSeconds := by
      intro n' hset'
      rw [hset] at hset'
      cases hset'
      exact Int.not_lt.1 hlong
    rw [lifetimeFor_of_le hcommon hown]
    exact iff_of_true rfl (hown n hset)

/-- Of the names, those after another are greater. -/
theorem lt_of_keys_eq {before after : List String} {other : String}
    (hkeys : s.moduleSeconds.keys = before ++ moduleName :: after) (hmem : other ∈ after) :
    moduleName < other := by
  have hincreasing : s.moduleSeconds.keys.Pairwise (· < ·) :=
    List.pairwise_map.2 s.moduleSeconds.increasing
  rw [hkeys] at hincreasing
  exact List.rel_of_pairwise_cons (List.pairwise_append.1 hincreasing).2.1 hmem

/-- What validation makes of settings: they are in range, or it names what is not. -/
theorem validate_cases (s : Settings) :
    (s.InRange ∧ s.validate = .ok ()) ∨ ∃ e, s.Blames e ∧ s.validate = .error e := by
  by_cases hcommon : ∀ n, s.defaultSeconds = some n → n.toInt ≤ maxSeconds
  · rw [validate_eq_forM hcommon]
    rcases forM_cases (fun moduleName => s.lifetimeFor moduleName >>= fun _ => .ok ())
      s.moduleSeconds.keys with
      ⟨hall, hok⟩ | ⟨before, moduleName, after, e, hkeys, hbefore, hfails, herror⟩
    · refine .inl ⟨⟨hcommon, fun moduleName n hset => ?_⟩, hok⟩
      exact (check_eq_ok_iff hcommon hset).1 (hall moduleName (mem_keys_iff.2 ⟨n, hset⟩))
    · obtain ⟨n, hset⟩ := mem_keys_iff.1 (hkeys ▸ List.mem_append_right _ List.mem_cons_self)
      have hlong : maxSeconds < n.toInt := by
        by_contra hshort
        rw [(check_eq_ok_iff hcommon hset).2 (Int.not_lt.1 hshort)] at hfails
        cases hfails
      rw [lifetimeFor_of_lt hset hlong] at hfails
      obtain rfl := Except.error.inj hfails
      refine .inr ⟨_, .module hcommon hset hlong fun other n' hset' hlong' hne => ?_, herror⟩
      -- The names before this one have passed, so another one comes after it.
      have hother : other ∈ before ++ moduleName :: after := hkeys ▸ mem_keys_iff.2 ⟨n', hset'⟩
      rcases List.mem_append.1 hother with hmem | hmem
      · have hpassed := (check_eq_ok_iff hcommon hset').1 (hbefore other hmem)
        exact absurd hpassed (Int.not_le.2 hlong')
      · rw [Text.encodeString_lt_iff]
        exact lt_of_keys_eq hkeys ((List.mem_cons.1 hmem).resolve_left hne)
  · push Not at hcommon
    obtain ⟨n, hset, hlong⟩ := hcommon
    refine .inr ⟨_, .common hset hlong, ?_⟩
    rw [validate, hset, commonLifetime, lifetimeOf_of_lt _ hlong]
    rfl

/-- Settings pass validation exactly if their lifetimes are in range. -/
theorem validate_eq_ok_iff : s.validate = .ok () ↔ s.InRange := by
  refine ⟨fun hok => ?_, fun hrange => ?_⟩
  · rcases s.validate_cases with ⟨hrange, -⟩ | ⟨e, -, herror⟩
    · exact hrange
    · rw [herror] at hok
      cases hok
  · rcases s.validate_cases with ⟨-, hok⟩ | ⟨e, hblames, -⟩
    · exact hok
    · cases hblames with
      | common hset hlong => exact absurd (hrange.common _ hset) (Int.not_le.2 hlong)
      | module _ hset hlong _ => exact absurd (hrange.modules _ _ hset) (Int.not_le.2 hlong)

/-! ### Guards -/

/-- The seconds of a module are one of the three kinds there are. -/
theorem secondsFor_cases (s : Settings) (moduleName : String) :
    (∃ n, s.moduleSeconds.find? moduleName = some n ∧ 0 < n.toInt
        ∧ s.secondsFor moduleName = n.toInt)
      ∨ (∃ n, s.defaultSeconds = some n ∧ 0 < n.toInt ∧ s.secondsFor moduleName = n.toInt)
      ∨ s.secondsFor moduleName = Lifetime.standardSeconds := by
  unfold secondsFor
  cases hown : (s.moduleSeconds.find? moduleName).filter (0 < ·.toInt) with
  | some n =>
    obtain ⟨hset, hpos⟩ := Option.filter_eq_some_iff.1 hown
    exact .inl ⟨n, hset, by simpa using hpos, rfl⟩
  | none =>
    cases hcommon : s.defaultSeconds.filter (0 < ·.toInt) with
    | some n =>
      obtain ⟨hset, hpos⟩ := Option.filter_eq_some_iff.1 hcommon
      exact .inr (.inl ⟨n, hset, by simpa using hpos, rfl⟩)
    | none => exact .inr (.inr rfl)

/-- The records of a module last for more than nothing. -/
theorem secondsFor_pos (s : Settings) (moduleName : String) : 0 < s.secondsFor moduleName := by
  rcases s.secondsFor_cases moduleName with ⟨n, -, hpos, heq⟩ | ⟨n, -, hpos, heq⟩ | heq
  · rwa [heq]
  · rwa [heq]
  · rw [heq]
    decide

/-- They last for a hundred years at most, if the settings are in range. -/
theorem secondsFor_le (h : s.InRange) (moduleName : String) :
    s.secondsFor moduleName ≤ maxSeconds := by
  rcases s.secondsFor_cases moduleName with ⟨n, hset, -, heq⟩ | ⟨n, hset, -, heq⟩ | heq
  · rw [heq]
    exact h.modules moduleName n hset
  · rw [heq]
    exact h.common n hset
  · rw [heq]
    decide

/-- A guard keeps a lifetime that is more than nothing. -/
theorem lifetime_withLifetime {d : Span} (h : d.isPositive = true) (g : Guard) :
    (g.withLifetime d).lifetime = d := by
  show Lifetime.resolve (some d) = d
  simp only [Lifetime.resolve, h, if_true]

/-- A time of more than no seconds is more than nothing. -/
theorem isPositive_ofSeconds {seconds : Int} (h : 0 < seconds) :
    (Span.ofSeconds seconds).isPositive = true := by
  rw [Span.isPositive_iff, Span.total_ofSeconds]
  exact Int.mul_pos h (by decide)

/-- The guard of a module has the lifetime that the settings give the module. -/
theorem guardFor_of_inRange (h : s.InRange) (moduleName : String) :
    ∃ g, s.guardFor moduleName = .ok g ∧ g.moduleName = moduleName
      ∧ g.lifetime = .ofSeconds (s.secondsFor moduleName) := by
  refine ⟨(Guard.new moduleName).withLifetime (.ofSeconds (s.secondsFor moduleName)), ?_, rfl,
    lifetime_withLifetime (isPositive_ofSeconds (s.secondsFor_pos moduleName)) _⟩
  rw [guardFor, lifetimeFor_of_le h.common (h.modules moduleName)]
  rfl

/-- Each module has a guard exactly if the lifetimes are in range. -/
theorem exists_guardFor_iff : (∀ moduleName, ∃ g, s.guardFor moduleName = .ok g) ↔ s.InRange := by
  refine ⟨fun hall => exists_lifetimeFor_iff.1 fun moduleName => ?_, fun h moduleName => ?_⟩
  · obtain ⟨g, hg⟩ := hall moduleName
    cases hlifetime : s.lifetimeFor moduleName with
    | ok d => exact ⟨d, rfl⟩
    | error e =>
      rw [guardFor, hlifetime] at hg
      cases hg
  · obtain ⟨g, hg, -⟩ := guardFor_of_inRange h moduleName
    exact ⟨g, hg⟩

/-- Until a hundred years before the last instant there is an instant at which a record
can expire. -/
theorem exists_expiry {t latest : Instant} {seconds : Int} (hpos : 0 < seconds)
    (hle : seconds ≤ maxSeconds)
    (hlatest : Instant.last.add? (.ofSeconds (-maxSeconds)) = some latest) (ht : t ≤ latest) :
    ∃ e, t.add? (.ofSeconds seconds) = some e := by
  obtain ⟨htotal, -⟩ := Instant.total_of_add? rfl hlatest
  refine Instant.exists_add? (isPositive_ofSeconds hpos) ?_
  rw [Instant.le_iff] at ht
  rw [Span.total_ofSeconds] at htotal ⊢
  simp only [Instant.total, Instant.last, nanosPerSecond] at htotal ⊢
  omega

/-- Validation looks at as much as it has to. It passes exactly if every module there
could be has a lifetime, and exactly if every module has a guard.

- Then the guard of a module has the seconds of the module for its lifetime, which are
  more than nothing and at most a hundred years. A guard that is given this lifetime takes
  it as it is. Up to a hundred years before the last instant, no call through such a guard
  is refused for the expiry of its record, unless its operation itself fails so.
- Otherwise the refusal names what is out of range: the common lifetime if that is, and
  else the first module that has such a lifetime. -/
theorem lifetimes_in_range (s : Settings) :
    (s.validate = .ok () ↔ ∀ moduleName, ∃ d, s.lifetimeFor moduleName = .ok d)
      ∧ (s.validate = .ok () ↔ ∀ moduleName, ∃ g, s.guardFor moduleName = .ok g)
      ∧ (s.validate = .ok () → ∀ moduleName, ∃ g, s.guardFor moduleName = .ok g
        ∧ g.moduleName = moduleName ∧ s.lifetimeFor moduleName = .ok g.lifetime
        ∧ g.lifetime = .ofSeconds (s.secondsFor moduleName)
        ∧ 0 < s.secondsFor moduleName ∧ s.secondsFor moduleName ≤ maxSeconds
        ∧ (∀ other : Guard, (other.withLifetime g.lifetime).lifetime = g.lifetime)
        ∧ ∃ latest, Instant.last.add? (.ofSeconds (-maxSeconds)) = some latest
          ∧ ∀ {ω ε : Type} (service : Service) (number : Nat) (key requestHash : String)
            (operation : Operation ω ε Bytes) (seconds : Int),
            (service.guard number).lifetime = g.lifetime → service.now ≤ latest →
            (service.callRaw number key requestHash operation).result
              = .error (.refused (.expiryOverflow seconds)) →
            ∃ before trace after,
              operation before = (.error (.refused (.expiryOverflow seconds)), trace, after)
                ∧ (service.callRaw number key requestHash operation).trace = some trace)
      ∧ ∀ e, s.validate = .error e → s.Blames e := by
  refine ⟨validate_eq_ok_iff.trans exists_lifetimeFor_iff.symm,
    validate_eq_ok_iff.trans exists_guardFor_iff.symm, fun hok moduleName => ?_, fun e herror => ?_⟩
  · have hrange := validate_eq_ok_iff.1 hok
    have hpos := s.secondsFor_pos moduleName
    have hle := secondsFor_le hrange moduleName
    obtain ⟨g, hg, hname, hlifetime⟩ := guardFor_of_inRange hrange moduleName
    refine ⟨g, hg, hname, ?_, hlifetime, hpos, hle,
      fun other => lifetime_withLifetime g.lifetime_pos other, _, rfl, ?_⟩
    · rw [hlifetime, lifetimeFor_of_le hrange.common (hrange.modules moduleName)]
    · intro ω ε service number key requestHash operation seconds hsame hnow hresult
      refine Service.of_overflow ?_ hresult
      rw [hsame, hlifetime]
      exact exists_expiry hpos hle rfl hnow
  · rcases s.validate_cases with ⟨-, hok⟩ | ⟨e', hblames, herror'⟩
    · rw [hok] at herror
      cases herror
    · rw [herror'] at herror
      obtain rfl := Except.error.inj herror
      exact hblames

/-- A day for everyone, an hour for one module, and one module that leaves it open. -/
def mixed : Settings where
  defaultSeconds := some 86400
  moduleSeconds := .ofList [("storefront", 0), ("chat", 3600)]

/-- Two modules have lifetimes that are too long. -/
def overlong : Settings where
  moduleSeconds := .ofList [("chat", 3600), ("trail", 9000000000000), ("audit", 3153600001)]

/-- A module that leaves it open has the common lifetime. Of two that are too long, the
first by name is refused, wherever it stands in the document. -/
theorem lifetimes_in_range_mixed :
    (∃ g, mixed.guardFor "storefront" = .ok g ∧ g.lifetime = .ofSeconds 86400)
      ∧ overlong.Blames (.outOfRange "module_ttl_secs.audit" 3153600001) := by
  have hmixed : mixed.validate = .ok () := by rfl
  have hoverlong : overlong.validate = .error (.outOfRange "module_ttl_secs.audit" 3153600001) := by
    rfl
  obtain ⟨-, -, hguards, -⟩ := lifetimes_in_range mixed
  obtain ⟨-, -, -, hblames⟩ := lifetimes_in_range overlong
  obtain ⟨g, hg, -, -, hlifetime, -⟩ := hguards hmixed "storefront"
  exact ⟨⟨g, hg, hlifetime⟩, hblames _ hoverlong⟩

end Settings

end Idempotency
