import Idempotency.Proofs.Journal.Growth
import Idempotency.Proofs.Store.Lifecycle

/-!
# `Idempotency.Proofs.Store.ByKey`: what a store does at one key

As long as no step on the disk fails, a store that is not left replies by its records
alone, and so do its records change (`Request.reply`, `Request.leave`): a journal has the
same replies as a store in memory, whatever its file holds (`serve_of_faultless`).

A lookup or a put is about one key (`Request.key?`). What it is told, and what the key
holds after it, depends on what the key holds before it (`reply_congr`, `leave_congr`),
and it leaves every other key alone (`find?_leave_of_ne`). So a run can be read key by
key: requests on other keys can be left out (`run_alone`), and two requests on different
keys can change places (`run_swap`).
-/

set_option autoImplicit false

namespace Idempotency.Store

variable {s : Store} {d e : Disk} {ix ix' : Index} {request a b : Request}
  {requests : List Request} {key other : String}

/-! ### Serving by the records alone -/

/-- What a store with these records replies. -/
def Request.reply (ix : Index) : Request → Reply
  | .get key now => .found (ix.lookup key now).found
  | .put r =>
    match ix.find? r.key with
    | none => .placed (.ok .inserted)
    | some held =>
      .placed (if held.requestHash = r.requestHash then .ok .duplicate
        else .error (.conflict r.key))
  | .purge now => .count (ix.expiredCount now)
  | .size => .count ix.size
  | .compact now => .compacted (.ok (ix.expiredCount now))
  | .reopen _ => .reopened (.ok ())

/-- The records that the request leaves. -/
def Request.leave (ix : Index) : Request → Index
  | .get key now => (ix.lookup key now).index
  | .put r =>
    match ix.find? r.key with
    | none => ix.store r
    | some _ => ix
  | .purge now => ix.live now
  | .size => ix
  | .compact now => ix.live now
  | .reopen now => ix.live now

/-- What requests come to by the records alone, one after the other. -/
def sights : List Request → Index → List (Reply × Index)
  | [], _ => []
  | request :: requests, ix =>
    (request.reply ix, request.leave ix) :: sights requests (request.leave ix)

/-- The records that requests leave. -/
def leaveAll (requests : List Request) (ix : Index) : Index := requests.foldl Request.leave ix

/-- A put under a key that holds nothing inserts its record. -/
theorem Request.put_of_free {r : Record} (hfree : ix.find? r.key = none) :
    (Request.put r).reply ix = .placed (.ok .inserted)
      ∧ (Request.put r).leave ix = ix.store r := by
  simp only [Request.reply, Request.leave, hfree, and_self]

/-- A put under a key that holds a record changes nothing. It is a duplicate if the
requests are the same, and a conflict if not. -/
theorem Request.put_of_held {r held : Record} (hheld : ix.find? r.key = some held) :
    (Request.put r).reply ix = .placed (if held.requestHash = r.requestHash then .ok .duplicate
        else .error (.conflict r.key))
      ∧ (Request.put r).leave ix = ix := by
  simp only [Request.reply, Request.leave, hheld, and_self]

/-- A put under a key that is taken touches nothing. -/
theorem serve_put_of_held {r held : Record} (hheld : s.index.find? r.key = some held) (d : Disk) :
    serve (.put r) s d = (.placed (if held.requestHash = r.requestHash then .ok .duplicate
      else .error (.conflict r.key)), s, d) := by
  cases s with
  | memory ix =>
    have hput := Index.put_of_held hheld
    simp only [serve, Store.put]
    by_cases hhash : held.requestHash = r.requestHash
    · rw [if_pos hhash] at hput
      rw [if_pos hhash, show ix.put r = _ from hput]
      rfl
    · rw [if_neg hhash] at hput
      rw [if_neg hhash, show ix.put r = _ from hput]
  | journal j => simp only [serve, Store.put, Journal.put_of_held hheld]

/-- A put under a free key inserts its record, unless it fails. -/
theorem serve_put_of_free {r : Record} (hfree : s.index.find? r.key = none)
    (hfault : (serve (.put r) s d).1.isFault = false) :
    (serve (.put r) s d).1 = .placed (.ok .inserted)
      ∧ (serve (.put r) s d).2.1.index = s.index.store r := by
  cases s with
  | memory ix =>
    have hput : ix.put r = .ok (.inserted, ix.store r) := Index.put_of_free hfree
    simp only [serve, Store.put, hput]
    exact ⟨trivial, rfl⟩
  | journal j =>
    have hjudge : j.index.judge r = .ok none := Index.judge_eq_none_iff.2 hfree
    have hindex := j.index_append r d
    cases happend : j.append r d with
    | mk fault rest =>
      obtain ⟨j', d'⟩ := rest
      rw [happend] at hindex
      simp only [serve, Store.put, Journal.put, hjudge, happend] at hfault ⊢
      cases fault with
      | some fault => cases hfault
      | none => exact ⟨rfl, congrArg (Index.store · r) hindex⟩

/-- A put that does not fail goes by the records alone. -/
theorem put_of_faultless {r : Record} (hfault : (serve (.put r) s d).1.isFault = false) :
    (serve (.put r) s d).1 = (Request.put r).reply s.index
      ∧ (serve (.put r) s d).2.1.index = (Request.put r).leave s.index := by
  cases hheld : s.index.find? r.key with
  | none =>
    rw [(Request.put_of_free hheld).1, (Request.put_of_free hheld).2]
    exact serve_put_of_free hheld hfault
  | some held =>
    rw [(Request.put_of_held hheld).1, (Request.put_of_held hheld).2, serve_put_of_held hheld]
    exact ⟨rfl, rfl⟩

/-- Unless a step on the disk fails, the store replies by its records alone, and so do
they change. -/
theorem serve_of_faultless (hkept : ¬ request.Reopens)
    (hfault : (serve request s d).1.isFault = false) :
    (serve request s d).1 = request.reply s.index
      ∧ (serve request s d).2.1.index = request.leave s.index := by
  cases request with
  | get key now => exact ⟨rfl, index_withIndex s _⟩
  | purge now => exact ⟨rfl, index_withIndex s _⟩
  | size => exact ⟨rfl, rfl⟩
  | put r => exact put_of_faultless hfault
  | compact now =>
    cases s with
    | memory ix => exact ⟨rfl, rfl⟩
    | journal j =>
      cases hcompact : j.compact now d with
      | mk outcome rest =>
        obtain ⟨j', events, d'⟩ := rest
        simp only [serve, hcompact] at hfault ⊢
        cases outcome with
        | error fault => cases hfault
        | ok dropped =>
          obtain ⟨rfl, -, hindex, -⟩ := Journal.compact_ok hcompact
          exact ⟨rfl, hindex⟩
  | reopen now => exact absurd ⟨now, rfl⟩ hkept

/-- Any run in which the journal is not left and no step on the disk fails goes by the
records alone, on either store. -/
theorem run_of_faultless (hkept : ∀ request ∈ requests, ¬ request.Reopens)
    (hfault : Faultless requests s d) :
    run requests s d = sights requests s.index
      ∧ (after requests s d).1.index = leaveAll requests s.index := by
  induction requests generalizing s d with
  | nil => exact ⟨rfl, rfl⟩
  | cons request requests ih =>
    obtain ⟨hreply, hindex⟩ := serve_of_faultless (hkept request List.mem_cons_self) hfault.head
    obtain ⟨hrun, hafter⟩ := ih (fun later hlater => hkept later (List.mem_cons_of_mem _ hlater))
      hfault.tail
    refine ⟨?_, ?_⟩
    · rw [run, sights, ← hreply, ← hindex]
      exact congrArg (_ :: ·) hrun
    · rw [after, leaveAll, List.foldl_cons, ← hindex]
      exact hafter

/-- Requests that follow others go by the records that those leave. -/
theorem sights_append (first later : List Request) (ix : Index) :
    sights (first ++ later) ix = sights first ix ++ sights later (leaveAll first ix) := by
  induction first generalizing ix with
  | nil => rfl
  | cons request first ih => exact congrArg (_ :: ·) (ih _)

/-! ### One key -/

/-- The key that a request is about, if it is about one. -/
def Request.key? : Request → Option String
  | .get key _ => some key
  | .put r => some r.key
  | _ => none

/-- Whether the request is about the key, or about no key more than about others. -/
def Request.concerns (request : Request) (key : String) : Bool := request.key?.all (· == key)

/-- The requests without those on other keys. -/
def alone (key : String) (requests : List Request) : List Request :=
  requests.filter (·.concerns key)

/-- What the requests on a key are told, in their order. -/
def repliesOn (key : String) (requests : List Request) (seen : List (Reply × Index)) :
    List Reply :=
  ((requests.zip seen).filter fun turn => turn.1.key? == some key).map (·.2.1)

/-- A request about a key concerns it. -/
theorem concerns_of_key? (h : request.key? = some key) : request.concerns key = true := by
  simp [Request.concerns, h]

/-- A request about the key adds its reply. -/
theorem repliesOn_cons_self (hkey : request.key? = some key) (turn : Reply × Index)
    (seen : List (Reply × Index)) :
    repliesOn key (request :: requests) (turn :: seen)
      = turn.1 :: repliesOn key requests seen := by
  simp [repliesOn, hkey]

/-- A request about something else adds none. -/
theorem repliesOn_cons_other (hkey : request.key? ≠ some key) (turn : Reply × Index)
    (seen : List (Reply × Index)) :
    repliesOn key (request :: requests) (turn :: seen) = repliesOn key requests seen := by
  simp [repliesOn, hkey]

/-- A request that does not concern a key is about another one. -/
theorem exists_other (h : ¬ request.concerns key = true) :
    ∃ other, request.key? = some other ∧ key ≠ other := by
  cases hkey : request.key? with
  | none => exact absurd (by simp [Request.concerns, hkey]) h
  | some other =>
    refine ⟨other, rfl, ?_⟩
    rintro rfl
    exact h (concerns_of_key? hkey)

/-- A request on another key leaves what the key holds. -/
theorem find?_leave_of_ne (hother : request.key? = some other) (hne : key ≠ other) (ix : Index) :
    (request.leave ix).find? key = ix.find? key := by
  cases request with
  | get k now =>
    cases hother
    rw [Request.leave, Index.find?_lookup, if_neg hne]
  | put r =>
    cases hother
    rw [Request.leave]
    split
    · rw [Index.find?_store, if_neg hne]
    · rfl
  | purge now => exact nomatch hother
  | size => exact nomatch hother
  | compact now => exact nomatch hother
  | reopen now => exact nomatch hother

/-- What a request on a key is told depends on what the key holds. -/
theorem reply_congr (hkey : request.key? = some key) (hsame : ix.find? key = ix'.find? key) :
    request.reply ix = request.reply ix' := by
  cases request with
  | get k now =>
    cases hkey
    rw [Request.reply, Request.reply, Index.found_lookup, Index.found_lookup, hsame]
  | put r =>
    cases hkey
    rw [Request.reply, Request.reply, hsame]
  | purge now => exact nomatch hkey
  | size => exact nomatch hkey
  | compact now => exact nomatch hkey
  | reopen now => exact nomatch hkey

/-- What a key holds after a request that concerns it depends on what it holds before. -/
theorem leave_congr (hconcerns : request.concerns key = true)
    (hsame : ix.find? key = ix'.find? key) :
    (request.leave ix).find? key = (request.leave ix').find? key := by
  have hlive : ∀ now, (ix.live now).find? key = (ix'.live now).find? key := fun now => by
    rw [Index.find?_live, Index.find?_live, hsame]
  cases request with
  | get k now =>
    obtain rfl : k = key := by simpa [Request.concerns, Request.key?] using hconcerns
    rw [Request.leave, Request.leave, Index.find?_lookup, Index.find?_lookup, hsame]
  | put r =>
    obtain rfl : r.key = key := by simpa [Request.concerns, Request.key?] using hconcerns
    rw [Request.leave, Request.leave, ← hsame]
    cases ix.find? r.key with
    | none => simp
    | some held => exact hsame
  | purge now => exact hlive now
  | size => exact hsame
  | compact now => exact hlive now
  | reopen now => exact hlive now

/-- By the records alone, the requests on a key are told the same without those on other
keys, and leave the key the same. -/
theorem sights_alone (hsame : ix.find? key = ix'.find? key) :
    repliesOn key (alone key requests) (sights (alone key requests) ix')
        = repliesOn key requests (sights requests ix)
      ∧ (leaveAll (alone key requests) ix').find? key = (leaveAll requests ix).find? key := by
  induction requests generalizing ix ix' with
  | nil => exact ⟨rfl, hsame.symm⟩
  | cons request requests ih =>
    by_cases hconcerns : request.concerns key = true
    · -- The request is in both runs.
      obtain ⟨hreplies, hheld⟩ := ih (leave_congr hconcerns hsame)
      have hcons : alone key (request :: requests) = request :: alone key requests :=
        List.filter_cons_of_pos hconcerns
      rw [hcons]
      refine ⟨?_, hheld⟩
      rw [sights, sights]
      by_cases hkey : request.key? = some key
      · rw [repliesOn_cons_self hkey, repliesOn_cons_self hkey, hreplies, reply_congr hkey hsame]
      · rw [repliesOn_cons_other hkey, repliesOn_cons_other hkey, hreplies]
    · -- The request is about another key, which it alone changes.
      obtain ⟨other, hother, hne⟩ := exists_other hconcerns
      have hkey : request.key? ≠ some key := fun hkey =>
        hne (Option.some.inj (hkey.symm.trans hother))
      obtain ⟨hreplies, hheld⟩ := ih ((find?_leave_of_ne hother hne ix).trans hsame)
      have hcons : alone key (request :: requests) = alone key requests :=
        List.filter_cons_of_neg hconcerns
      rw [hcons]
      refine ⟨?_, hheld⟩
      rw [hreplies, sights, repliesOn_cons_other hkey]

/-- The requests on a key are told the same without those on other keys, and leave the
key the same, if no step on the disk fails in either run. -/
theorem run_alone (hkept : ∀ request ∈ requests, ¬ request.Reopens)
    (hfault : Faultless requests s d) (hfault' : Faultless (alone key requests) s e) :
    repliesOn key (alone key requests) (run (alone key requests) s e)
        = repliesOn key requests (run requests s d)
      ∧ (after (alone key requests) s e).1.index.find? key
        = (after requests s d).1.index.find? key := by
  have hkept' : ∀ request ∈ alone key requests, ¬ request.Reopens := fun request hmem =>
    hkept request (List.mem_filter.1 hmem).1
  obtain ⟨hrun, hafter⟩ := run_of_faultless hkept hfault
  obtain ⟨hrun', hafter'⟩ := run_of_faultless hkept' hfault'
  rw [hrun, hrun', hafter, hafter']
  exact sights_alone rfl

/-- That is so at every moment of the run. -/
theorem find?_alone (hkept : ∀ request ∈ requests, ¬ request.Reopens)
    (hfault : Faultless requests s d) (hfault' : Faultless (alone key requests) s e)
    {since : List Request} (hsince : since <+: requests) :
    (after (alone key since) s e).1.index.find? key = (after since s d).1.index.find? key := by
  obtain ⟨rest, rfl⟩ := hsince
  rw [alone, List.filter_append] at hfault'
  exact (run_alone (fun request hmem => hkept request (List.mem_append_left _ hmem)) hfault.left
    hfault'.left).2

/-! ### Two requests on different keys -/

/-- The requests are about different keys. -/
def Request.Apart (a b : Request) : Prop :=
  ∃ k l, a.key? = some k ∧ b.key? = some l ∧ k ≠ l

/-- Being about different keys goes both ways. -/
theorem Request.Apart.symm (h : a.Apart b) : b.Apart a := by
  obtain ⟨k, l, ha, hb, hne⟩ := h
  exact ⟨l, k, hb, ha, hne.symm⟩

/-- After the other request, a request is told the same. -/
theorem Request.Apart.reply_leave (h : a.Apart b) (ix : Index) :
    b.reply (a.leave ix) = b.reply ix := by
  obtain ⟨k, l, ha, hb, hne⟩ := h
  exact reply_congr hb (find?_leave_of_ne ha hne.symm ix)

/-- The two requests leave the same records in either order. -/
theorem Request.Apart.leave_comm (h : a.Apart b) (ix : Index) :
    b.leave (a.leave ix) = a.leave (b.leave ix) := by
  obtain ⟨k, l, ha, hb, hne⟩ := h
  refine Index.ext_find? fun key => ?_
  -- At its own key, each request comes to the same before the other and after it.
  by_cases hk : key = k
  · subst hk
    rw [find?_leave_of_ne hb hne]
    exact (leave_congr (concerns_of_key? ha) (find?_leave_of_ne hb hne ix)).symm
  · rw [find?_leave_of_ne ha hk]
    by_cases hl : key = l
    · subst hl
      exact leave_congr (concerns_of_key? hb) (find?_leave_of_ne ha hk ix)
    · rw [find?_leave_of_ne hb hl, find?_leave_of_ne ha hk, find?_leave_of_ne hb hl]

/-- Where two requests on different keys change places, so do their replies, and the
records after both, and all that comes then, are the same. -/
theorem run_swap {before later : List Request} (happart : a.Apart b)
    (hkept : ∀ request ∈ before ++ a :: b :: later, ¬ request.Reopens)
    (hfault : Faultless (before ++ a :: b :: later) s d)
    (hfault' : Faultless (before ++ b :: a :: later) s e) :
    ∃ ra rb ia ib ix last,
      run (before ++ a :: b :: later) s d = run before s d ++ (ra, ia) :: (rb, ix) :: last
        ∧ run (before ++ b :: a :: later) s e = run before s d ++ (rb, ib) :: (ra, ix) :: last
        ∧ (after (before ++ a :: b :: later) s d).1.index
          = (after (before ++ b :: a :: later) s e).1.index := by
  have hkept' : ∀ request ∈ before ++ b :: a :: later, ¬ request.Reopens := fun request hmem =>
    hkept request (((List.Perm.swap a b later).append_left before).mem_iff.1 hmem)
  obtain ⟨hrun, hafter⟩ := run_of_faultless hkept hfault
  obtain ⟨hrun', hafter'⟩ := run_of_faultless hkept' hfault'
  obtain ⟨hbefore, -⟩ := run_of_faultless
    (fun request hmem => hkept request (List.mem_append_left _ hmem)) hfault.left
  have hcomm := happart.leave_comm (leaveAll before s.index)
  rw [hrun, hrun', hbefore, hafter, hafter', sights_append, sights_append]
  simp only [sights, happart.reply_leave, happart.symm.reply_leave, leaveAll,
    List.foldl_append, List.foldl_cons] at hcomm ⊢
  rw [hcomm]
  exact ⟨_, _, _, _, _, _, rfl, rfl, rfl⟩

end Idempotency.Store
