import Idempotency.Proofs.Journal.Legible
import Idempotency.Proofs.Store.ByKey

/-!
# `Idempotency.Proofs.Journal.Reordered`: the order of lines of different keys

Requests on different keys that change places leave a journal with the same records, but
the lines in its file change places as well. What a replay comes to is decided key by
key: the records of a key have to agree, and the first of those that expire last counts.
So files with the same lines of each key, in the same order (`SameByKey`), replay alike
(`SameByKey.replay_cases`): to the same records, or to a conflict each. The conflicts need
not be on one key, because a replay stops at the first that it meets.

`Twins` ties two journals that hold the same records to two such files. Every request
keeps it, and a compaction brings the two files together. `keys_independent` has what
follows for the journal, and what requests on other keys are to a key of any store.
-/

set_option autoImplicit false

namespace Idempotency

namespace Journal

variable {now : Instant} {rs rs' more more' : List Record} {r : Record} {key other : String}

/-! ### Records in the order of their key -/

/-- The lists have the same records of each key, in the same order. -/
def SameByKey (rs rs' : List Record) : Prop :=
  ∀ key, rs.filter (·.key == key) = rs'.filter (·.key == key)

/-- A list has its own records. -/
theorem SameByKey.refl (rs : List Record) : SameByKey rs rs := fun _ => rfl

/-- Either list can come first. -/
theorem SameByKey.symm (h : SameByKey rs rs') : SameByKey rs' rs := fun key => (h key).symm

/-- Lists that go on with the same records of each key still have the same. -/
theorem SameByKey.append (h : SameByKey rs rs') (hmore : SameByKey more more') :
    SameByKey (rs ++ more) (rs' ++ more') := fun key => by
  rw [List.filter_append, List.filter_append, h key, hmore key]

/-- Records of different keys may change places. -/
theorem sameByKey_swap (hne : key ≠ other) (hrs : ∀ r ∈ rs, r.key = key)
    (hmore : ∀ r ∈ more, r.key = other) : SameByKey (rs ++ more) (more ++ rs) := by
  intro sought
  rw [List.filter_append, List.filter_append]
  -- Of at least one of the keys nothing is sought.
  by_cases hkey : sought = key
  · have hnone : more.filter (·.key == sought) = [] := List.filter_eq_nil_iff.2 fun r hr => by
      rw [beq_iff_eq, hmore r hr, hkey]
      exact hne.symm
    rw [hnone, List.append_nil, List.nil_append]
  · have hnone : rs.filter (·.key == sought) = [] := List.filter_eq_nil_iff.2 fun r hr => by
      rw [beq_iff_eq, hrs r hr]
      exact Ne.symm hkey
    rw [hnone, List.append_nil, List.nil_append]

/-- A record of the one list is in the other. -/
theorem SameByKey.mem (h : SameByKey rs rs') (hr : r ∈ rs) : r ∈ rs' := by
  have hmem : r ∈ rs.filter (·.key == r.key) := List.mem_filter.2 ⟨hr, beq_self_eq_true _⟩
  rw [h r.key] at hmem
  exact (List.mem_filter.1 hmem).1

/-- If the one list agrees, so does the other. -/
theorem SameByKey.consistent (h : SameByKey rs rs') (hconsistent : Consistent now rs) :
    Consistent now rs' := fun a ha b hb => hconsistent a (h.symm.mem ha) b (h.symm.mem hb)

/-- Which record of a key counts is up to the records of that key. -/
theorem stays_filter : Stays now (rs.filter (·.key == r.key)) r ↔ Stays now rs r := by
  constructor
  · rintro ⟨before, after, hsplit, hlive, hbefore, hafter⟩
    obtain ⟨front, rest, rfl, rfl, hrest⟩ := List.filter_eq_append_iff.1 hsplit
    obtain ⟨between, back, rfl, hbetween, -, rfl⟩ := List.filter_eq_cons_iff.1 hrest
    refine ⟨front ++ between, back, by rw [List.append_assoc], hlive, ?_, ?_⟩
    · intro b hb hkey
      rcases List.mem_append.1 hb with hb | hb
      · exact hbefore b (List.mem_filter.2 ⟨hb, beq_iff_eq.2 hkey⟩) hkey
      · exact absurd (beq_iff_eq.2 hkey) (hbetween b hb)
    · intro a ha hkey
      exact hafter a (List.mem_filter.2 ⟨ha, beq_iff_eq.2 hkey⟩) hkey
  · rintro ⟨before, after, rfl, hlive, hbefore, hafter⟩
    have hcons : (r :: after).filter (·.key == r.key) = r :: after.filter (·.key == r.key) :=
      List.filter_cons_of_pos (beq_self_eq_true _)
    refine ⟨before.filter (·.key == r.key), after.filter (·.key == r.key), ?_, hlive, ?_, ?_⟩
    · rw [List.filter_append, hcons]
    · exact fun b hb => hbefore b (List.mem_filter.1 hb).1
    · exact fun a ha => hafter a (List.mem_filter.1 ha).1

/-- The same records count in both lists. -/
theorem SameByKey.stays_iff (h : SameByKey rs rs') : Stays now rs r ↔ Stays now rs' r := by
  rw [← stays_filter, h r.key, stays_filter]

/-- Records are refused for a conflict and for nothing else. -/
theorem Replay.conflict_of_takeAll {s : Replay} {damage : Damage}
    (h : s.takeAll now rs = .error damage) : ∃ key, damage = .conflict key := by
  induction rs generalizing s with
  | nil => cases h
  | cons r rs ih =>
    rw [takeAll] at h
    cases htake : s.take now r with
    | ok next =>
      rw [htake] at h
      exact ih h
    | error first =>
      rw [htake] at h
      cases h
      unfold take at htake
      split at htake
      · cases htake
      · split at htake
        · cases htake
        · split at htake
          · exact ⟨r.key, (Except.error.inj htake).symm⟩
          · split at htake
            · cases htake
            · cases htake

/-- The lines of such records replay alike: to the same index, or to a conflict each. -/
theorem SameByKey.replay_cases (h : SameByKey rs rs') (now : Instant) :
    (∃ s s', replay now (rs.flatMap line) = .ok s ∧ replay now (rs'.flatMap line) = .ok s'
        ∧ s'.index = s.index)
      ∨ ∃ key other, replay now (rs.flatMap line) = .error (.conflict key)
        ∧ replay now (rs'.flatMap line) = .error (.conflict other) := by
  rw [replay_lines, replay_lines]
  have hstart := Replay.holds_start now
  have hnil := consistent_nil now
  cases htake : Replay.start.takeAll now rs with
  | ok s =>
    obtain ⟨hconsistent, hholds⟩ := Replay.consistent_takeAll hstart hnil htake
    have hconsistent' : Consistent now ([] ++ rs') := h.consistent hconsistent
    obtain ⟨s', htake', hholds'⟩ := Replay.holds_takeAll hstart hconsistent'
    refine .inl ⟨s, s', rfl, htake', Index.ext_find? fun key => Option.ext fun r => ?_⟩
    rw [hholds.find?_iff, hholds'.find?_iff]
    exact and_congr_right fun _ => h.stays_iff.symm
  | error damage =>
    obtain ⟨key, rfl⟩ := Replay.conflict_of_takeAll htake
    cases htake' : Replay.start.takeAll now rs' with
    | error damage' =>
      obtain ⟨other, rfl⟩ := Replay.conflict_of_takeAll htake'
      exact .inr ⟨key, other, rfl, rfl⟩
    | ok s' =>
      -- What agrees in one order agrees in the other.
      obtain ⟨hconsistent', -⟩ := Replay.consistent_takeAll hstart hnil htake'
      have hconsistent : Consistent now ([] ++ rs) := h.symm.consistent hconsistent'
      obtain ⟨s, htaken, -⟩ := Replay.holds_takeAll hstart hconsistent
      rw [htaken] at htake
      exact nomatch htake

end Journal

namespace Store

open Journal (SameByKey Gives Refuses line)

variable {path : String} {start now late : Instant} {j k j' k' : Journal}
  {d e d' e' fresh opened : Disk} {events : List Event} {a b request : Request}
  {requests before later : List Request} {rs : List Record} {r : Record} {key : String}

/-! ### Two journals with the same records -/

/-- Two journals hold the same records, and their files have the same lines of each
key. -/
structure Twins (j : Journal) (d : Disk) (k : Journal) (e : Disk) : Prop where
  path : k.path = j.path
  index : k.index = j.index
  lines : ∃ rs rs', SameByKey rs rs' ∧ j.Stands d (rs.flatMap line)
    ∧ k.Stands e (rs'.flatMap line)

/-- A journal is its own twin. -/
theorem twins_self (h : j.Stands d (rs.flatMap line)) : Twins j d j d :=
  ⟨rfl, rfl, rs, rs, .refl rs, h, h⟩

/-- A request gets the same reply from both, and they stay twins. -/
theorem Twins.serve (h : Twins j d k e) (hkept : ¬ request.Reopens)
    (hfault : (serve request (.journal j) d).1.isFault = false)
    (hfault' : (serve request (.journal k) e).1.isFault = false) :
    ∃ reply j' d' k' e', serve request (.journal j) d = (reply, .journal j', d')
      ∧ serve request (.journal k) e = (reply, .journal k', e') ∧ Twins j' d' k' e' := by
  obtain ⟨hreply, hindex⟩ := serve_of_faultless hkept hfault
  obtain ⟨hreply', hindex'⟩ := serve_of_faultless hkept hfault'
  rw [show (Store.journal k).index = (Store.journal j).index from h.index, ← hreply] at hreply'
  rw [show (Store.journal k).index = (Store.journal j).index from h.index, ← hindex] at hindex'
  obtain ⟨rs, rs', hsame, hstands, hstands'⟩ := h.lines
  by_cases hrenews : request.Renews
  · obtain ⟨now, rfl | rfl⟩ := hrenews
    · -- Both files are written anew, from the same records.
      obtain ⟨reply, j', d', hserve, hpath, hlines⟩ := stands_compact hfault
      obtain ⟨reply', k', e', hserve', hpath', hlines'⟩ := stands_compact hfault'
      rw [hserve, hserve'] at hreply' hindex'
      obtain rfl : reply' = reply := hreply'
      rw [h.index] at hlines'
      exact ⟨reply', j', d', k', e', hserve, hserve', hpath'.trans (h.path.trans hpath.symm),
        hindex', _, _, .refl _, hlines, hlines'⟩
    · exact absurd ⟨now, rfl⟩ hkept
  · -- The same lines, if any, are added to both files.
    obtain ⟨reply, j', d', hserve, hpath, hlines, -⟩ := stands_serve hstands hrenews hfault
    obtain ⟨reply', k', e', hserve', hpath', hlines', -⟩ := stands_serve hstands' hrenews hfault'
    rw [hserve, hserve'] at hreply' hindex'
    obtain rfl : reply' = reply := hreply'
    rw [← List.flatMap_append] at hlines hlines'
    exact ⟨reply', j', d', k', e', hserve, hserve', hpath'.trans (h.path.trans hpath.symm),
      hindex', _, _, hsame.append (.refl _), hlines, hlines'⟩

/-- Twins stay twins. -/
theorem Twins.after (h : Twins j d k e) (hkept : ∀ request ∈ requests, ¬ request.Reopens)
    (hfault : Faultless requests (.journal j) d) (hfault' : Faultless requests (.journal k) e) :
    ∃ j' d' k' e', after requests (.journal j) d = (.journal j', d')
      ∧ after requests (.journal k) e = (.journal k', e') ∧ Twins j' d' k' e' := by
  induction requests generalizing j d k e with
  | nil => exact ⟨j, d, k, e, rfl, rfl, h⟩
  | cons request requests ih =>
    obtain ⟨reply, next, disk, next', disk', hserve, hserve', hnext⟩ :=
      h.serve (hkept request List.mem_cons_self) hfault.head hfault'.head
    have hlater := hfault.tail
    have hlater' := hfault'.tail
    rw [hserve] at hlater
    rw [hserve'] at hlater'
    rw [Store.after, hserve, Store.after, hserve']
    exact ih hnext (fun request hmem => hkept request (List.mem_cons_of_mem _ hmem)) hlater
      hlater'

/-- What the file of the one journal comes to, that of the other does. -/
structure Interchangeable (path : String) (one other : Store × Disk) : Prop where
  /-- At any instant, both open with the same records, or both are refused for records
  that conflict. -/
  opens : ∀ late, (∀ fault, (Journal.openAt path late one.2).1 ≠ .error (.io fault)) →
    (∀ fault, (Journal.openAt path late other.2).1 ≠ .error (.io fault)) →
    (∃ ix, Gives path late one.2 ix ∧ Gives path late other.2 ix)
      ∨ ∃ key key', Refuses path late one.2 (.conflict key)
        ∧ Refuses path late other.2 (.conflict key')
  /-- They are compacted to the same bytes. -/
  compacts : ∀ now, Faultless [.compact now] one.1 one.2 →
    Faultless [.compact now] other.1 other.2 →
    (after [.compact now] one.1 one.2).2.contentAt (Path.ofText path).place
      = (after [.compact now] other.1 other.2).2.contentAt (Path.ofText path).place
  /-- So they are once they have been opened. -/
  compactsOpened : ∀ late now j k events events' d e,
    Journal.openAt path late one.2 = (.ok j, events, d) →
    Journal.openAt path late other.2 = (.ok k, events', e) →
    Faultless [.compact now] (.journal j) d → Faultless [.compact now] (.journal k) e →
    (after [.compact now] (.journal j) d).2.contentAt (Path.ofText path).place
      = (after [.compact now] (.journal k) e).2.contentAt (Path.ofText path).place

/-- The files of twins open with the same records, or both are refused for records that
conflict. -/
theorem Twins.opens (h : Twins j d k e) (late : Instant)
    (hreached : ∀ fault, (Journal.openAt j.path late d).1 ≠ .error (.io fault))
    (hreached' : ∀ fault, (Journal.openAt j.path late e).1 ≠ .error (.io fault)) :
    (∃ ix, Gives j.path late d ix ∧ Gives j.path late e ix)
      ∨ ∃ key key', Refuses j.path late d (.conflict key)
        ∧ Refuses j.path late e (.conflict key') := by
  obtain ⟨rs, rs', hsame, hstands, hstands'⟩ := h.lines
  have hfinds := Journal.finds_of_replay rfl hreached
  have hfinds' := Journal.finds_of_replay rfl hreached'
  rw [hstands.contentAt] at hfinds
  rw [← h.path, hstands'.contentAt, h.path] at hfinds'
  rcases hsame.replay_cases late with
    ⟨s, s', hreplay, hreplay', hindex⟩ | ⟨key, key', hreplay, hreplay'⟩
  · rw [hreplay] at hfinds
    rw [hreplay', Except.map, hindex] at hfinds'
    exact .inl ⟨s.index, hfinds, hfinds'⟩
  · rw [hreplay] at hfinds
    rw [hreplay'] at hfinds'
    exact .inr ⟨key, key', hfinds, hfinds'⟩

/-- Journals with the same records are compacted to the same bytes. -/
theorem contentAt_compact_congr (hpath : k.path = j.path) (hindex : k.index = j.index)
    (hfault : Faultless [.compact now] (.journal j) d)
    (hfault' : Faultless [.compact now] (.journal k) e) :
    (after [.compact now] (.journal j) d).2.contentAt (Path.ofText j.path).place
      = (after [.compact now] (.journal k) e).2.contentAt (Path.ofText j.path).place := by
  have hcontent := contentAt_after_compact (by simp) (by simp) hfault
  have hcontent' := contentAt_after_compact (by simp) (by simp) hfault'
  rw [hpath, hindex] at hcontent'
  rw [hcontent, hcontent']
  rfl

/-- Twins open alike, and are compacted to the same bytes, also after they have been
opened again. -/
theorem Twins.interchangeable (h : Twins j d k e) :
    Interchangeable j.path (.journal j, d) (.journal k, e) where
  opens := h.opens
  compacts now := contentAt_compact_congr h.path h.index
  compactsOpened late now j₁ k₁ events events' d₁ e₁ hopen hopen' hfault hfault' := by
    rcases h.opens late (by rw [hopen]; exact fun _ => nofun)
      (by rw [hopen']; exact fun _ => nofun) with ⟨ix, hgives, hgives'⟩ | ⟨_, _, hrefuses, -⟩
    · obtain ⟨_, _, _, hgiven, hpath, hindex, -⟩ := hgives
      obtain ⟨_, _, _, hgiven', hpath', hindex', -⟩ := hgives'
      rw [hopen] at hgiven
      rw [hopen'] at hgiven'
      cases hgiven
      cases hgiven'
      rw [← hpath]
      exact contentAt_compact_congr (hpath'.trans hpath.symm) (hindex'.trans hindex.symm) hfault
        hfault'
    · obtain ⟨_, _, hdamaged⟩ := hrefuses
      rw [hopen] at hdamaged
      cases hdamaged

/-! ### Two requests on different keys -/

/-- A request on a key does not renew the journal. -/
theorem not_renews_of_key? (hkey : request.key? = some key) : ¬ request.Renews := by
  rintro ⟨now, rfl | rfl⟩
  · cases hkey
  · cases hkey

/-- A request on a key does not leave the store. -/
theorem not_reopens_of_key? (hkey : request.key? = some key) : ¬ request.Reopens := by
  rintro ⟨now, rfl⟩
  cases hkey

/-- What a request on a key inserts has that key. -/
theorem key_of_inserted? {reply : Reply} (hkey : request.key? = some key)
    (hr : r ∈ (request.inserted? reply).toList) : r.key = key := by
  rw [Option.mem_toList] at hr
  unfold Request.inserted? at hr
  split at hr
  · cases hr
    cases hkey
    rfl
  · cases hr

/-- What two requests insert is up to the records. -/
theorem inserted_pair {s : Store} (ha : ¬ a.Reopens) (hb : ¬ b.Reopens)
    (hfault : Faultless [a, b] s d) :
    inserted [a, b] s d = (a.inserted? (a.reply s.index)).toList
      ++ (b.inserted? (b.reply (a.leave s.index))).toList := by
  obtain ⟨hreply, hindex⟩ := serve_of_faultless ha hfault.head
  obtain ⟨hreply', -⟩ := serve_of_faultless hb hfault.tail.head
  simp only [inserted, List.append_nil]
  rw [hreply, hreply', hindex]

/-- Two requests on different keys leave twins, one for each order. -/
theorem twins_swap (h : j.Stands d (rs.flatMap line)) (happart : a.Apart b)
    (hfault : Faultless [a, b] (.journal j) d) (hfault' : Faultless [b, a] (.journal j) d) :
    ∃ j' d' k' e', after [a, b] (.journal j) d = (.journal j', d')
      ∧ after [b, a] (.journal j) d = (.journal k', e') ∧ Twins j' d' k' e' := by
  obtain ⟨key, other, ha, hb, hne⟩ := id happart
  have hrenews : ∀ request ∈ [a, b], ¬ request.Renews := by
    simpa using ⟨not_renews_of_key? ha, not_renews_of_key? hb⟩
  have hkept : ∀ request ∈ [a, b], ¬ request.Reopens := by
    simpa using ⟨not_reopens_of_key? ha, not_reopens_of_key? hb⟩
  have hmem : ∀ request, request ∈ [b, a] → request ∈ [a, b] := fun request =>
    (List.Perm.swap a b []).mem_iff.1
  obtain ⟨j', d', hafter, hpath, hstands⟩ := stands_after h hrenews hfault
  obtain ⟨k', e', hafter', hpath', hstands'⟩ :=
    stands_after h (fun request hin => hrenews request (hmem request hin)) hfault'
  -- The records are the same by what the two requests leave in either order.
  have hindex := (run_of_faultless hkept hfault).2
  have hindex' := (run_of_faultless (fun request hin => hkept request (hmem request hin))
    hfault').2
  rw [hafter] at hindex
  rw [hafter'] at hindex'
  -- So are the lines that are added, but for their order.
  have hinserted := inserted_pair (not_reopens_of_key? ha) (not_reopens_of_key? hb) hfault
  have hinserted' := inserted_pair (not_reopens_of_key? hb) (not_reopens_of_key? ha) hfault'
  rw [happart.reply_leave] at hinserted
  rw [happart.symm.reply_leave] at hinserted'
  rw [hinserted, ← List.flatMap_append] at hstands
  rw [hinserted', ← List.flatMap_append] at hstands'
  refine ⟨j', d', k', e', hafter, hafter', hpath'.trans hpath.symm, ?_, _, _, ?_, hstands,
    hstands'⟩
  · exact hindex'.trans ((happart.leave_comm j.index).symm.trans hindex.symm)
  · exact (SameByKey.refl rs).append (Journal.sameByKey_swap hne (fun _ => key_of_inserted? ha)
      fun _ => key_of_inserted? hb)

/-- In a run on the journal of an empty file, two requests on different keys that change
places leave files that can stand for each other. -/
theorem interchangeable_swap (hempty : fresh.contentAt (Path.ofText path).place = [])
    (hopen : Journal.openAt path start fresh = (.ok j, events, opened)) (happart : a.Apart b)
    (hkept : ∀ request ∈ before ++ a :: b :: later, ¬ request.Reopens)
    (hfault : Faultless (before ++ a :: b :: later) (.journal j) opened)
    (hfault' : Faultless (before ++ b :: a :: later) (.journal j) opened) :
    Interchangeable path (after (before ++ a :: b :: later) (.journal j) opened)
      (after (before ++ b :: a :: later) (.journal j) opened) := by
  obtain ⟨hpath, -, hstands⟩ := Journal.of_openAt hopen
  rw [hempty] at hstands
  have hbefore : ∀ request ∈ before, ¬ request.Reopens := fun request hmem =>
    hkept request (List.mem_append_left _ hmem)
  have hlater : ∀ request ∈ later, ¬ request.Reopens := fun request hmem =>
    hkept request (List.mem_append_right _ (List.mem_cons_of_mem _ (List.mem_cons_of_mem _ hmem)))
  -- Up to the two requests it is one run.
  have hlines : j.Stands opened (([] : List Record).flatMap line) := hstands
  have hfirst : Twins j opened j opened := twins_self hlines
  obtain ⟨j₁, d₁, _, _, hafter₁, -, hmiddle⟩ := hfirst.after hbefore hfault.left hfault.left
  obtain ⟨rs, _, -, hlines, -⟩ := hmiddle.lines
  have hpair : Faultless ([a, b] ++ later) _ _ := hfault.right
  have hpair' : Faultless ([b, a] ++ later) _ _ := hfault'.right
  rw [hafter₁] at hpair hpair'
  -- The two requests leave twins, and what comes then keeps them so.
  obtain ⟨j₂, d₂, k₂, e₂, hafter₂, hafter₂', hswapped⟩ :=
    twins_swap hlines happart hpair.left hpair'.left
  have hrest := hpair.right
  have hrest' := hpair'.right
  rw [hafter₂] at hrest
  rw [hafter₂'] at hrest'
  obtain ⟨j', d', k', e', hafter₃, hafter₃', hlast⟩ := hswapped.after hlater hrest hrest'
  have hwhole : after (before ++ a :: b :: later) (.journal j) opened = (.journal j', d') := by
    rw [after_append, hafter₁, ← hafter₃]
    rw [show a :: b :: later = [a, b] ++ later from rfl, after_append, hafter₂]
  have hwhole' : after (before ++ b :: a :: later) (.journal j) opened = (.journal k', e') := by
    rw [after_append, hafter₁, ← hafter₃']
    rw [show b :: a :: later = [b, a] ++ later from rfl, after_append, hafter₂']
  rw [hwhole, hwhole', ← hpath, ← path_after hwhole]
  exact hlast.interchangeable

/-- Keys are independent. Let a store be asked anything but to be left, at any instants,
and let no step on the disk fail.

- The requests on a key are told the same, and at every moment the key holds the same,
  if the requests on other keys are left out.
- Two requests on different keys can change places. Every request is told the same, and
  the records after both and all that comes then are the same.
- If the store is the journal of a file that was not there or was empty, the two orders
  leave files that open at any instant with the same records, unless both are refused for
  records that conflict, and that are compacted to the same bytes. -/
theorem keys_independent :
    (∀ (s : Store) (d e : Disk) (requests : List Request) (key : String),
      (∀ request ∈ requests, ¬ request.Reopens) →
      Faultless requests s d → Faultless (alone key requests) s e →
      repliesOn key (alone key requests) (run (alone key requests) s e)
          = repliesOn key requests (run requests s d)
        ∧ ∀ since, since <+: requests →
          (after (alone key since) s e).1.index.find? key = (after since s d).1.index.find? key)
      ∧ (∀ (s : Store) (d e : Disk) (before later : List Request) (a b : Request), a.Apart b →
        (∀ request ∈ before ++ a :: b :: later, ¬ request.Reopens) →
        Faultless (before ++ a :: b :: later) s d → Faultless (before ++ b :: a :: later) s e →
        ∃ ra rb ia ib ix last,
          run (before ++ a :: b :: later) s d = run before s d ++ (ra, ia) :: (rb, ix) :: last
            ∧ run (before ++ b :: a :: later) s e = run before s d ++ (rb, ib) :: (ra, ix) :: last
            ∧ (after (before ++ a :: b :: later) s d).1.index
              = (after (before ++ b :: a :: later) s e).1.index)
      ∧ ∀ (path : String) (start : Instant) (fresh opened : Disk) (j : Journal)
        (events : List Event) (before later : List Request) (a b : Request),
        fresh.contentAt (Path.ofText path).place = [] →
        Journal.openAt path start fresh = (.ok j, events, opened) → a.Apart b →
        (∀ request ∈ before ++ a :: b :: later, ¬ request.Reopens) →
        Faultless (before ++ a :: b :: later) (.journal j) opened →
        Faultless (before ++ b :: a :: later) (.journal j) opened →
        Interchangeable path (after (before ++ a :: b :: later) (.journal j) opened)
          (after (before ++ b :: a :: later) (.journal j) opened) := by
  refine ⟨?_, ?_, ?_⟩
  · intro s d e requests key hkept hfault hfault'
    exact ⟨(run_alone hkept hfault hfault').1, fun since => find?_alone hkept hfault hfault'⟩
  · intro s d e before later a b happart hkept hfault hfault'
    exact run_swap happart hkept hfault hfault'
  · intro path start fresh opened j events before later a b hempty hopen happart hkept hfault
      hfault'
    exact interchangeable_swap hempty hopen happart hkept hfault hfault'

/-- Two requests, and what is around them: in the end a lookup drops a record, and the key
is used for another request. -/
def amid (a b : Request) : List Request :=
  [.size] ++ a :: b :: [.get "earlier" { seconds := 86402, nanos := 0 }, .put renewed]

/-- Two puts under different keys leave different files, one for each order, and the two
files open with the same records. The last record of the one key is the same without the
put on the other. -/
theorem keys_independent_amid :
    (after (amid (.put Journal.earlier) (.put Journal.later)) (.journal blank)
          (Journal.diskOf "keys.log" [])).2.contentAt (Path.ofText "keys.log").place
        ≠ (after (amid (.put Journal.later) (.put Journal.earlier)) (.journal blank)
          (Journal.diskOf "keys.log" [])).2.contentAt (Path.ofText "keys.log").place
      ∧ (∃ ix, Gives "keys.log" { seconds := 86402, nanos := 0 }
          (after (amid (.put Journal.earlier) (.put Journal.later)) (.journal blank)
            (Journal.diskOf "keys.log" [])).2 ix
        ∧ Gives "keys.log" { seconds := 86402, nanos := 0 }
          (after (amid (.put Journal.later) (.put Journal.earlier)) (.journal blank)
            (Journal.diskOf "keys.log" [])).2 ix)
      ∧ (after (alone "earlier" (amid (.put Journal.earlier) (.put Journal.later)))
          (.journal blank) (Journal.diskOf "keys.log" [])).1.index.find? "earlier"
        = some renewed := by
  have hkept : ∀ request ∈ amid (.put Journal.earlier) (.put Journal.later),
      ¬ request.Reopens := by
    simp [amid, Request.Reopens]
  have happart : (Request.put Journal.earlier).Apart (.put Journal.later) :=
    ⟨"earlier", "later", rfl, rfl, by decide⟩
  have hopens : (Journal.openAt "keys.log" { seconds := 86402, nanos := 0 }
      (after (amid (.put Journal.earlier) (.put Journal.later)) (.journal blank)
        (Journal.diskOf "keys.log" [])).2).1.isOk = true := by
    decide +kernel
  have hopens' : (Journal.openAt "keys.log" { seconds := 86402, nanos := 0 }
      (after (amid (.put Journal.later) (.put Journal.earlier)) (.journal blank)
        (Journal.diskOf "keys.log" [])).2).1.isOk = true := by
    decide +kernel
  obtain ⟨halone, -, hswap⟩ := keys_independent
  refine ⟨by decide +kernel, ?_, ?_⟩
  · have hreached : ∀ {outcome : Except Journal.OpenError Journal} {fault : Fault},
        outcome.isOk = true → outcome ≠ .error (.io fault) := by
      rintro _ fault hok rfl
      cases hok
    have hlike := hswap _ _ _ _ _ _ _ _ _ _ (by decide +kernel) openAt_blank happart hkept
      (faultless_blank _) (faultless_blank _)
    rcases hlike.opens _ (fun _ => hreached hopens) (fun _ => hreached hopens') with
      halike | ⟨_, _, ⟨_, _, hdamaged⟩, -⟩
    · exact halike
    · cases hopens.symm.trans (congrArg (·.1.isOk) hdamaged)
  · have hheld := (halone _ _ _ _ "earlier" hkept (faultless_blank _)
      (faultless_blank _)).2 _ (List.prefix_refl _)
    exact hheld.trans (by decide +kernel)

end Store

end Idempotency
