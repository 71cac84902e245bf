import Idempotency.Proofs.Journal.Canonical
import Idempotency.Proofs.Journal.Failed
import Idempotency.Proofs.Store.Putting
import Idempotency.Proofs.Store.Requests

/-!
# `Idempotency.Proofs.Store.Lifecycle`: a record from its put to its end

A record comes into a store in one way and leaves it in one way. It comes by a put that
is told that it has inserted it, under a key that was free; and it goes by a request
that drops it (`Request.Drops`): a lookup of its key, a sweep or a compaction, at an
instant after the record has expired. In between it stays as it is. `records_stay` says
so for both kinds of stores.

Nothing is assumed of the instants, which may go back, or of the disk. A store is asked
on a disk that is given with each request (`Ask`), so that others may have changed it in
the meantime, and steps on it may fail. A step that fails keeps a put from storing its
record, and does not keep a compaction from dropping what has expired.

`find?_served_cases` is the step: what one request can do to what a key holds. The two
halves of the statement on runs are inductions on it.
-/

set_option autoImplicit false

namespace Idempotency

/-- A record that has expired is dropped, and any other stays. -/
theorem Index.filter_live_cases (held : Option Record) (now : Instant) :
    (held.filter fun r => !r.isExpiredAt now) = held
      ∨ ∃ r, held = some r ∧ r.expiresAt < now
        ∧ (held.filter fun r => !r.isExpiredAt now) = none := by
  cases held with
  | none => exact .inl rfl
  | some r =>
    by_cases hexpired : r.isExpiredAt now = true
    · exact .inr ⟨r, rfl, Record.isExpiredAt_iff.1 hexpired, by simp [hexpired]⟩
    · exact .inl (by simp [hexpired])

/-- Of one key there is one record. -/
theorem Index.nodup_keys (ix : Index) : (ix.toList.map Record.key).Nodup := by
  refine List.pairwise_map.2 ((Journal.pairwise_toList ix).imp fun {a b} hlt hkey => ?_)
  rw [Journal.Precedes, hkey] at hlt
  exact List.lt_irrefl _ hlt

/-- What has expired is gone from the index, whether the compaction goes through or
not. -/
theorem Journal.index_compact (j : Journal) (now : Instant) (d : Disk) :
    (j.compact now d).2.1.index = j.index.live now := by
  rcases compact_cases j now d with
    ⟨fault, d', hbreaks⟩ | ⟨dropped, j', events, synced, d', hcompact, -⟩
  · rw [compact_of_breaksOff hbreaks]
  · obtain ⟨-, -, hindex, -⟩ := compact_ok hcompact
    rw [hcompact]
    exact hindex

namespace Store

/-! ### Asking -/

/-- A request, and the disk on which it is served. -/
structure Ask where
  request : Request
  disk : Disk

variable {s : Store} {asks : List Ask} {ask : Ask} {r : Record}

/-- What the store replies. -/
def reply (s : Store) (ask : Ask) : Reply := (serve ask.request s ask.disk).1

/-- The store after its reply. -/
def served (s : Store) (ask : Ask) : Store := (serve ask.request s ask.disk).2.1

/-- The store after its replies, one after the other. -/
def servedAll (s : Store) (asks : List Ask) : Store := asks.foldl served s

/-- The store is left, and opened again from its file. -/
def Request.Reopens (request : Request) : Prop := ∃ now, request = .reopen now

/-- The request drops the record: it comes to the record after that has expired. -/
def Request.Drops (r : Record) : Request → Prop
  | .get key now => key = r.key ∧ r.expiresAt < now
  | .purge now => r.expiresAt < now
  | .compact now => r.expiresAt < now
  | _ => False

/-- The store holds the record under its key, at first and after every reply. -/
def Keeps (s : Store) (asks : List Ask) (r : Record) : Prop :=
  ∀ upto, upto <+: asks → (s.servedAll upto).index.find? r.key = some r

/-- A record that the store holds is held as long as nothing is asked. -/
theorem keeps_nil (h : s.index.find? r.key = some r) : s.Keeps [] r := by
  intro upto hupto
  rw [List.prefix_nil.1 hupto]
  exact h

/-- A record is kept through a request, and whatever comes after, if it is held before
and kept from then on. -/
theorem keeps_cons (h : s.index.find? r.key = some r) (hlater : (s.served ask).Keeps asks r) :
    s.Keeps (ask :: asks) r := by
  intro upto hupto
  rcases List.prefix_cons_iff.1 hupto with rfl | ⟨rest, rfl, hrest⟩
  · exact h
  · exact hlater rest hrest

/-! ### One request -/

/-- A purge and a compaction leave the records that have not expired, whatever becomes
of the steps on the disk. -/
theorem index_served_live {now : Instant}
    (h : ask.request = .purge now ∨ ask.request = .compact now) :
    (s.served ask).index = s.index.live now := by
  obtain ⟨request, d⟩ := ask
  rcases h with rfl | rfl
  · exact index_withIndex s _
  · cases s with
    | memory ix => rfl
    | journal j => exact j.index_compact now d

/-- A lookup leaves what it leaves of the index. -/
theorem index_served_get (s : Store) (key : String) (now : Instant) (d : Disk) :
    (s.served ⟨.get key now, d⟩).index = (s.index.lookup key now).index := index_withIndex s _

/-- What a request can do to what a key holds: nothing, or drop the record, or insert
one. -/
theorem find?_served_cases (hkept : ¬ ask.request.Reopens) (s : Store) (key : String) :
    (s.served ask).index.find? key = s.index.find? key
      ∨ (∃ r, s.index.find? key = some r ∧ ask.request.Drops r
        ∧ (s.served ask).index.find? key = none)
      ∨ ∃ r, ask.request = .put r ∧ r.key = key ∧ s.reply ask = .placed (.ok .inserted)
        ∧ s.index.find? key = none ∧ (s.served ask).index.find? key = some r := by
  obtain ⟨request, d⟩ := ask
  -- What has expired under the key goes, and the request is one that may drop it.
  have hswept : ∀ now, (s.served ⟨request, d⟩).index.find? key
        = ((s.index.find? key).filter fun r => !r.isExpiredAt now) →
      (∀ r, s.index.find? key = some r → r.expiresAt < now → request.Drops r) →
      (s.served ⟨request, d⟩).index.find? key = s.index.find? key
        ∨ ∃ r, s.index.find? key = some r ∧ request.Drops r
          ∧ (s.served ⟨request, d⟩).index.find? key = none := by
    intro now hfind hdrops
    rw [hfind]
    rcases Index.filter_live_cases (s.index.find? key) now with hsame | ⟨r, hr, hlt, hnone⟩
    · exact .inl hsame
    · exact .inr ⟨r, hr, hdrops r hr hlt, hnone⟩
  cases request with
  | get other now =>
    by_cases hkey : key = other
    · subst hkey
      refine (hswept now ?_ fun r hr hlt => ⟨(Index.key_of_find? hr).symm, hlt⟩).imp_right .inl
      rw [index_served_get, Index.find?_lookup, if_pos rfl]
    · left
      rw [index_served_get, Index.find?_lookup, if_neg hkey]
  | put r =>
    rcases s.takes_put r d with ⟨hinserted, hfree, hindex⟩ | ⟨-, hindex⟩
    · have hserved : (s.served ⟨.put r, d⟩).index = s.index.store r := hindex
      rw [hserved, Index.find?_store]
      by_cases hkey : key = r.key
      · subst hkey
        exact .inr (.inr ⟨r, rfl, rfl, congrArg Reply.placed hinserted, hfree, if_pos rfl⟩)
      · exact .inl (if_neg hkey)
    · exact .inl (congrArg (Index.find? · key) hindex)
  | purge now =>
    refine (hswept now ?_ fun r _ hlt => hlt).imp_right .inl
    rw [index_served_live (.inl rfl), Index.find?_live]
  | size => exact .inl rfl
  | compact now =>
    refine (hswept now ?_ fun r _ hlt => hlt).imp_right .inl
    rw [index_served_live (.inr rfl), Index.find?_live]
  | reopen now => exact absurd ⟨now, rfl⟩ hkept

/-! ### Runs -/

/-- A record stays until a request drops it. -/
theorem keeps_or_dropped (hkept : ∀ ask ∈ asks, ¬ ask.request.Reopens)
    (h : s.index.find? r.key = some r) :
    s.Keeps asks r ∨ ∃ before ask rest, asks = before ++ ask :: rest ∧ s.Keeps before r
      ∧ ask.request.Drops r ∧ (s.servedAll (before ++ [ask])).index.find? r.key = none := by
  induction asks generalizing s with
  | nil => exact .inl (keeps_nil h)
  | cons ask asks ih =>
    rcases find?_served_cases (hkept ask List.mem_cons_self) s r.key with
      hsame | ⟨held, hheld, hdrops, hnone⟩ | ⟨other, -, -, -, hfree, -⟩
    · rcases ih (fun later hlater => hkept later (List.mem_cons_of_mem _ hlater))
        (hsame.trans h) with hkeeps | ⟨before, last, rest, rfl, hkeeps, hdrops, hnone⟩
      · exact .inl (keeps_cons h hkeeps)
      · exact .inr ⟨ask :: before, last, rest, rfl, keeps_cons h hkeeps, hdrops, hnone⟩
    · rw [h] at hheld
      cases hheld
      exact .inr ⟨[], ask, asks, rfl, keeps_nil h, hdrops, hnone⟩
    · rw [h] at hfree
      exact nomatch hfree

/-- A record that is there has been there all the time, or from the put on that has
inserted it. -/
theorem keeps_or_inserted (hkept : ∀ ask ∈ asks, ¬ ask.request.Reopens)
    (h : (s.servedAll asks).index.find? r.key = some r) :
    s.Keeps asks r ∨ ∃ before d rest, asks = before ++ ⟨.put r, d⟩ :: rest
      ∧ (s.servedAll before).index.find? r.key = none
      ∧ (s.servedAll before).reply ⟨.put r, d⟩ = .placed (.ok .inserted)
      ∧ ((s.servedAll before).served ⟨.put r, d⟩).Keeps rest r := by
  induction asks generalizing s with
  | nil => exact .inl (keeps_nil h)
  | cons ask asks ih =>
    rcases ih (fun later hlater => hkept later (List.mem_cons_of_mem _ hlater)) h with
      hkeeps | ⟨before, d, rest, rfl, hfree, hreply, hkeeps⟩
    · -- The record is there after the first request; was it so before?
      have hfirst : (s.served ask).index.find? r.key = some r := hkeeps [] (List.nil_prefix)
      rcases find?_served_cases (hkept ask List.mem_cons_self) s r.key with
        hsame | ⟨-, -, -, hnone⟩ | ⟨other, hput, -, hreply, hfree, hstored⟩
      · exact .inl (keeps_cons (hsame.symm.trans hfirst) hkeeps)
      · rw [hnone] at hfirst
        exact nomatch hfirst
      · rw [hfirst] at hstored
        cases hstored
        obtain ⟨request, d⟩ := ask
        cases hput
        exact .inr ⟨[], d, asks, rfl, hfree, hreply, hkeeps⟩
    · exact .inr ⟨ask :: before, d, rest, rfl, hfree, hreply, hkeeps⟩

/-- Records are not changed. Let a store, in memory or with a journal, hold what it may,
and let it be asked anything but to be left, at any instants and on any disks.

- It holds one record of a key, under that key.
- A record that it holds stays as it is until a request that comes after the record has
  expired drops it: a lookup of its key, a sweep or a compaction.
- A record that it holds in the end has been there all the time, or from the put on
  that has inserted it, under a key that was free.
- A put is told that it has inserted its record exactly if the key was free and holds
  the record now.
- A lookup finds the record under the key up to the instant at which it expires, and
  nothing after that.
- A sweep drops the records that have expired, and gives their number. -/
theorem records_stay (hkept : ∀ ask ∈ asks, ¬ ask.request.Reopens) (s : Store) :
    ((s.index.toList.map Record.key).Nodup
        ∧ ∀ r, r ∈ s.index.toList ↔ s.index.find? r.key = some r)
      ∧ (∀ r, s.index.find? r.key = some r → s.Keeps asks r
        ∨ ∃ before ask rest, asks = before ++ ask :: rest ∧ s.Keeps before r
          ∧ ask.request.Drops r ∧ (s.servedAll (before ++ [ask])).index.find? r.key = none)
      ∧ (∀ r, (s.servedAll asks).index.find? r.key = some r → s.Keeps asks r
        ∨ ∃ before d rest, asks = before ++ ⟨.put r, d⟩ :: rest
          ∧ (s.servedAll before).index.find? r.key = none
          ∧ (s.servedAll before).reply ⟨.put r, d⟩ = .placed (.ok .inserted)
          ∧ ((s.servedAll before).served ⟨.put r, d⟩).Keeps rest r)
      ∧ (∀ r d, s.reply ⟨.put r, d⟩ = .placed (.ok .inserted)
        ↔ s.index.find? r.key = none ∧ (s.served ⟨.put r, d⟩).index.find? r.key = some r)
      ∧ (∀ key now d, ∃ held, s.reply ⟨.get key now, d⟩ = .found held
        ∧ ∀ r, held = some r ↔ s.index.find? key = some r ∧ now ≤ r.expiresAt)
      ∧ ∀ now d, s.reply ⟨.purge now, d⟩ = .count (s.index.toList.countP (·.isExpiredAt now))
        ∧ ∀ r, (s.served ⟨.purge now, d⟩).index.find? r.key = some r
          ↔ s.index.find? r.key = some r ∧ now ≤ r.expiresAt := by
  -- What is left of a record once expired ones are passed over.
  have hcounts : ∀ (held : Option Record) (now : Instant) (r : Record),
      (held.filter fun r => !r.isExpiredAt now) = some r ↔ held = some r ∧ now ≤ r.expiresAt := by
    intro held now r
    rw [Option.filter_eq_some_iff, Bool.not_eq_true', Record.not_isExpiredAt_iff]
  refine ⟨⟨s.index.nodup_keys, fun r => Index.mem_toList⟩, fun r => keeps_or_dropped hkept,
    fun r => keeps_or_inserted hkept, fun r d => ?_, fun key now d => ?_, fun now d => ⟨?_, ?_⟩⟩
  · rcases s.takes_put r d with ⟨hinserted, hfree, hindex⟩ | ⟨hother, hindex⟩
    · refine iff_of_true (congrArg Reply.placed hinserted) ⟨hfree, ?_⟩
      rw [show (s.served ⟨.put r, d⟩).index = _ from hindex, Index.find?_store, if_pos rfl]
    · refine iff_of_false (fun hreply => hother (Reply.placed.inj hreply)) ?_
      rintro ⟨hfree, hstored⟩
      rw [show (s.served ⟨.put r, d⟩).index = _ from hindex, hfree] at hstored
      exact nomatch hstored
  · refine ⟨(s.index.lookup key now).found, rfl, fun r => ?_⟩
    rw [Index.found_lookup]
    exact hcounts _ now r
  · rw [← Index.expiredCount_eq]
    rfl
  · intro r
    rw [index_served_live (.inl rfl), Index.find?_live]
    exact hcounts _ now r

/-- A record for a key that a journal has held before. -/
def renewed : Record := ⟨"earlier", "another", [], { seconds := 172800, nanos := 0 }⟩

/-- The clock goes back, and the disk fails two times: under the first put, when it is
told to bring the line to safety, and under the second compaction, when the draft is
opened. -/
def troubled : List Ask :=
  [ ⟨.put Journal.earlier, { Journal.diskOf "keys.log" [] with fates := [none, none, some 0] }⟩,
    ⟨.put Journal.earlier, Journal.diskOf "keys.log" []⟩,
    ⟨.get "earlier" { seconds := 86399, nanos := 0 }, .empty⟩,
    ⟨.purge { seconds := 14, nanos := 0 }, .empty⟩,
    ⟨.compact { seconds := 11, nanos := 0 }, Journal.diskOf "keys.log" []⟩,
    ⟨.compact { seconds := 86401, nanos := 0 }, { Disk.empty with fates := [some 0] }⟩,
    ⟨.put renewed, Journal.diskOf "keys.log" []⟩ ]

/-- The record that the second put has inserted is there until the second compaction
drops it. The one that is there in the end is the last put's. -/
theorem records_stay_troubled :
    (∃ before ask rest, troubled.drop 2 = before ++ ask :: rest
        ∧ ((Store.journal blank).servedAll (troubled.take 2)).Keeps before Journal.earlier
        ∧ ask.request.Drops Journal.earlier)
      ∧ ∃ before d rest, troubled = before ++ ⟨.put renewed, d⟩ :: rest
        ∧ ((Store.journal blank).servedAll before).reply ⟨.put renewed, d⟩
          = .placed (.ok .inserted) := by
  have hkept : ∀ ask ∈ troubled, ¬ ask.request.Reopens := by
    simp [troubled, Request.Reopens]
  have hlast : ((Store.journal blank).servedAll troubled).index.find? "earlier" = some renewed := by
    decide +kernel
  constructor
  · have hkept' : ∀ ask ∈ troubled.drop 2, ¬ ask.request.Reopens := fun ask hask =>
      hkept ask (List.mem_of_mem_drop hask)
    obtain ⟨-, hdropped, -⟩ := records_stay hkept'
      ((Store.journal blank).servedAll (troubled.take 2))
    rcases hdropped Journal.earlier (by decide +kernel) with
      hkeeps | ⟨before, ask, rest, hsplit, hkeeps, hdrops, -⟩
    · have hend := hkeeps _ (List.prefix_refl _)
      rw [servedAll, servedAll, ← List.foldl_append, List.take_append_drop] at hend
      exact absurd (hlast.symm.trans hend) (by decide)
    · exact ⟨before, ask, rest, hsplit, hkeeps, hdrops⟩
  · obtain ⟨-, -, hinserted, -⟩ := records_stay hkept (Store.journal blank)
    rcases hinserted renewed hlast with hkeeps | ⟨before, d, rest, hsplit, -, hreply, -⟩
    · exact absurd (hkeeps [] List.nil_prefix) (by decide)
    · exact ⟨before, d, rest, hsplit, hreply⟩

end Store

end Idempotency
