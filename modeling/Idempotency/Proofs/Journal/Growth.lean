import Idempotency.Proofs.Journal.Failed

/-!
# `Idempotency.Proofs.Journal.Growth`: what a journal's file has become

A journal writes to its file when it stores a record, and when it is compacted. Nothing
else that is asked of it touches the disk: not a lookup or a sweep that drops records,
and not a put that is refused or finds its record there (`disk_serve`). So the file is
what stood there at first, or what the last compaction left, and then the lines of the
records inserted since, in the order in which they were put. `file_is_history` says
this of every moment of every run in which no step on the disk fails, wherever the
clock goes.

The file that a compaction leaves is another one, and the journal writes to it through
another handle. `Journal.Stands` does not ask which file and handle, and so it carries
the induction over the run.
-/

set_option autoImplicit false

namespace Idempotency.Store

open Journal (line)

variable {path : String} {start now : Instant} {j j' : Journal} {d d' opened : Disk}
  {events : List Event} {request : Request} {requests : List Request} {reply : Reply}
  {s s' : Store} {content : Bytes}

/-- The record that a request has inserted. -/
def Request.inserted? : Request → Reply → Option Record
  | .put r, .placed (.ok .inserted) => some r
  | _, _ => none

/-- The records that requests insert, in the order of the requests. -/
def inserted : List Request → Store → Disk → List Record
  | [], _, _ => []
  | request :: requests, s, d =>
    let (reply, s, d) := serve request s d
    (request.inserted? reply).toList ++ inserted requests s d

/-! ### One request -/

/-- The journal is written anew, or left and opened again. -/
def Request.Renews (request : Request) : Prop :=
  ∃ now, request = .compact now ∨ request = .reopen now

/-- A request adds the line of the record that it inserts, and without one it leaves
the disk as it is. -/
theorem stands_serve (h : j.Stands d content) (hrenews : ¬ request.Renews)
    (hfault : (serve request (.journal j) d).1.isFault = false) :
    ∃ reply j' d', serve request (.journal j) d = (reply, .journal j', d') ∧ j'.path = j.path
      ∧ j'.Stands d' (content ++ (request.inserted? reply).toList.flatMap line)
      ∧ (request.inserted? reply = none → d' = d) := by
  have hnothing : ∀ ix, ({ j with index := ix } : Journal).Stands d
      (content ++ ([] : List Record).flatMap line) := fun ix => by
    rw [List.flatMap_nil, List.append_nil]
    exact h.withIndex ix
  cases request with
  | get key now => exact ⟨_, _, _, rfl, rfl, hnothing _, fun _ => rfl⟩
  | purge now => exact ⟨_, _, _, rfl, rfl, hnothing _, fun _ => rfl⟩
  | size => exact ⟨_, _, _, rfl, rfl, hnothing _, fun _ => rfl⟩
  | compact now => exact absurd ⟨now, .inl rfl⟩ hrenews
  | reopen now => exact absurd ⟨now, .inr rfl⟩ hrenews
  | put r =>
    rcases Journal.put_cases h r with
      ⟨held, -, hput⟩ | ⟨-, ⟨j', d', hput, -, hadds⟩ | ⟨j', d', p, hput, -⟩⟩
    · refine ⟨.placed (if held.requestHash = r.requestHash then .ok .duplicate
        else .error (.conflict r.key)), j, d, by simp only [serve, Store.put, hput], rfl, ?_,
        fun _ => rfl⟩
      split
      · exact hnothing _
      · exact hnothing _
    · refine ⟨.placed (.ok .inserted), j', d', by simp only [serve, Store.put, hput], hadds.path,
        ?_, ?_⟩
      · show j'.Stands d' (content ++ [r].flatMap line)
        rw [List.flatMap_singleton]
        exact hadds.stands
      · intro hnone
        cases hnone
    · simp only [serve, Store.put, hput] at hfault
      cases hfault

/-! ### Runs -/

/-- Requests that do not renew the journal add the lines of the records that they
insert. -/
theorem stands_after (h : j.Stands d content) (hrenews : ∀ request ∈ requests, ¬ request.Renews)
    (hfault : Faultless requests (.journal j) d) :
    ∃ j' d', after requests (.journal j) d = (.journal j', d') ∧ j'.path = j.path
      ∧ j'.Stands d' (content ++ (inserted requests (.journal j) d).flatMap line) := by
  induction requests generalizing j d content with
  | nil => exact ⟨j, d, rfl, rfl, by rw [inserted, List.flatMap_nil, List.append_nil]; exact h⟩
  | cons request requests ih =>
    obtain ⟨reply, next, disk, hserve, hpath, hnext, -⟩ :=
      stands_serve h (hrenews request List.mem_cons_self) hfault.head
    have hlater := hfault.tail
    rw [hserve] at hlater
    obtain ⟨j', d', hafter, hpath', hstands⟩ :=
      ih hnext (fun request hmem => hrenews request (List.mem_cons_of_mem _ hmem)) hlater
    refine ⟨j', d', ?_, hpath'.trans hpath, ?_⟩
    · rw [after, hserve]
      exact hafter
    · simp only [inserted, hserve, List.flatMap_append]
      rw [← List.append_assoc]
      exact hstands

/-- A compaction leaves the lines of the records that have not expired. -/
theorem stands_compact (hfault : (serve (.compact now) (.journal j) d).1.isFault = false) :
    ∃ reply j' d', serve (.compact now) (.journal j) d = (reply, .journal j', d')
      ∧ j'.path = j.path ∧ j'.Stands d' ((j.index.live now).toList.flatMap line) := by
  cases hcompact : j.compact now d with
  | mk outcome rest =>
    obtain ⟨j', events, d'⟩ := rest
    simp only [serve, hcompact] at hfault ⊢
    cases outcome with
    | error fault => cases hfault
    | ok dropped =>
      obtain ⟨-, hpath, -, hstands⟩ := Journal.compact_ok hcompact
      exact ⟨_, j', d', rfl, hpath, hstands⟩

/-- Whatever is asked of a journal that is not left, it stands on a file at its path. -/
theorem exists_stands_after (h : j.Stands d content) (hkept : ∀ now, .reopen now ∉ requests)
    (hfault : Faultless requests (.journal j) d) :
    ∃ j' d' more, after requests (.journal j) d = (.journal j', d') ∧ j'.path = j.path
      ∧ j'.Stands d' more := by
  induction requests generalizing j d content with
  | nil => exact ⟨j, d, content, rfl, rfl, h⟩
  | cons request requests ih =>
    have hkept' : ∀ now, .reopen now ∉ requests := fun now hmem =>
      hkept now (List.mem_cons_of_mem _ hmem)
    obtain ⟨reply, next, disk, more, hserve, hpath, hnext⟩ : ∃ reply j' d' more,
        serve request (.journal j) d = (reply, .journal j', d') ∧ j'.path = j.path
          ∧ j'.Stands d' more := by
      by_cases hrenews : request.Renews
      · obtain ⟨now, rfl | rfl⟩ := hrenews
        · obtain ⟨reply, j', d', hserve, hpath, hstands⟩ := stands_compact hfault.head
          exact ⟨reply, j', d', _, hserve, hpath, hstands⟩
        · exact absurd List.mem_cons_self (hkept now)
      · obtain ⟨reply, j', d', hserve, hpath, hstands, -⟩ := stands_serve h hrenews hfault.head
        exact ⟨reply, j', d', _, hserve, hpath, hstands⟩
    have hlater := hfault.tail
    rw [hserve] at hlater
    obtain ⟨j', d', last, hafter, hpath', hstands⟩ := ih hnext hkept' hlater
    refine ⟨j', d', last, ?_, hpath'.trans hpath, hstands⟩
    rw [after, hserve]
    exact hafter

/-- A run that neither compacts the journal nor leaves it adds to the file what it
inserts. -/
theorem contentAt_after (h : j.Stands d content) (hkept : ∀ now, .reopen now ∉ requests)
    (hcompact : ∀ now, .compact now ∉ requests) (hfault : Faultless requests (.journal j) d) :
    (after requests (.journal j) d).2.contentAt (Path.ofText j.path).place
      = content ++ (inserted requests (.journal j) d).flatMap line := by
  have hrenews : ∀ request ∈ requests, ¬ request.Renews := by
    rintro request hmem ⟨now, rfl | rfl⟩
    · exact hcompact now hmem
    · exact hkept now hmem
  obtain ⟨j', d', hafter, hpath, hstands⟩ := stands_after h hrenews hfault
  rw [hafter, ← hpath]
  exact hstands.contentAt

/-- A run that starts with a compaction replaces the file, and then adds to it. -/
theorem contentAt_after_compact (hkept : ∀ now, .reopen now ∉ requests)
    (hcompact : ∀ now, .compact now ∉ requests)
    (hfault : Faultless (.compact now :: requests) (.journal j) d) :
    (after (.compact now :: requests) (.journal j) d).2.contentAt (Path.ofText j.path).place
      = (j.index.live now).toList.flatMap line
        ++ (inserted requests (after [.compact now] (.journal j) d).1
          (after [.compact now] (.journal j) d).2).flatMap line := by
  obtain ⟨reply, j', d', hserve, hpath, hstands⟩ := stands_compact hfault.head
  have hlater := hfault.tail
  rw [hserve] at hlater
  have hcontent := contentAt_after hstands hkept hcompact hlater
  rw [hpath] at hcontent
  simp only [after, hserve]
  exact hcontent

/-- A request that inserts nothing leaves the disk as it is, unless it renews the
journal. -/
theorem disk_serve (h : j.Stands d content) (hrenews : ¬ request.Renews)
    (hfault : (serve request (.journal j) d).1.isFault = false)
    (hserve : serve request (.journal j) d = (reply, s', d'))
    (hnone : request.inserted? reply = none) : d' = d := by
  obtain ⟨reply', j', d'', hserve', -, -, hdisk⟩ := stands_serve h hrenews hfault
  rw [hserve'] at hserve
  cases hserve
  exact hdisk hnone

/-- The file of a journal is its history. Let a journal be opened, whatever its file
holds, let it be asked anything but to be left, at any instants, and let no step on the
disk fail. As long as it is not compacted, the file is what it was at first and then
the lines of the records inserted since, in the order of the puts. After a compaction,
it is the lines of the records that had not expired then, in the order of their keys,
and then the lines of the records inserted since. And a request that neither compacts
the journal nor inserts a record leaves the disk as it is. -/
theorem file_is_history (hopen : Journal.openAt path start d = (.ok j, events, opened))
    (hkept : ∀ now, .reopen now ∉ requests) (hfault : Faultless requests (.journal j) opened) :
    (∀ since, since <+: requests → (∀ now, .compact now ∉ since) →
        (after since (.journal j) opened).2.contentAt (Path.ofText path).place
          = d.contentAt (Path.ofText path).place
            ++ (inserted since (.journal j) opened).flatMap line)
      ∧ (∀ before now since, before ++ .compact now :: since <+: requests →
        (∀ late, .compact late ∉ since) →
        (after (before ++ .compact now :: since) (.journal j) opened).2.contentAt
            (Path.ofText path).place
          = ((after before (.journal j) opened).1.index.live now).toList.flatMap line
            ++ (inserted since (after (before ++ [.compact now]) (.journal j) opened).1
              (after (before ++ [.compact now]) (.journal j) opened).2).flatMap line)
      ∧ ∀ before request reply s' e', before ++ [request] <+: requests →
        (∀ now, request ≠ .compact now) →
        serve request (after before (.journal j) opened).1 (after before (.journal j) opened).2
          = (reply, s', e') →
        request.inserted? reply = none → e' = (after before (.journal j) opened).2 := by
  obtain ⟨hpath, -, hstands⟩ := Journal.of_openAt hopen
  subst hpath
  refine ⟨?_, ?_, ?_⟩
  · rintro since ⟨rest, rfl⟩ hcompact
    have hkept' : ∀ now, .reopen now ∉ since := fun now hmem =>
      hkept now (List.mem_append_left _ hmem)
    exact contentAt_after hstands hkept' hcompact hfault.left
  · rintro before now since ⟨rest, rfl⟩ hcompact
    have hkept' : ∀ late, .reopen late ∉ before ++ .compact now :: since := fun late hmem =>
      hkept late (List.mem_append_left _ hmem)
    obtain ⟨k, e, more, hk, hkpath, -⟩ := exists_stands_after hstands
      (fun late hmem => hkept' late (List.mem_append_left _ hmem)) hfault.left.left
    have hthen := hfault.left.right
    simp only [after_append, hk, ← hkpath] at hthen ⊢
    exact contentAt_after_compact (fun late hmem =>
      hkept' late (List.mem_append_right _ (List.mem_cons_of_mem _ hmem))) hcompact hthen
  · rintro before request reply s' e' ⟨rest, rfl⟩ hcompact hserve hnone
    have hkept' : ∀ late, .reopen late ∉ before ++ [request] := fun late hmem =>
      hkept late (List.mem_append_left _ hmem)
    obtain ⟨k, e, more, hk, -, hkstands⟩ := exists_stands_after hstands
      (fun late hmem => hkept' late (List.mem_append_left _ hmem)) hfault.left.left
    have hthen := hfault.left.right
    rw [hk] at hserve hthen ⊢
    refine disk_serve hkstands ?_ hthen.head hserve hnone
    rintro ⟨now, rfl | rfl⟩
    · exact hcompact now rfl
    · exact hkept' now (List.mem_append_right _ List.mem_cons_self)

/-- A file with a blank line, and a record whose line has no end. -/
def unfinished : Bytes := [0x20, 0x0A] ++ Text.encode Journal.earlier.text

/-- Of three puts under one key the first inserts its record. The lookup drops the
record that was in the file, and the sweep comes at an earlier instant. -/
def contested : List Request :=
  [ .put Journal.later,
    .put Journal.later,
    .put { Journal.later with requestHash := "another" },
    .get "earlier" { seconds := 90000, nanos := 0 },
    .purge { seconds := 15, nanos := 0 },
    .size ]

/-- A record that is put after a compaction. -/
def afresh : Record := ⟨"afresh", "hash", [], { seconds := 45, nanos := 0 }⟩

/-- Before the compaction the file has the first put's line at its end, although
nothing ends the line before it. After the compaction it has that line and the one that
was put then. -/
theorem file_is_history_contested :
    (after contested (.journal (Journal.holding Journal.earlier))
        (Journal.diskOf "keys.log" unfinished)).2.contentAt (Path.ofText "keys.log").place
      = unfinished ++ line Journal.later
    ∧ (after (contested ++ .compact { seconds := 0, nanos := 0 }
          :: [.put afresh, .purge { seconds := 46, nanos := 0 }])
        (.journal (Journal.holding Journal.earlier))
        (Journal.diskOf "keys.log" unfinished)).2.contentAt (Path.ofText "keys.log").place
      = line Journal.later ++ line afresh := by
  have hopen : Journal.openAt "keys.log" { seconds := 0, nanos := 0 }
      (Journal.diskOf "keys.log" unfinished)
      = (.ok (Journal.holding Journal.earlier), [.opened "keys.log" 1],
        Journal.diskOf "keys.log" unfinished) := by decide +kernel
  have hkept : ∀ now, .reopen now ∉ contested ++ .compact { seconds := 0, nanos := 0 }
      :: [.put afresh, .purge { seconds := 46, nanos := 0 }] := by
    simp [contested]
  have hfault : Faultless (contested ++ .compact { seconds := 0, nanos := 0 }
      :: [.put afresh, .purge { seconds := 46, nanos := 0 }])
      (.journal (Journal.holding Journal.earlier)) (Journal.diskOf "keys.log" unfinished) :=
    faultless_of_undisturbed ⟨rfl, rfl⟩ hopen fun _ _ => Disk.takes_of_entries
      (by decide +kernel) (by decide +kernel) (by decide +kernel)
  obtain ⟨hgrows, hcompacts, -⟩ := file_is_history hopen hkept hfault
  refine ⟨?_, ?_⟩
  · rw [hgrows contested (List.prefix_append _ _) (by simp [contested])]
    decide +kernel
  · rw [hcompacts contested _ _ (List.prefix_refl _) (by simp)]
    decide +kernel

end Idempotency.Store
