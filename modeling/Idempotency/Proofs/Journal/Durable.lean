import Idempotency.Proofs.Journal.Putting
import Idempotency.Proofs.Journal.Torn

/-!
# `Idempotency.Proofs.Journal.Durable`: which records a restart finds

A put that returns `Placement.inserted` has its line at the end of the file. What
the next opening makes of that depends on how the file ended when the journal was
opened (`openAt_putAll`): if after the last line end there was nothing but blanks,
all such records are found again; if there was a record without a line end, the
first new line has become part of its line, and the file is refused.

The second case is not what an acknowledged put promises. The journal opens such a
file, and the lines it adds are lost with it (`put_lost_unended`).
-/

set_option autoImplicit false

namespace Idempotency.Journal

variable {path : String} {now : Instant} {j j' : Journal} {d d' opened : Disk}
  {events : List Event} {content base tail : Bytes} {r : Record} {rs more : List Record}
  {s s' : Replay}

/-! ### Many puts -/

/-- Gives a journal records, one after the other. -/
def putAll : List Record → Journal → Disk → List (Except Refusal Placement) × Journal × Disk
  | [], j, d => ([], j, d)
  | r :: rs, j, d =>
    let (outcome, j, d) := j.put r d
    let (outcomes, j, d) := putAll rs j d
    (outcome :: outcomes, j, d)

/-- The records whose puts have inserted them. -/
def insertedOf : List Record → List (Except Refusal Placement) → List Record
  | r :: rs, outcome :: outcomes =>
    if outcome = .ok .inserted then r :: insertedOf rs outcomes else insertedOf rs outcomes
  | _, _ => []

/-- The records have keys of their own, which the index does not have. -/
structure Fresh (ix : Index) (rs : List Record) : Prop where
  free : ∀ r ∈ rs, ix.find? r.key = none
  distinct : rs.Pairwise fun a b => a.key ≠ b.key

/-- Without records there is nothing to clash. -/
theorem fresh_nil (ix : Index) : Fresh ix [] := ⟨fun _ h => (nomatch h), .nil⟩

/-- What is fresh to an index with one record more is fresh with that record. -/
theorem Fresh.cons {ix : Index} (hfree : ix.find? r.key = none) (h : Fresh (ix.store r) rs) :
    Fresh ix (r :: rs) := by
  have hother : ∀ a ∈ rs, a.key ≠ r.key := fun a ha hkey => by
    have hnone := h.free a ha
    rw [Index.find?_store, if_pos hkey] at hnone
    exact nomatch hnone
  refine ⟨fun a ha => ?_, .cons (fun a ha => (hother a ha).symm) h.distinct⟩
  rcases List.mem_cons.1 ha with rfl | ha
  · exact hfree
  · have hnone := h.free a ha
    rwa [Index.find?_store, if_neg (hother a ha)] at hnone

/-- Without the first of them, the records are still fresh. -/
theorem Fresh.skip {ix : Index} (h : Fresh ix (r :: rs)) : Fresh ix rs :=
  ⟨fun a ha => h.free a (List.mem_cons_of_mem r ha), h.distinct.tail⟩

/-- Once the first of them is stored, the others are fresh to the index that has it. -/
theorem Fresh.store {ix : Index} (h : Fresh ix (r :: rs)) : Fresh (ix.store r) rs := by
  refine ⟨fun a ha => ?_, h.distinct.tail⟩
  rw [Index.find?_store, if_neg fun hkey => List.rel_of_pairwise_cons h.distinct ha hkey.symm]
  exact h.free a (List.mem_cons_of_mem r ha)

/-- If no step on the disk fails, the lines of the inserted records are at the end
of the file, and the index has them. -/
theorem putAll_ok {outcomes : List (Except Refusal Placement)} (h : j.Stands d content)
    (hputs : putAll rs j d = (outcomes, j', d'))
    (hfault : ∀ reason, .error (.storage reason) ∉ outcomes) :
    j.Adds d content ((insertedOf rs outcomes).flatMap line) j' d'
      ∧ Fresh j.index (insertedOf rs outcomes)
      ∧ j'.index = (insertedOf rs outcomes).foldl Index.store j.index := by
  induction rs generalizing j d content outcomes with
  | nil =>
    cases hputs
    refine ⟨⟨rfl, ?_, rfl⟩, fresh_nil _, rfl⟩
    show Stands _ _ (content ++ [])
    rwa [List.append_nil]
  | cons r rs ih =>
    rw [putAll] at hputs
    obtain ⟨later, hlater⟩ : ∃ later, later = putAll rs (j.put r d).2.1 (j.put r d).2.2 := ⟨_, rfl⟩
    obtain ⟨outcomes', last, disk⟩ := later
    simp only [← hlater, Prod.mk.injEq] at hputs
    obtain ⟨rfl, rfl, rfl⟩ := hputs
    have hfault' : ∀ reason, .error (.storage reason) ∉ outcomes' := fun reason hmem =>
      hfault reason (List.mem_cons_of_mem _ hmem)
    rcases put_cases h r with ⟨held, _, hput⟩ | ⟨hfree, ⟨next, disk', hput, hindex, hadds⟩ |
      ⟨next, disk', p, hput, _⟩⟩
    · -- The key is taken, and the put leaves everything as it is.
      rw [hput] at hlater ⊢
      have hskip : insertedOf (r :: rs) ((if held.requestHash = r.requestHash then .ok .duplicate
          else .error (.conflict r.key)) :: outcomes') = insertedOf rs outcomes' := by
        split
        · rfl
        · rfl
      rw [hskip]
      exact ih h hlater.symm hfault'
    · rw [hput] at hlater ⊢
      obtain ⟨hadds', hfresh, hindex'⟩ := ih hadds.stands hlater.symm hfault'
      rw [hindex] at hfresh hindex'
      refine ⟨⟨hadds'.path.trans hadds.path, ?_, hadds'.entries.trans hadds.entries⟩,
        hfresh.cons hfree, hindex'⟩
      show last.Stands disk (content ++ (line r ++ (insertedOf rs outcomes').flatMap line))
      rw [← List.append_assoc]
      exact hadds'.stands
    · rw [hput] at hfault
      exact absurd List.mem_cons_self (hfault _)

/-! ### Replaying what was put -/

/-- Records with keys of their own are all taken, but for those that have
expired. -/
theorem takeAll_of_fresh (now : Instant) (hfresh : Fresh s.index rs) :
    ∃ s', s.takeAll now rs = .ok s'
      ∧ s'.index = (rs.filter fun r => !r.isExpiredAt now).foldl Index.store s.index := by
  induction rs generalizing s with
  | nil => exact ⟨s, rfl, rfl⟩
  | cons r rs ih =>
    obtain ⟨next, htake, hindex⟩ : ∃ next, s.take now r = .ok next
        ∧ next.index = if r.isExpiredAt now then s.index else s.index.store r :=
      take_of_free (hfresh.free r List.mem_cons_self)
    have hnext : Fresh next.index rs := by
      rw [hindex]
      split
      · exact hfresh.skip
      · exact hfresh.store
    obtain ⟨last, htakeAll, hlast⟩ := ih hnext
    refine ⟨last, ?_, ?_⟩
    · rw [Replay.takeAll, htake]
      exact htakeAll
    · rw [hlast, hindex]
      cases hexpired : r.isExpiredAt now with
      | true => simp [hexpired]
      | false => simp [hexpired]

/-- The bytes after the last line end. -/
def unended (content : Bytes) : Bytes := (content.reverse.takeWhile (· ≠ lineFeed)).reverse

/-- What has no line end is all that is left behind ended lines. -/
theorem unended_append (hended : Ended base) (htail : lineFeed ∉ tail) :
    unended (base ++ tail) = tail := by
  have hall : ∀ b ∈ tail.reverse, decide (b ≠ lineFeed) = true := fun b hb =>
    decide_eq_true fun heq => htail (by rw [← heq]; exact List.mem_reverse.1 hb)
  rw [unended, List.reverse_append, List.takeWhile_append_of_pos hall, List.reverse_append,
    List.reverse_reverse]
  rcases hended with rfl | ⟨front, rfl⟩
  · rfl
  · rw [List.reverse_append]
    rfl

/-- A file that replays has a tail that reads. -/
theorem replay_tail (hended : Ended base) (htail : lineFeed ∉ tail)
    (hreplay : replay now (base ++ tail) = .ok s) :
    ∃ s₀ found, replay now base = .ok s₀
      ∧ readLine (1 + (splitLines base).length) tail = .ok found ∧ (found = none → s = s₀) := by
  rw [replay_append hended] at hreplay
  cases hbase : replay now base with
  | error damage =>
    rw [hbase] at hreplay
    cases hreplay
  | ok s₀ =>
    rw [hbase] at hreplay
    by_cases hnil : tail = []
    · subst hnil
      cases hreplay
      exact ⟨s, none, rfl, rfl, fun _ => rfl⟩
    · rw [splitLines_of_not_mem htail hnil] at hreplay
      cases hread : readLine (1 + (splitLines base).length) tail with
      | error damage =>
        simp only [Except.bind, Replay.takeLines, Replay.takeLine, hread, bind] at hreplay
        cases hreplay
      | ok found =>
        refine ⟨s₀, found, rfl, rfl, ?_⟩
        rintro rfl
        simp only [Except.bind, Replay.takeLines, Replay.takeLine, hread, bind] at hreplay
        cases hreplay
        rfl

/-- The first new line takes the tail in; those after it stand for themselves. -/
theorem replay_put (hended : Ended base) (htail : lineFeed ∉ tail) (r : Record)
    (more : List Record) :
    replay now (base ++ tail ++ (r :: more).flatMap line) = (replay now base).bind fun s =>
      (s.takeLine now (1 + (splitLines base).length) (tail ++ Text.encode r.text)).bind fun s =>
        s.takeAll now more := by
  have hmem : lineFeed ∉ tail ++ Text.encode r.text := fun hmem =>
    (List.mem_append.1 hmem).elim htail (lineFeed_not_mem_text r)
  have hjoin : base ++ tail ++ (r :: more).flatMap line
      = base ++ ((tail ++ Text.encode r.text) ++ lineFeed :: (more.flatMap line)) := by
    simp [line]
  rw [hjoin, replay_append hended, splitLines_append hmem, splitLines_written]
  congr 1
  funext s
  rw [Replay.takeLines]
  cases s.takeLine now (1 + (splitLines base).length) (tail ++ Text.encode r.text) with
  | error damage => rfl
  | ok s => exact Replay.takeLines_text s _ more

/-- If the tail and the first new line make no line, the file is damaged. -/
theorem replay_put_of_error {damage : Damage} (hended : Ended base) (htail : lineFeed ∉ tail)
    (hbase : replay now base = .ok s)
    (hread : readLine (1 + (splitLines base).length) (tail ++ Text.encode r.text) = .error damage)
    (more : List Record) :
    replay now (base ++ tail ++ (r :: more).flatMap line) = .error damage := by
  rw [replay_put hended htail, hbase]
  simp only [Except.bind, Replay.takeLine, hread, bind]

/-- Blanks before the first new line make no difference, and new records are taken. -/
theorem replay_put_of_blank (hended : Ended base) (htail : lineFeed ∉ tail)
    (hbase : replay now base = .ok s)
    (hread : readLine (1 + (splitLines base).length) tail = .ok none)
    (hfresh : Fresh s.index (r :: more)) :
    ∃ s', replay now (base ++ tail ++ (r :: more).flatMap line) = .ok s'
      ∧ s'.index = ((r :: more).filter fun r => !r.isExpiredAt now).foldl Index.store s.index := by
  obtain ⟨s', htakeAll, hindex⟩ := takeAll_of_fresh now hfresh
  refine ⟨s', ?_, hindex⟩
  have hline : s.takeLine now (1 + (splitLines base).length) (tail ++ Text.encode r.text)
      = s.take now r := by
    simp only [Replay.takeLine, readLine_blank_append hread r _, bind, Except.bind]
  rw [replay_put hended htail, hbase, ← htakeAll, Replay.takeAll]
  show (s.takeLine now _ _).bind _ = _
  rw [hline]
  rfl

/-! ### Opening after puts -/

/-- Nothing but blanks stands after the last line end. -/
def BlankAtEnd (content : Bytes) : Prop :=
  (Text.decode? (unended content)).map Text.trimChars = some []

/-- A line is passed over exactly if it is text and all of it is blank. -/
theorem readLine_eq_none_iff (number : Nat) (bytes : Bytes) :
    readLine number bytes = .ok none ↔ (Text.decode? bytes).map Text.trimChars = some [] := by
  constructor
  · intro hread
    obtain ⟨cs, hdecode, hblank, _⟩ := of_readLine hread
    rw [hdecode, Option.map_some, hblank.2 rfl]
  · intro hblank
    obtain ⟨cs, hdecode, htrim⟩ := Option.map_eq_some_iff.1 hblank
    simp only [readLine, hdecode, htrim]
    rfl

/-- What a restart finds of acknowledged puts. Let a journal be opened, whatever
its file holds, and be given records, and let no step on the disk fail. If none of
them was inserted, or if the file had nothing but blanks after its last line end,
opening it again at the same instant gives the index of before with the inserted
records that have not expired. Otherwise the file ended in a record without a line
end, and opening it again is refused because of that line. -/
theorem openAt_putAll {outcomes : List (Except Refusal Placement)}
    (hopen : openAt path now d = (.ok j, events, opened))
    (hputs : j.putAll rs opened = (outcomes, j', d'))
    (hfault : ∀ reason, .error (.storage reason) ∉ outcomes) :
    (insertedOf rs outcomes = [] ∨ BlankAtEnd (d.contentAt (Path.ofText path).place) →
        Gives path now d' (((insertedOf rs outcomes).filter fun r => !r.isExpiredAt now).foldl
          Index.store j.index))
      ∧ (insertedOf rs outcomes ≠ [] → ¬ BlankAtEnd (d.contentAt (Path.ofText path).place) →
        openAt path now d' = (.error (.damaged (.badLine
          (splitLines (d.contentAt (Path.ofText path).place)).length .trailingCharacters)),
          [], d')) := by
  obtain ⟨hpath, ⟨s, hreplay, hindex⟩, hstands⟩ := of_openAt hopen
  obtain ⟨hadds, hfresh, -⟩ := putAll_ok hstands hputs hfault
  have hcontent := hadds.stands.contentAt
  rw [hadds.path, hpath] at hcontent
  generalize insertedOf rs outcomes = inserted at *
  obtain ⟨base, tail, hsplit, hended, htail⟩ := exists_ended (d.contentAt (Path.ofText path).place)
  rw [hsplit] at hreplay hcontent ⊢
  obtain ⟨s₀, found, hbase, hread, hsame⟩ := replay_tail hended htail hreplay
  cases inserted with
  | nil =>
    rw [List.flatMap_nil, List.append_nil] at hcontent
    refine ⟨fun _ => ?_, fun hne => absurd rfl hne⟩
    show Gives path now d' j.index
    rw [hindex]
    exact gives_of_replay hopen hadds.entries (by rw [hcontent, hreplay])
  | cons r more =>
    -- The line of the first record starts with the tail.
    unfold BlankAtEnd
    rw [unended_append hended htail, ← readLine_eq_none_iff (1 + (splitLines base).length), hread]
    refine ⟨fun hblank => ?_, fun _ hrecord => ?_⟩
    · obtain rfl : found = none := by
        rcases hblank with hnil | hnone
        · exact absurd hnil (List.cons_ne_nil r more)
        · exact Except.ok.inj hnone
      obtain rfl := hsame rfl
      rw [hindex] at hfresh ⊢
      obtain ⟨s', hput, hlast⟩ := replay_put_of_blank hended htail hbase hread hfresh
      rw [← hlast]
      exact gives_of_replay hopen hadds.entries (by rw [hcontent, hput])
    · obtain ⟨r₀, rfl⟩ : ∃ r₀, found = some r₀ := by
        cases found with
        | none => exact absurd rfl hrecord
        | some r₀ => exact ⟨r₀, rfl⟩
      have htail' : tail ≠ [] := by
        rintro rfl
        cases hread
      have hnumber : (splitLines (base ++ tail)).length = 1 + (splitLines base).length := by
        rw [splitLines_append_of_ended hended, splitLines_of_not_mem htail htail',
          List.length_append, List.length_singleton, Nat.add_comm]
      have hput := replay_put_of_error hended htail hbase
        (readLine_record_append hread r _) more
      rw [hnumber]
      exact openAt_of_damage hopen hadds.entries (by rw [hcontent, hput])

/-- A disk with one file. -/
def diskOf (name : String) (content : Bytes) : Disk :=
  (Disk.empty.create [name]).2.withContent 0 content

/-- A record that a file has. -/
def earlier : Record := ⟨"earlier", "hash", [], { seconds := 86400, nanos := 0 }⟩

/-- A record that is put. -/
def later : Record := ⟨"later", "hash", [80], { seconds := 86400, nanos := 0 }⟩

/-- A journal with this one record. -/
def holding (r : Record) : Journal := ⟨"keys.log", Index.empty.store r, ⟨0, none⟩⟩

/-- The file ends in blanks after its last line end: a space, and a no-break
space in its two bytes. The second put is of the same request again. -/
theorem openAt_putAll_blank : ∃ outcomes j' d',
    openAt "keys.log" { seconds := 0, nanos := 0 }
        (diskOf "keys.log" (line earlier ++ [0x20, 0xC2, 0xA0]))
        = (.ok (holding earlier), [.opened "keys.log" 1],
          diskOf "keys.log" (line earlier ++ [0x20, 0xC2, 0xA0]))
      ∧ (holding earlier).putAll [later, later]
          (diskOf "keys.log" (line earlier ++ [0x20, 0xC2, 0xA0])) = (outcomes, j', d')
      ∧ outcomes = [.ok .inserted, .ok .duplicate]
      ∧ Gives "keys.log" { seconds := 0, nanos := 0 } d' ((holding earlier).index.store later) := by
  have hopen : openAt "keys.log" { seconds := 0, nanos := 0 }
      (diskOf "keys.log" (line earlier ++ [0x20, 0xC2, 0xA0]))
      = (.ok (holding earlier), [.opened "keys.log" 1],
        diskOf "keys.log" (line earlier ++ [0x20, 0xC2, 0xA0])) := by decide +kernel
  have hblank : BlankAtEnd ((diskOf "keys.log" (line earlier ++ [0x20, 0xC2, 0xA0])).contentAt
      (Path.ofText "keys.log").place) := by
    unfold BlankAtEnd
    decide +kernel
  have hputs : (holding earlier).putAll [later, later]
      (diskOf "keys.log" (line earlier ++ [0x20, 0xC2, 0xA0]))
      = ([.ok .inserted, .ok .duplicate],
        { holding earlier with index := (holding earlier).index.store later },
        diskOf "keys.log" (line earlier ++ [0x20, 0xC2, 0xA0] ++ line later)) := by
    decide +kernel
  refine ⟨_, _, _, hopen, hputs, rfl, ?_⟩
  exact (openAt_putAll hopen hputs (by simp)).1 (.inr hblank)

/-- The file is one record without a line end. It opens, a record is inserted, and
then it does not open. -/
theorem put_lost_unended :
    openAt "keys.log" { seconds := 0, nanos := 0 } (diskOf "keys.log" (Text.encode earlier.text))
        = (.ok (holding earlier), [.opened "keys.log" 1],
          diskOf "keys.log" (Text.encode earlier.text))
      ∧ (holding earlier).putAll [later] (diskOf "keys.log" (Text.encode earlier.text))
        = ([.ok .inserted],
          { holding earlier with index := (holding earlier).index.store later },
          diskOf "keys.log" (Text.encode earlier.text ++ line later))
      ∧ (openAt "keys.log" { seconds := 0, nanos := 0 }
          (diskOf "keys.log" (Text.encode earlier.text ++ line later))).1
        = .error (.damaged (.badLine 1 .trailingCharacters)) := by
  refine ⟨?_, ?_, ?_⟩
  · decide +kernel
  · decide +kernel
  · decide +kernel

end Idempotency.Journal
