import Idempotency.Proofs.Disk.Place

/-!
# `Idempotency.Proofs.Disk.Writing`: writing at the end of a file

A handle writes at the end of its file if it has no place of its own, or if its
place is the end (`Disk.WritesAtEnd`). A write that goes through then adds its
bytes to the file and leaves the handle at the end again (`Disk.write_ok`), and
so do several (`Disk.writeAll_ok`). `Disk.Extends` says what such a write does. One
that breaks off does the same with fewer bytes (`Disk.writeAll_extends`).
-/

set_option autoImplicit false

namespace Idempotency.Disk

variable {d d' d'' : Disk} {h h' h'' : Handle} {bytes more : Bytes}

/-- The next write goes to the end of the file. -/
def WritesAtEnd (d : Disk) (h : Handle) : Prop :=
  h.position.getD (d.read h.file).length = (d.read h.file).length

/-- Where the end of a file is depends on what files hold. -/
theorem WritesAtEnd.congr (hend : d.WritesAtEnd h) (hcontents : d'.contents = d.contents) :
    d'.WritesAtEnd h := by
  rw [WritesAtEnd, read_congr hcontents]
  exact hend

/-- A file that is empty ends where it starts. -/
theorem writesAtEnd_start (hposition : h.position = some 0) (hempty : d.read h.file = []) :
    d.WritesAtEnd h := by
  rw [WritesAtEnd, hposition, hempty]
  rfl

/-- Bringing bytes to safety leaves all entries. -/
theorem entries_sync (d : Disk) : d.sync.2.entries = d.entries := entries_nextFate d

/-- It leaves what files hold, too. -/
theorem contents_sync (d : Disk) : d.sync.2.contents = d.contents := contents_nextFate d

/-- Writing leaves all entries, wherever it goes and breaks off. -/
theorem entries_writeAll (d : Disk) (h : Handle) (pieces : List Bytes) :
    (d.writeAll h pieces).disk.entries = d.entries := by
  induction pieces generalizing d h with
  | nil => rfl
  | cons piece pieces ih =>
    have hfirst : (d.write h piece).disk.entries = d.entries := entries_nextFate d
    rw [writeAll]
    cases hwrite : d.write h piece with
    | mk failed next disk =>
      rw [hwrite] at hfirst
      cases failed with
      | some fault => exact hfirst
      | none => exact (ih disk next).trans hfirst

/-- Bytes are added to the file of a handle; nothing else about the disk
changes. -/
structure Extends (d : Disk) (h : Handle) (bytes : Bytes) (d' : Disk) (h' : Handle) : Prop where
  file : h'.file = h.file
  read : d'.read h.file = d.read h.file ++ bytes
  atEnd : d'.WritesAtEnd h'
  entries : d'.entries = d.entries
  count : d'.contents.length = d.contents.length

/-- What is added in two steps is added in both together. -/
theorem Extends.trans (hfirst : d.Extends h bytes d' h') (hthen : d'.Extends h' more d'' h'') :
    d.Extends h (bytes ++ more) d'' h'' where
  file := hthen.file.trans hfirst.file
  read := by rw [← hfirst.file, hthen.read, hfirst.file, hfirst.read, List.append_assoc]
  atEnd := hthen.atEnd
  entries := hthen.entries.trans hfirst.entries
  count := hthen.count.trans hfirst.count

/-- Adding nothing changes nothing. -/
theorem extends_refl (hend : d.WritesAtEnd h) : d.Extends h [] d h :=
  ⟨rfl, (List.append_nil _).symm, hend, rfl, rfl⟩

/-- Bytes written over the end of a file come behind it. -/
theorem overwrite_length (content bytes : Bytes) :
    overwrite content content.length bytes = content ++ bytes := by
  unfold overwrite
  split
  · next h => rw [List.isEmpty_iff.1 h, List.append_nil]
  · rw [Nat.sub_self, List.replicate_zero, List.append_nil, List.take_length,
      List.drop_eq_nil_of_le (by omega), List.append_nil]

/-- A limit leaves room for the bytes, or for fewer. -/
theorem room_le (d : Disk) (position count : Nat) : d.room position count ≤ count := by
  unfold room
  split
  · exact Nat.le_refl count
  · exact Nat.min_le_left _ _

/-- A write that goes through at the end of a file takes all bytes there. -/
theorem write_eq (hend : d.WritesAtEnd h) (hfault : (d.write h bytes).fault = none) :
    d.write h bytes = ⟨none, { h with position := h.position.map (· + bytes.length) },
      d.nextFate.2.withContent h.file (d.read h.file ++ bytes)⟩ := by
  have hread := read_congr (contents_nextFate d) h.file
  have hle := d.nextFate.2.room_le (d.read h.file).length bytes.length
  have hend' : h.position.getD (d.read h.file).length = (d.read h.file).length := hend
  unfold write at hfault ⊢
  simp only [hread, hend'] at hfault ⊢
  split at hfault
  · exact nomatch hfault
  · next hfits =>
    split at hfault
    · exact nomatch hfault
    · next hfate =>
      -- No byte was held back by the limit, and none by the fate.
      have hfull : d.nextFate.2.room (d.read h.file).length bytes.length = bytes.length := by omega
      have hnone : d.nextFate.1 = none := by simpa using hfate
      rw [hfull, hnone, List.take_length, overwrite_length, if_neg (Nat.lt_irrefl _)]
      rfl

/-- A write that goes through at the end of a file extends it. -/
theorem write_ok (hfile : h.file < d.contents.length) (hend : d.WritesAtEnd h)
    (hfault : (d.write h bytes).fault = none) :
    d.Extends h bytes (d.write h bytes).disk (d.write h bytes).handle := by
  have hread : (d.nextFate.2.withContent h.file (d.read h.file ++ bytes)).read h.file
      = d.read h.file ++ bytes :=
    read_withContent (by rwa [contents_nextFate]) _
  rw [write_eq hend hfault]
  refine ⟨rfl, hread, ?_, entries_nextFate d, ?_⟩
  · unfold WritesAtEnd at hend ⊢
    show (h.position.map (· + bytes.length)).getD _ = _
    rw [hread, List.length_append]
    -- A place of its own moves on by as much as the file grows.
    cases hposition : h.position with
    | none => rfl
    | some position =>
      rw [hposition] at hend
      exact congrArg (· + bytes.length) hend
  · show (d.nextFate.2.contents.set h.file _).length = _
    rw [List.length_set, contents_nextFate]

/-- Pieces that all go through extend the file by all of them. -/
theorem writeAll_ok {pieces : List Bytes} (hfile : h.file < d.contents.length)
    (hend : d.WritesAtEnd h) (hfault : (d.writeAll h pieces).fault = none) :
    d.Extends h pieces.flatten (d.writeAll h pieces).disk (d.writeAll h pieces).handle := by
  induction pieces generalizing d h with
  | nil => exact extends_refl hend
  | cons piece pieces ih =>
    rw [List.flatten_cons]
    rw [writeAll] at hfault ⊢
    cases hwrite : d.write h piece with
    | mk fault next disk =>
      rw [hwrite] at hfault
      cases fault with
      | some why => exact nomatch hfault
      | none =>
        have hfirst : d.Extends h piece disk next := by
          have hok : d.Extends h piece (d.write h piece).disk (d.write h piece).handle :=
            write_ok hfile hend (by rw [hwrite])
          rwa [hwrite] at hok
        refine hfirst.trans (ih ?_ hfirst.atEnd hfault)
        rw [hfirst.file, hfirst.count]
        exact hfile

/-! ### Writing that breaks off -/

/-- A write at the end of a file, whether it goes through or not, extends the file
by what was written. -/
theorem write_extends (hfile : h.file < d.contents.length) (hend : d.WritesAtEnd h)
    (bytes : Bytes) :
    ∃ written, written <+: bytes
      ∧ d.Extends h written (d.write h bytes).disk (d.write h bytes).handle := by
  have hread := read_congr (contents_nextFate d) h.file
  have hend' : h.position.getD (d.read h.file).length = (d.read h.file).length := hend
  have hle := d.nextFate.2.room_le (d.read h.file).length bytes.length
  obtain ⟨taken, htaken, hdisk, hhandle⟩ : ∃ taken, taken ≤ bytes.length
      ∧ (d.write h bytes).disk
          = d.nextFate.2.withContent h.file (d.read h.file ++ bytes.take taken)
      ∧ (d.write h bytes).handle = { h with position := h.position.map (· + taken) } := by
    unfold write
    simp only [hread, hend', overwrite_length]
    cases d.nextFate.1 with
    | none => exact ⟨_, hle, rfl, rfl⟩
    | some n => exact ⟨_, Nat.le_trans (Nat.min_le_right _ _) hle, rfl, rfl⟩
  have hnew : (d.write h bytes).disk.read h.file = d.read h.file ++ bytes.take taken := by
    rw [hdisk]
    exact read_withContent (by rwa [contents_nextFate]) _
  refine ⟨bytes.take taken, List.take_prefix taken bytes, ?_, hnew, ?_, ?_, ?_⟩
  · rw [hhandle]
  · rw [WritesAtEnd, hhandle, hnew, List.length_append, List.length_take_of_le htaken]
    -- A place of its own moves on by as much as was written.
    cases hposition : h.position with
    | none => rfl
    | some position =>
      rw [hposition] at hend'
      exact congrArg (· + taken) hend'
  · rw [hdisk]
    exact entries_nextFate d
  · rw [hdisk]
    show (d.nextFate.2.contents.set h.file _).length = _
    rw [List.length_set, contents_nextFate]

/-- Of pieces written one after the other, a part from the start gets into the
file. -/
theorem writeAll_extends (hfile : h.file < d.contents.length) (hend : d.WritesAtEnd h)
    (pieces : List Bytes) :
    ∃ written, written <+: pieces.flatten
      ∧ d.Extends h written (d.writeAll h pieces).disk (d.writeAll h pieces).handle := by
  induction pieces generalizing d h with
  | nil => exact ⟨[], List.nil_prefix, extends_refl hend⟩
  | cons piece pieces ih =>
    obtain ⟨first, hfirst, hextends⟩ := write_extends hfile hend piece
    rw [List.flatten_cons, writeAll]
    cases hwrite : d.write h piece with
    | mk fault next disk =>
      rw [hwrite] at hextends
      cases fault with
      | some why => exact ⟨first, hfirst.trans (List.prefix_append _ _), hextends⟩
      | none =>
        -- The piece went through, so that the others come right after it.
        have hwhole : d.Extends h piece disk next := by
          have hok : d.Extends h piece (d.write h piece).disk (d.write h piece).handle :=
            write_ok hfile hend (by rw [hwrite])
          rwa [hwrite] at hok
        obtain ⟨later, hlater, hextends'⟩ := ih (by rw [hwhole.file, hwhole.count]; exact hfile)
          hwhole.atEnd
        exact ⟨piece ++ later, (List.prefix_append_right_inj piece).2 hlater,
          hwhole.trans hextends'⟩

end Idempotency.Disk
