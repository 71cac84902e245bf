import Idempotency.Disk.Path

/-!
# `Idempotency.Disk.Basic`: files and directories as a value

A disk gives locations to directories and files. What a file holds is kept
apart from where it is: a file that is open stays the same file when it is
removed or takes another's place, and whoever has it open goes on writing to
it. Two files at different locations never share what they hold.

Two things make a step of writing fail. A disk can have a limit on the length
of files; a write that would pass it writes what fits. And the fate of coming
steps can be set (`Disk.fates`): a step can go through, or fail after some
bytes of a write, or none, have reached the file. So every statement about
failures can speak about every step at which one can strike.
-/

set_option autoImplicit false

namespace Idempotency

/-- The names of the directories on the way, and the name of the thing
itself, from the top. -/
abbrev Location := List String

/-- What is at a location: a directory, or the file with a number. -/
inductive Entry
  | directory
  | file (number : Nat)
  deriving DecidableEq

/-- Why a step fails. -/
inductive Fault
  /-- There is nothing at the location. -/
  | missing
  /-- A file stands where a directory should. -/
  | notDirectory
  /-- A directory stands where a file should. -/
  | directory
  /-- The disk has no such names or paths. -/
  | badName
  /-- The file would become longer than the limit. -/
  | full
  /-- The step broke off, as its fate had it. -/
  | broken
  deriving DecidableEq

/-- What an operating system says about a step that failed is its own affair;
texts have this in its place. -/
def Fault.wording : String := "<os error>"

/-- Directories and files. File `n` holds `contents[n]`, and every file at a
location holds something, if only nothing. A fate of `none` lets a step go
through; `some n` breaks it off after `n` bytes. Steps beyond the last fate go
through. -/
structure Disk where
  entries : List (Location × Entry)
  contents : List Bytes
  limit : Option Nat
  fates : List (Option Nat)
  numbered : ∀ entry ∈ entries, ∀ n, entry.2 = .file n → n < contents.length

/-- An open file: its number, and where the next write goes. Without a place
of its own, that is the end of the file. -/
structure Handle where
  file : Nat
  position : Option Nat
  deriving DecidableEq

namespace Disk

/-- A disk with nothing but the top directory. -/
def empty : Disk := ⟨[], [], none, [], fun _ h => nomatch h⟩

instance : Inhabited Disk := ⟨empty⟩

/-! ### Locations -/

/-- What is at a location. -/
def entryAt (d : Disk) (place : Location) : Option Entry :=
  if place.isEmpty then some .directory
  else (d.entries.find? (·.1 == place)).map (·.2)

/-- The file at a location has its contents on the disk. -/
theorem lt_of_entryAt {d : Disk} {place : Location} {n : Nat}
    (h : d.entryAt place = some (.file n)) : n < d.contents.length := by
  unfold entryAt at h
  split at h
  · exact nomatch h
  · obtain ⟨entry, hfind, hentry⟩ := Option.map_eq_some_iff.1 h
    exact d.numbered entry (List.mem_of_find?_eq_some hfind) n hentry

/-- The disk with an entry at a location, in place of what was there. -/
def withEntry (d : Disk) (place : Location) (e : Entry)
    (he : ∀ n, e = .file n → n < d.contents.length) : Disk :=
  { d with
    entries := (place, e) :: d.entries.filter (·.1 != place)
    numbered := by
      intro entry h
      rcases List.mem_cons.1 h with rfl | h
      · exact he
      · exact d.numbered entry (List.mem_filter.1 h).1 }

/-- The disk with a directory at a location. -/
def withDirectory (d : Disk) (place : Location) : Disk := d.withEntry place .directory nofun

/-- The disk without the entry at a location and whatever is below it. -/
def withoutEntry (d : Disk) (place : Location) : Disk :=
  { d with
    entries := d.entries.filter fun entry => !place.isPrefixOf entry.1
    numbered := fun entry h => d.numbered entry (List.mem_filter.1 h).1 }

/-- Goes down through directories that exist. -/
def walk (d : Disk) : Location → List String → Except Fault Location
  | here, [] => .ok here
  | here, name :: names =>
    if name = ".." then d.walk here.dropLast names
    else if !Path.isName name then .error .badName
    else
      match d.entryAt (here ++ [name]) with
      | some .directory => d.walk (here ++ [name]) names
      | some (.file _) => .error .notDirectory
      | none => .error .missing

/-- Where a path leads, in a directory that exists. -/
def locate (d : Disk) (p : Path) : Except Fault Location :=
  if !p.isValid then .error .badName
  else
    match p.parts.getLast? with
    | none => .ok []
    | some name => do
      let here ← d.walk [] p.parts.dropLast
      if name = ".." then .ok here.dropLast
      else if !Path.isName name then .error .badName
      else .ok (here ++ [name])

/-- Goes down through directories and creates the missing ones. -/
def createOn (d : Disk) : Location → List String → Except Fault Unit × Disk
  | _, [] => (.ok (), d)
  | here, name :: names =>
    if name = ".." then d.createOn here.dropLast names
    else if !Path.isName name then (.error .badName, d)
    else
      match d.entryAt (here ++ [name]) with
      | some .directory => d.createOn (here ++ [name]) names
      | some (.file _) => (.error .notDirectory, d)
      | none => (d.withDirectory (here ++ [name])).createOn (here ++ [name]) names

/-- Creates a directory and those it is in, as far as they are missing. -/
def createDirectories (d : Disk) (p : Path) : Except Fault Unit × Disk :=
  if !p.isValid then (.error .badName, d) else d.createOn [] p.parts

/-- Creates the directory that a path is in. -/
def createParent (d : Disk) (p : Path) : Except Fault Unit × Disk :=
  match p.parent? with
  | none => (.ok (), d)
  | some parent => d.createDirectories parent

/-! ### Contents -/

/-- What a file holds. -/
def read (d : Disk) (file : Nat) : Bytes := d.contents.getD file []

/-- The disk with other contents in a file. -/
def withContent (d : Disk) (file : Nat) (content : Bytes) : Disk :=
  { d with
    contents := d.contents.set file content
    numbered := by simpa using d.numbered }

/-- The disk with one more file, an empty one at no location yet. -/
def withFile (d : Disk) : Disk :=
  { d with
    contents := d.contents ++ [[]]
    numbered := fun entry h n hn => by
      have := d.numbered entry h n hn
      simp only [List.length_append]
      omega }

/-- Creates an empty file at a location. -/
def create (d : Disk) (place : Location) : Nat × Disk :=
  (d.contents.length,
    d.withFile.withEntry place (.file d.contents.length)
      fun _ h => by cases h; simp [withFile])

/-- The file at a location, created if there is none. -/
def fileAt (d : Disk) (place : Location) : Except Fault Nat × Disk :=
  match d.entryAt place with
  | some .directory => (.error .directory, d)
  | some (.file n) => (.ok n, d)
  | none => let (n, d) := d.create place; (.ok n, d)

/-- The file that a path names, created if there is none. -/
def fileFor (d : Disk) (p : Path) : Except Fault Nat × Disk :=
  match d.locate p with
  | .error fault => (.error fault, d)
  | .ok place => if p.isDirectory then (.error .directory, d) else d.fileAt place

/-- Puts bytes at a position of a file's contents, over what was there; a gap
before them is filled with zeros. No bytes change nothing. -/
def overwrite (content : Bytes) (position : Nat) (bytes : Bytes) : Bytes :=
  if bytes.isEmpty then content
  else
    (content ++ List.replicate (position - content.length) 0).take position ++ bytes
      ++ content.drop (position + bytes.length)

/-! ### Steps of writing -/

/-- The fate of the next step. -/
def nextFate (d : Disk) : Option Nat × Disk :=
  match d.fates with
  | [] => (none, d)
  | fate :: fates => (fate, { d with fates := fates })

/-- The outcome of writing: what went wrong, if anything did, and the handle
and disk afterwards. -/
structure Written where
  fault : Option Fault
  handle : Handle
  disk : Disk

/-- How many of `count` bytes at a position the limit lets through. -/
def room (d : Disk) (position count : Nat) : Nat :=
  match d.limit with
  | none => count
  | some limit => min count (limit - position)

/-- Writes bytes through a handle. -/
def write (d : Disk) (h : Handle) (bytes : Bytes) : Written :=
  let (fate, d) := d.nextFate
  let content := d.read h.file
  let position := h.position.getD content.length
  -- The limit is on the place of a byte: a write below it goes through even
  -- in a file that is longer.
  let fits := d.room position bytes.length
  let taken := match fate with
    | none => fits
    | some n => min n fits
  { fault := if fits < bytes.length then some .full else if fate.isSome then some .broken else none
    handle := { h with position := h.position.map (· + taken) }
    disk := d.withContent h.file (overwrite content position (bytes.take taken)) }

/-- Writes one piece after the other, up to the first failure. -/
def writeAll (d : Disk) (h : Handle) : List Bytes → Written
  | [] => ⟨none, h, d⟩
  | piece :: pieces =>
    match d.write h piece with
    | ⟨none, h, d⟩ => d.writeAll h pieces
    | failed => failed

/-- Brings what was written to safety. -/
def sync (d : Disk) : Option Fault × Disk :=
  let (fate, d) := d.nextFate
  (if fate.isSome then some .broken else none, d)

/-- Opens a file to write it anew from the start. -/
def openFresh (d : Disk) (p : Path) : Except Fault Handle × Disk :=
  let (fate, d) := d.nextFate
  if fate.isSome then (.error .broken, d)
  else
    match d.fileFor p with
    | (.error fault, d) => (.error fault, d)
    | (.ok n, d) => (.ok ⟨n, some 0⟩, d.withContent n [])

/-- Opens a file to write at its end. -/
def openAppend (d : Disk) (p : Path) : Except Fault Handle × Disk :=
  match d.fileFor p with
  | (.error fault, d) => (.error fault, d)
  | (.ok n, d) => (.ok ⟨n, none⟩, d)

/-- Moves a file to another location in one step; a file that was there is
gone. -/
def rename (d : Disk) (source target : Path) : Option Fault × Disk :=
  let (fate, d) := d.nextFate
  if fate.isSome then (some .broken, d)
  else
    match d.locate source, d.locate target with
    | .ok source, .ok target =>
      match h : d.entryAt source with
      | some (.file n) =>
        if d.entryAt target = some .directory then (some .directory, d)
        -- The file keeps its number, so open handles follow it.
        else
          (none, (d.withoutEntry source).withEntry target (.file n)
            fun _ hn => by cases hn; exact lt_of_entryAt (d := d) h)
      | some .directory => (some .directory, d)
      | none => (some .missing, d)
    | .error fault, _ => (some fault, d)
    | _, .error fault => (some fault, d)

/-! ### Files as a whole -/

/-- What the file at a path holds. -/
def readFile (d : Disk) (p : Path) : Except Fault Bytes := do
  let place ← d.locate p
  match d.entryAt place with
  | some (.file n) => .ok (d.read n)
  | some .directory => .error .directory
  | none => .error .missing

/-- Removes what is at a path, a directory with all that is in it. -/
def remove (d : Disk) (p : Path) : Except Fault Disk := do
  let place ← d.locate p
  match d.entryAt place with
  | some _ => .ok (d.withoutEntry place)
  | none => .error .missing

/-- What is below a location, by the names from there on. -/
def below (d : Disk) (place : Location) : List (Location × Entry) :=
  d.entries.filterMap fun (inner, e) =>
    if place.isPrefixOf inner && inner != place then some (inner.drop place.length, e) else none

end Disk

end Idempotency
