import Idempotency.Text.Utf8

/-!
# `Idempotency.Disk.Path`: names of files

A path is a list of names with slashes between them. Empty names and single
dots say nothing: `Path.parts` leaves them out, and a path that ends in one can
only name a directory. Two dots go up.

What says nothing still takes its place in the text, and a disk refuses a path
whose text is too long. So a path keeps every piece of its text.

`Path.withExtension` names a file beside another one: what follows the last
dot of the name is replaced, or an extension is added when there is no such
dot or it is the first character. A file that has the extension already is
named as it was. A name of two dots and a word, such as `..log`, is the
exception: without its extension it goes up, and that is where the path leads.
-/

set_option autoImplicit false

namespace Idempotency

/-- The pieces of text between slashes. A path from the top starts with an
empty one. -/
structure Path where
  pieces : List String
  deriving DecidableEq

namespace Path

/-- The pieces of a text between slashes. -/
def split : List Char → List (List Char)
  | [] => [[]]
  | '/' :: rest => [] :: split rest
  | c :: rest =>
    match split rest with
    | [] => [[c]]
    | piece :: later => (c :: piece) :: later

/-- The path that a text stands for. -/
def ofText (text : String) : Path := ⟨(split text.toList).map String.ofList⟩

/-- Whether a piece says nothing. -/
def isVoid (piece : String) : Bool := piece == "" || piece == "."

/-- The names from the top directory down to a file or directory. -/
def parts (p : Path) : List String := p.pieces.filter (!isVoid ·)

/-- Whether the path can only name a directory. -/
def isDirectory (p : Path) : Bool := p.pieces.getLast?.all isVoid

/-- How many bytes pieces have with a slash between each two of them. -/
def joinedLength : List String → Nat
  | [] => 0
  | [piece] => (Text.encodeString piece).length
  | piece :: later => (Text.encodeString piece).length + 1 + joinedLength later

/-- How many bytes the text has. -/
def length (p : Path) : Nat := joinedLength p.pieces

/-- The pieces from the last name on back to the first piece. -/
def fromLast (p : Path) : List String := p.pieces.reverse.dropWhile isVoid

/-- The directory that the path is in; the top directory is in none. -/
def parent? (p : Path) : Option Path :=
  match p.fromLast with
  | [] => none
  | _ :: before => some ⟨(before.dropWhile isVoid).reverse⟩

/-- A file's name up to its extension. A dot in front starts no extension. -/
def stem (name : List Char) : List Char :=
  match (name.reverse.dropWhile (· ≠ '.')).tail.reverse with
  -- There is no dot, or nothing before the only one.
  | [] => name
  | before => before

/-- A file's name with another extension. -/
def extended (name extension : List Char) : List Char :=
  -- The dot before an extension stays when the extension goes, and a second
  -- one in front of it makes a name that goes up and takes no extension.
  if stem name = ['.'] then ['.', '.'] else stem name ++ '.' :: extension

/-- The path of a file that differs only in its extension. -/
def withExtension (p : Path) (extension : String) : Path :=
  match p.fromLast with
  | [] => p
  | name :: before =>
    ⟨before.reverse ++ [String.ofList (extended name.toList extension.toList)]⟩

/-- Whether a disk takes the name: it is at most 255 bytes long. -/
def isName (name : String) : Bool := (Text.encodeString name).length ≤ 255

/-- Whether a disk takes the path: its text is at most 4095 bytes long and does
not have the character that ends names on disk. -/
def isValid (p : Path) : Bool :=
  p.length ≤ 4095 && p.pieces.all fun piece => !piece.toList.contains '\x00'

end Path

end Idempotency
