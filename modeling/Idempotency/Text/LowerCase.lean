import Idempotency.Text.Case

/-!
# `Idempotency.Text.LowerCase`: lower-casing a text

Every character goes to its lower-case form, by the table of `Text.Case`. Two
characters need more than the table. Capital I with a dot above becomes two
characters, since its dot would be lost. Capital sigma becomes the final form
at the end of a word and the medial form elsewhere; a word goes on across
whatever is `Case_Ignorable`, such as an apostrophe.
-/

set_option autoImplicit false

namespace Idempotency.Text

/-- The lower-case form of a character that has one of a single character;
every other character stays. -/
def lowerChar (c : Char) : Char :=
  match caseRuns.find? (·.covers c.toNat) with
  | some run => Char.ofNat (run.lower c.toNat)
  | none => c

/-- Whether the nearest character that decides about the end of a word has
case. -/
def meetsCased (cs : List Char) : Bool :=
  match cs.dropWhile isCaseIgnorable with
  | c :: _ => isCased c
  | [] => false

/-- Whether a word ends between the characters before (nearest first) and
the characters after. -/
def endsWord (before after : List Char) : Bool :=
  meetsCased before && !meetsCased after

/-- The lower-case form of a character among its neighbours. -/
def lowerAt (before : List Char) (c : Char) (after : List Char) : List Char :=
  if c = 'Σ' then (if endsWord before after then ['ς'] else ['σ'])
  else if c = 'İ' then ['i', '\u0307']
  else [lowerChar c]

/-- Lower-cases the rest of a text, given what stands before it (nearest
first). -/
def lowerFrom (before : List Char) : List Char → List Char
  | [] => []
  -- What stands before is looked at as it was given, not in lower case.
  | c :: after => lowerAt before c after ++ lowerFrom (c :: before) after

/-- The text in lower case. -/
def lowerChars (cs : List Char) : List Char := lowerFrom [] cs

/-- The text in lower case. -/
def lower (s : String) : String := String.ofList (lowerChars s.toList)

end Idempotency.Text
