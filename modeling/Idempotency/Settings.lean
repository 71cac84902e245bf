import Idempotency.Journal.Basic
import Idempotency.Lifetime

/-!
# `Idempotency.Settings`: the configuration document

The document sets a lifetime for all modules, lifetimes for single modules,
and the place of a journal, each of which may be left out. A lifetime of
nothing or less counts as left out; one above a hundred years is refused.
A module's own lifetime goes before the common one, and that before the
standard one.
-/

set_option autoImplicit false

namespace Idempotency

/-- Lifetimes in seconds, and where records are kept. -/
structure Settings where
  defaultSeconds : Option Int64 := none
  moduleSeconds : SortedMap Int64 := .empty
  journalPath : Option String := none
  deriving DecidableEq

/-- Settings that leave everything out. -/
def Settings.standard : Settings := {}

/-- Why settings cannot be used. -/
inductive SettingsError
  /-- The document is not one of settings. -/
  | parse (reason : Json.Error)
  /-- The lifetime set under a name is too long. -/
  | outOfRange (scope : String) (seconds : Int64)
  /-- The journal does not open. -/
  | journal (path : String) (reason : Journal.OpenError)

namespace Settings

open Json (Field Structure)

/-- A hundred years of 365 days, in seconds. -/
def maxSeconds : Int := 100 * 365 * 24 * 60 * 60

/-- The name of the common lifetime. -/
def commonScope : String := "default_ttl_secs"

/-- The name of a module's own lifetime. -/
def moduleScope (moduleName : String) : String := "module_ttl_secs." ++ moduleName

/-- The lifetime set under a name. -/
def lifetimeOf (scope : String) (seconds : Option Int64) : Except SettingsError Span :=
  match seconds with
  | some n =>
    if 0 < n.toInt then
      if maxSeconds < n.toInt then .error (.outOfRange scope n) else .ok (.ofSeconds n.toInt)
    else .ok Lifetime.standard
  | none => .ok Lifetime.standard

/-- The lifetime for all modules without one of their own. -/
def commonLifetime (seconds : Option Int64) : Except SettingsError Span :=
  lifetimeOf commonScope seconds

/-- The lifetime for a module. -/
def lifetimeFor (s : Settings) (moduleName : String) : Except SettingsError Span :=
  match s.moduleSeconds.find? moduleName with
  | some n =>
    if 0 < n.toInt then lifetimeOf (moduleScope moduleName) (some n)
    else commonLifetime s.defaultSeconds
  | none => commonLifetime s.defaultSeconds

/-- Checks the common lifetime, and then those of the modules that are named,
in the order of their names. -/
def validate (s : Settings) : Except SettingsError Unit := do
  -- A module may set its own lifetime aside and fall back on the common one,
  -- so that one is checked whether or not it is used.
  let _ ← commonLifetime s.defaultSeconds
  s.moduleSeconds.keys.forM fun moduleName => do
    let _ ← s.lifetimeFor moduleName

/-! ### The document -/

/-- The text of a number of seconds. -/
def secondsText (n : Int64) : List Char := Decimal.integer n.toInt

/-- The text of settings. -/
def text (s : Settings) : List Char :=
  Json.braced
    [ Json.member "default_ttl_secs" ((s.defaultSeconds.map secondsText).getD Json.nullText),
      Json.member "module_ttl_secs"
        (Json.braced (s.moduleSeconds.entries.map fun entry =>
          Json.member entry.1 (secondsText entry.2))),
      Json.member "journal_path"
        ((s.journalPath.map fun path => Json.quote path.toList).getD Json.nullText) ]

/-- Settings of which some fields are known. -/
structure Draft where
  defaultSeconds : Option (Option Int64) := none
  moduleSeconds : Option (SortedMap Int64) := none
  journalPath : Option (Option String) := none

/-- The fields of settings. -/
def layout : Structure Draft Settings where
  title := "struct IdempotencyConfig"
  fields :=
    [ .of "default_ttl_secs" Draft.defaultSeconds (fun d v => { d with defaultSeconds := some v })
        (Json.readOptional Json.readInt64),
      .of "module_ttl_secs" Draft.moduleSeconds (fun d v => { d with moduleSeconds := some v })
        (Json.readMap Json.readInt64),
      .of "journal_path" Draft.journalPath (fun d v => { d with journalPath := some v })
        (Json.readOptional (Json.readStringAs "path string")) ]
  blank := {}
  finish d := .ok
    { defaultSeconds := d.defaultSeconds.getD none
      moduleSeconds := d.moduleSeconds.getD .empty
      journalPath := d.journalPath.getD none }
  closed := true
  defaulted := true

/-- The settings that a document stands for, if they can be used. -/
def ofText (cs : List Char) : Except SettingsError Settings := do
  match Json.readText layout.read cs with
  | .error reason => .error (.parse reason)
  | .ok s =>
    s.validate
    .ok s

end Settings

/-- The wording of a refusal to open the journal at a path. -/
def Journal.OpenError.message (path : String) : Journal.OpenError → String
  | .io _ => Fault.wording
  | .damaged damage => damage.message path

/-- The wording of a refusal of settings. -/
def SettingsError.message : SettingsError → String
  | .parse reason => "invalid idempotency config: " ++ reason.message
  | .outOfRange scope seconds =>
    "ttl for " ++ scope ++ " is " ++ String.ofList (Decimal.integer seconds.toInt)
      ++ "s, above the " ++ String.ofList (Decimal.integer Settings.maxSeconds) ++ "s maximum"
  | .journal path reason =>
    "failed to open idempotency journal " ++ path ++ ": " ++ reason.message path

end Idempotency
