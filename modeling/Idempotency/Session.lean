import Idempotency.Guard.Call
import Idempotency.Payload.Kind

/-!
# `Idempotency.Session`: steps performed on a service, and what they report

A session is a list of steps: operations on the store, on its journal, on the
clock and on files, and calls through guards. The operation of a call can
perform steps itself before it ends, which is how a race between callers is
played. Every step reports its reply, how many records the store holds
afterwards, and what was reported since the step before.
-/

set_option autoImplicit false

namespace Idempotency

namespace Session

/-- How the operation of a call ends: with a result, with a reason of its own,
or with a refusal that it passes on. -/
abbrev Ending (α : Type) := Except (Failure String) α

/-- A step. Where an instant may be left out, it is the clock's. -/
inductive Step
  | get (key : String) (moment : Option Instant)
  | put (r : Record)
  | purge (moment : Option Instant)
  | isEmpty
  /-- The record under a key of a store in memory, expired or not. -/
  | peek (key : String)
  /-- Stores a record in memory, whatever its key holds. -/
  | insert (r : Record)
  | compact (moment : Option Instant)
  | journalPath
  /-- Opens the journal again; if it does not open, the open one stays. -/
  | reopen (moment : Option Instant)
  | setClock (moment : Instant)
  | advanceClock (length : Span)
  | describeGuard (number : Nat)
  | setOutage (outage : Outage)
  | setLimit (limit : Option Nat)
  | showFile (path : String)
  | fillFile (path : String) (content : Bytes)
  | extendFile (path : String) (content : Bytes)
  | makeDirectory (path : String)
  | dropFile (path : String)
  | callRaw (number : Nat) (key requestHash : String) (inside : List Step)
      (ending : Ending Bytes)
  | call (number : Nat) (key requestHash : String) (kind : Kind) (inside : List Step)
      (ending : Ending kind.Value)
  | command (number : Nat) (key operation : String) (parts : List Part) (kind : Kind)
      (inside : List Step) (ending : Ending kind.Value)

/-- What a step replies. -/
inductive Reply
  | done
  | record (found : Option Record)
  | placement (placement : Placement)
  | count (n : Nat)
  | flag (b : Bool)
  | path (path : String)
  | instant (t : Instant)
  | guard (g : Guard)
  | bytes (content : Bytes)
  | fileContent (content : Bytes)
  | value (kind : Kind) (value : kind.Value)
  | refused (refusal : Refusal)
  | domain (reason : String)
  | notOpened (path : String) (reason : Journal.OpenError)
  | fault (fault : Fault)
  /-- The clock cannot go there. -/
  | clockOverflow
  /-- The store is of the other kind. -/
  | notSupported

/-- What a step leaves behind. `call` is there for calls through a guard:
whether the operation ran, what its steps reported, and the guard's
counters. -/
inductive Report
  | mk (reply : Reply) (size : Nat) (events : List Event)
      (call : Option (Bool × List Report × Tally))

/-- The reply to what a call gives. -/
def Reply.ofResult {α : Type} (reply : α → Reply) : Except (Failure String) α → Reply
  | .ok result => reply result
  | .error (.refused why) => .refused why
  | .error (.domain why) => .domain why

/-- The reply to what a store says about a record. -/
def Reply.ofPlacement : Except Refusal Placement → Reply
  | .ok outcome => .placement outcome
  | .error why => .refused why

/-- The reply to a step on the disk. -/
def Reply.ofFault : Option Fault → Reply
  | none => .done
  | some why => .fault why

/-- The report on a step that is no call. -/
def plainReport (reply : Reply) (s : Service) : Report × Service :=
  (.mk reply s.store.size s.reports none, { s with reports := [] })

/-- The report on a call. -/
def callReport {α : Type} (number : Nat) (reply : α → Reply)
    (answer : Answer (List Report) String α) : Report × Service :=
  let s := answer.service
  (.mk (.ofResult reply answer.result) s.store.size s.reports
      (some (answer.trace.isSome, answer.trace.getD [], (s.guard number).tally)),
    { s with reports := [] })

/-- Writes to a file that has been opened. -/
def writeThrough (s : Service) (opened : Except Fault Handle × Disk) (content : Bytes) :
    Reply × Service :=
  match opened with
  | (.error fault, d) => (.fault fault, { s with disk := d })
  | (.ok handle, d) =>
    let written := d.write handle content
    (.ofFault written.fault, { s with disk := written.disk })

/-- Compacts the journal. -/
def compact (s : Service) (moment : Instant) : Reply × Service :=
  match s.store with
  | .memory _ => (.notSupported, s)
  | .journal j =>
    let (dropped, j, events, d) := j.compact moment s.disk
    let s := { s with store := .journal j, disk := d }.report events
    match dropped with
    | .ok n => (.count n, s)
    | .error fault => (.fault fault, s)

/-- Opens the journal again. -/
def reopen (s : Service) (moment : Instant) : Reply × Service :=
  match s.store with
  | .memory _ => (.notSupported, s)
  | .journal j =>
    let (opened, events, d) := Journal.openAt j.path moment s.disk
    let s := { s with disk := d }.report events
    match opened with
    | .ok j => (.done, { s with store := .journal j })
    | .error reason => (.notOpened j.path reason, s)

mutual

/-- Performs a step. -/
def perform : Step → Service → Report × Service
  | .get key moment, s =>
    let (found, s) := s.get key (moment.getD s.now)
    plainReport (.record found) s
  | .put r, s =>
    let (placement, s) := s.put r
    plainReport (.ofPlacement placement) s
  | .purge moment, s =>
    let (count, s) := s.purge (moment.getD s.now)
    plainReport (.count count) s
  | .isEmpty, s => plainReport (.flag (s.store.size == 0)) s
  | .peek key, s => plainReport (.record (s.store.index.find? key)) s
  | .insert r, s =>
    plainReport .done { s with store := s.store.withIndex (s.store.index.store r) }
  | .compact moment, s =>
    let (reply, s) := compact s (moment.getD s.now)
    plainReport reply s
  | .journalPath, s =>
    match s.store with
    | .memory _ => plainReport .notSupported s
    | .journal j => plainReport (.path j.path) s
  | .reopen moment, s =>
    let (reply, s) := reopen s (moment.getD s.now)
    plainReport reply s
  | .setClock t, s => plainReport (.instant t) { s with now := t }
  | .advanceClock d, s =>
    match s.now.add? d with
    | some t => plainReport (.instant t) { s with now := t }
    | none => plainReport .clockOverflow s
  | .describeGuard number, s => plainReport (.guard (s.guard number)) s
  | .setOutage outage, s => plainReport .done { s with outage := outage }
  | .setLimit limit, s => plainReport .done { s with disk := { s.disk with limit := limit } }
  | .showFile path, s =>
    match s.disk.readFile (Path.ofText path) with
    | .ok content => plainReport (.fileContent content) s
    | .error fault => plainReport (.fault fault) s
  | .fillFile path content, s =>
    let (reply, s) := writeThrough s (s.disk.openFresh (Path.ofText path)) content
    plainReport reply s
  | .extendFile path content, s =>
    let (reply, s) := writeThrough s (s.disk.openAppend (Path.ofText path)) content
    plainReport reply s
  | .makeDirectory path, s =>
    match s.disk.createDirectories (Path.ofText path) with
    | (.ok (), d) => plainReport .done { s with disk := d }
    | (.error fault, d) => plainReport (.fault fault) { s with disk := d }
  | .dropFile path, s =>
    match s.disk.remove (Path.ofText path) with
    | .ok d => plainReport .done { s with disk := d }
    | .error fault => plainReport (.fault fault) s
  | .callRaw number key requestHash inside ending, s =>
    callReport number .bytes
      (s.callRaw number key requestHash fun s =>
        let (reports, s) := performAll inside s
        (ending, reports, s))
  | .call number key requestHash kind inside ending, s =>
    callReport number (.value kind)
      (s.call kind.codec number key requestHash fun s =>
        let (reports, s) := performAll inside s
        (ending, reports, s))
  | .command number key operation parts kind inside ending, s =>
    callReport number (.value kind)
      (s.command kind.codec number key operation parts fun s =>
        let (reports, s) := performAll inside s
        (ending, reports, s))

/-- Performs steps, one after the other. -/
def performAll : List Step → Service → List Report × Service
  | [], s => ([], s)
  | step :: steps, s =>
    let (report, s) := perform step s
    let (reports, s) := performAll steps s
    (report :: reports, s)

end

end Session

end Idempotency
