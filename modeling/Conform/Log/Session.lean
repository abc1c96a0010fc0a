import Conform.Log.Correlation
import Conform.Log.Logger
import Conform.Log.Queue
import Conform.Log.Setup
import Conform.Validator

/-!
Logging sessions: the loggers, the setups made so far, the scopes entered, and what was written.
A record is stamped with the correlation fields in force, put into the queue of the live setup and
written to its file and to the error stream.
-/
namespace Conform.Log

/-- A setup in force, or one that was. -/
structure Handle where
  logger : String
  level : Int
  format : Format
  file : Option String
  toStderr : Bool
  queue : Queue Record
  isShutdown : Bool := false
  deriving Repr

structure Session where
  loggers : Loggers := .initial
  handles : List Handle := []
  active : Option Nat := none
  /-- The fields of the scopes entered, the innermost first. -/
  scopes : List Correlation := []
  files : List (String × List String) := []
  stderr : List String := []
  deriving Repr

/-- A record as it is queued: its text written out, and stamped with the fields in force. -/
def Record.prepared (r : Record) (c : Correlation) : Except Fault Record := do
  let text ← r.text
  return { r with
    message := Record.onNewLine (Record.onNewLine text r.exception) r.stack
    args := []
    exception := none
    stack := none
    correlation := if c.isEmpty then r.correlation else some (.obj c.members) }

namespace Session

def correlation (s : Session) : Correlation := s.scopes.headD []

def enter (s : Session) (fields : Members) : Except Fault Session := do
  let c ← s.correlation.enter fields
  return { s with scopes := c :: s.scopes }

def leave (s : Session) : Session := { s with scopes := s.scopes.drop 1 }

def modifyLogger (s : Session) (name : String) (f : Logger → Logger) : Session :=
  { s with loggers := s.loggers.set name (f (s.loggers.get name)) }

def modifyHandle (s : Session) (n : Nat) (f : Handle → Handle) : Session :=
  { s with handles := s.handles.modify n f }

/-- Adds lines to a file, which is made if it is not there. -/
def append (s : Session) (file : String) (lines : List String) : Session :=
  match s.files.lookup file with
  | none => { s with files := s.files ++ [(file, lines)] }
  | some _ => { s with
      files := s.files.map fun f => if f.1 = file then (f.1, f.2 ++ lines) else f }

/-- Writes a record to all that a handle writes to. -/
def write (s : Session) (h : Handle) (r : Record) : Session :=
  match h.format.line r with
  | .error _ => s
  | .ok line =>
    let s := match h.file with
      | some f => s.append f [line]
      | none => s
    if h.toStderr then { s with stderr := s.stderr ++ [line] } else s

/-- Writes what waits in the queue of a handle. -/
def drain (s : Session) (n : Nat) : Session :=
  match s.handles[n]? with
  | none => s
  | some h =>
    let s := s.modifyHandle n fun h => { h with queue := { h.queue with waiting := [] } }
    h.queue.waiting.foldl (fun s r => s.write h r) s

/-- Queues a record with a handle that takes its level. -/
def offer (s : Session) (n : Nat) (r : Record) : Session :=
  match s.handles[n]? with
  | none => s
  | some h =>
    if h.level ≤ r.level then
      match r.prepared s.correlation with
      | .ok r => s.modifyHandle n fun h => { h with queue := h.queue.offer r }
      | .error _ => s
    else s

def deliver (s : Session) (r : Record) : Outlet → Session
  | .silent => s
  | .queue n => (s.offer n r).drain n

/-- Where nothing is attached, the text of warnings and worse goes to the error stream. -/
def lastResort (s : Session) (r : Record) : Session :=
  match decide (warningLevel ≤ r.level), r.text with
  | true, .ok text => { s with stderr := s.stderr ++ [text] }
  | _, _ => s

/-- The first extra field that is named like something the record itself knows. -/
def clash (r : Record) : Option String :=
  (r.extra.find? fun f =>
    Record.ownNames.contains f.1 || Record.writtenNames.contains f.1).map (·.1)

/-- Logs a record, if its logger is enabled for its level. -/
def emit (s : Session) (r : Record) : Session × Except Fault Unit :=
  if s.loggers.isEnabled r.logger r.level then
    match clash r with
    | some name => (s, .error (.reservedField name))
    | none =>
      match s.loggers.outletsOf r.logger with
      | [] => (s.lastResort r, .ok ())
      | outlets => (outlets.foldl (fun s o => s.deliver r o) s, .ok ())
  else (s, .ok ())

/-- Ends a setup: what waits is written, and its queue is taken from its logger. A second time
nothing happens. -/
def close (s : Session) (n : Nat) : Session :=
  match s.handles[n]? with
  | none => s
  | some h =>
    if h.isShutdown then s
    else
      ((s.drain n).modifyLogger h.logger fun l =>
        { l with outlets := l.outlets.filter (· != .queue n) }).modifyHandle n fun h =>
          { h with isShutdown := true }

/-- Ends the setup of a handle, or the active one. -/
def shutdown (s : Session) (handle : Option Nat) : Session :=
  match handle <|> s.active with
  | none => s
  | some n =>
    let s := s.close n
    if s.active = some n then { s with active := none } else s

/-- Ends the active setup, if there is one. -/
def retire (s : Session) : Session := { s.shutdown none with active := none }

def newHandle (c : Setup) (level : Int) (format : Format) (size : Int) : Handle :=
  ⟨loggerName c.logger, level, format, c.file, c.toStderr, .ofSize size, false⟩

/-- Puts a setup that was found fit into force. -/
def install (s : Session) (h : Handle) : Session :=
  let n := s.handles.length
  let s := match h.file with
    | some f => s.append f []
    | none => s
  let s := s.modifyLogger h.logger fun _ => ⟨h.level, false, [.queue n]⟩
  { s with handles := s.handles ++ [h], active := some n }

/-- Sets logging up: the active setup ends first, whether or not the new one is fit. -/
def setup (s : Session) (c : Setup) : Session × Except Fault Nat :=
  let s := s.retire
  match c.check with
  | .error f => (s, .error f)
  | .ok (level, format, size) =>
    (s.install (newHandle c level format size), .ok s.handles.length)

def ofNote (n : Note) : Record :=
  { logger := packageLogger ++ "." ++ n.source, level := n.level.rank, message := n.message,
    extra := n.fields }

/-- Logs the notes of a validation under its identifier. -/
def emitNotes (s : Session) (id : String) (notes : List Note) : Session :=
  let inside := { s with
    scopes := s.correlation.put "validation_id" id :: s.scopes }
  (notes.foldl (fun s n => (s.emit (ofNote n)).1) inside).leave

/-- Validates a value, logging what is noted. -/
def validate (s : Session) (id : String) (v : Validator) (value : Value) :
    Session × Except Fault Result :=
  let (notes, r) := v.validate value
  (s.emitNotes id notes, r)

end Session

end Conform.Log
