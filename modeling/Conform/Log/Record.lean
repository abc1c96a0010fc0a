import Conform.Json.Writer
import Conform.Log.Clock
import Conform.Log.Level
import Conform.Log.Normal
import Conform.Log.Template

/-!
Log records and their two written forms: one JSON object a line, or plain text with the fields in
brackets behind it.
-/
namespace Conform.Log

/-- The logger of the package, under which its modules log. -/
def packageLogger : String := "schema_engine"

structure Record where
  logger : String := packageLogger
  level : Int := 20
  message : String
  args : List Value := []
  created : Real := .finite ⟨false, 0, 0⟩
  correlation : Option Value := none
  extra : Members := []
  /-- The text of the error that the record reports. -/
  exception : Option String := none
  stack : Option String := none
  deriving Repr

/-- How an error is named in a record: its class, and its text if it has one. -/
def errorText (label message : String) : String :=
  let shown := (Fault.raised label message).message
  if shown.isEmpty then label else label ++ ": " ++ shown

namespace Record

/-- What a record itself knows, which no field can be named after. -/
def ownNames : List String :=
  ["args", "created", "exc_info", "exc_text", "filename", "funcName", "levelname", "levelno",
    "lineno", "module", "msecs", "msg", "name", "pathname", "process", "processName",
    "relativeCreated", "stack_info", "thread", "threadName"]

/-- What is worked out while a record is written. -/
def writtenNames : List String := ["message", "asctime"]

def isField (name : String) : Bool :=
  !(ownNames.contains name || writtenNames.contains name || name == "taskName" ||
    name == "correlation" || name.toList.head? == some '_')

/-- The extra fields in their plain form. -/
def fields (r : Record) : Members :=
  (r.extra.filter fun f => isField f.1).map fun f => (f.1, f.2.plain)

def correlationMembers (r : Record) : Members :=
  match r.correlation with
  | some (.obj ms) => ms
  | _ => []

/-- What is shown of a record's own; an extra field of the same name takes its place. -/
def shown (r : Record) (name : String) (own : Value) : Value := (r.extra.get? name).getD own

def levelShown (r : Record) : Value := r.shown "levelname" (.str (levelName r.level))

def source (r : Record) : Value := r.shown "name" (.str r.logger)

def stackText (r : Record) : Option String :=
  match r.extra.get? "stack_info" with
  | some (.str s) => some s
  | some _ => none
  | none => r.stack

/-- The text of the error in a plain line. -/
def errorLine (r : Record) : Option String :=
  match r.extra.get? "exc_text" with
  | some (.str s) => if s.isEmpty then r.exception else some s
  | _ => r.exception

def text (r : Record) : Except Fault String := do
  Template.render (← (r.shown "msg" (.str r.message)).written) r.args

/-- A member for a text that is there and not empty. -/
def optionalMember (name : String) : Option String → Members
  | some s => if s.isEmpty then [] else [(name, .str s)]
  | none => []

/-- The record as an object. Correlation fields stand beside the record's own members, and before
them where the names agree. -/
def event (r : Record) : Except Fault Members := do
  let time ← stamp r.created
  let text ← r.text
  let own : Members := [("timestamp", .str time), ("level", r.levelShown),
    ("logger", r.source), ("message", .str text)]
  let marks ← r.correlationMembers.sorted.mapM fun m =>
    m.2.written.map fun shown => (m.1, Value.str shown)
  let later := (if r.fields.isEmpty then [] else [("fields", .obj r.fields)]) ++
    (r.exception.map fun e => ("exception", Value.str e)).toList ++ optionalMember "stack" r.stackText
  return (marks ++ later).foldl (fun e m => e.put m.1 m.2) own

def jsonLine (r : Record) : Except Fault String := do Json.text (.obj (← r.event))

/-- Adds a text on a line of its own. -/
def onNewLine (line : String) : Option String → String
  | none => line
  | some s =>
    if s.isEmpty then line
    else if line.toList.getLast? = some '\n' then line ++ s
    else line ++ "\n" ++ s

def pairText (m : String × Value) : Except Fault String :=
  m.2.written.map fun shown => m.1 ++ "=" ++ shown

def plainLine (r : Record) : Except Fault String := do
  let text ← r.text
  let time ← plainStamp r.created
  let level ← r.levelShown.written
  let source ← r.source.written
  let head := time ++ " " ++ level ++ " " ++ source ++ ": " ++ text
  let line := onNewLine (onNewLine head r.errorLine) r.stackText
  let pairs := (r.fields.foldl (fun ps f => ps.put f.1 f.2) r.correlationMembers).sorted
  if pairs.isEmpty then return line
  return line ++ " [" ++ String.intercalate " " (← pairs.mapM pairText) ++ "]"

end Record

inductive Format where
  | json | plain
  deriving DecidableEq, Repr

def Format.line : Format → Record → Except Fault String
  | .json, r => r.jsonLine
  | .plain, r => r.plainLine

end Conform.Log
