import Conform.Log.Record

/-!
How logging is set up: for which logger, from which level on, in which form, and where to.
-/
namespace Conform.Log

structure Setup where
  level : Value := .str "WARNING"
  format : Value := .str "json"
  file : Option String := none
  toStderr : Bool := true
  logger : String := packageLogger
  queueSize : Value := .int 4096
  deriving Repr

namespace Setup

def fileOf : Option Value → Option String
  | some (.str s) => if s.isEmpty then none else some s
  | some (.path s) => some s
  | _ => none

/-- The setup that a configuration asks for. -/
def ofConfig (c : Members) : Except Fault Setup :=
  match (c.get? "observability").getD (.obj []) with
  | .obj ms =>
    let base : Setup := {}
    .ok { base with
      level := (Members.get? ms "log_level").getD base.level
      format := (Members.get? ms "log_format").getD base.format
      file := fileOf (Members.get? ms "log_file")
      toStderr := ((Members.get? ms "log_to_stderr").getD (.bool base.toStderr)).isTruthy }
  | _ => .error (.setting "observability" "expected object")

def formatOf (v : Value) : Except Fault Format :=
  match v with
  | .str s =>
    if s = "json" then .ok .json
    else if s = "text" then .ok .plain
    else unknown v
  | .arr _ | .obj _ => .error (.unhashable v.typeName)
  | v => unknown v
where
  unknown (v : Value) : Except Fault Format := do
    throw (.setting "log_format"
      ("expected one of ['json', 'text'], got " ++ (← v.writtenLiteral)))

def queueSizeOf (v : Value) : Except Fault Int :=
  match v with
  | .int n => if n ≤ 0 then .error (.setting "queue_size" "must be > 0") else .ok n
  | _ => .error (.setting "queue_size" "expected integer")

/-- The level, the form and the size of the queue, if all of them are fit. -/
def check (s : Setup) : Except Fault (Int × Format × Int) := do
  let level ← levelOf s.level
  let format ← formatOf s.format
  let size ← queueSizeOf s.queueSize
  return (level, format, size)

end Setup

end Conform.Log
