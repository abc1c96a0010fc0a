import Conform.Report.Diagnostic

/-!
Options of a validator, within their limits.
-/
namespace Conform

structure Options where
  maxWorkers : Nat := 1
  parallelMinChildren : Nat := 8
  /-- Whether a schema node that failed before is left out of the report. -/
  collapseRepeats : Bool := false
  reportLevel : Severity := .info
  deriving DecidableEq, Repr

namespace Options

def workerLimit : Nat := 256

def isParallel (o : Options) : Bool := decide (1 < o.maxWorkers)

/-- An integer of at least one and at most `most`. -/
def natural (path : String) (most : Option Nat) (v : Value) : Except Fault Nat :=
  match v with
  | .int n =>
    if n < 1 then .error (.setting path "must be >= 1")
    else
      match most with
      | some m => if m < n then .error (.setting path ("must be <= " ++ toString m)) else .ok n.toNat
      | none => .ok n.toNat
  | v => .error (.setting path ("expected integer, got " ++ v.typeName))

def flag (path : String) (v : Value) : Except Fault Bool :=
  match v with
  | .bool b => .ok b
  | _ => .error (.setting path "expected boolean")

def field (fields : Members) (name : String) (default : Value) : Value :=
  (fields.get? name).getD default

def fieldNames : List String :=
  ["max_workers", "parallel_min_children", "suppress_repeated_schema_faults", "report_log_level"]

/-- Options of the fields given, by default for the others. -/
def ofMembers (fields : Members) : Except Fault Options := do
  let base : Options := {}
  let maxWorkers ← natural "EngineOptions.max_workers" (some workerLimit)
    (field fields "max_workers" (.int base.maxWorkers))
  let parallelMinChildren ← natural "EngineOptions.parallel_min_children" none
    (field fields "parallel_min_children" (.int base.parallelMinChildren))
  let collapseRepeats ← flag "EngineOptions.suppress_repeated_schema_faults"
    (field fields "suppress_repeated_schema_faults" (.bool base.collapseRepeats))
  let reportLevel ← Severity.ofValue (field fields "report_log_level" (.str base.reportLevel.name))
  return { maxWorkers, parallelMinChildren, collapseRepeats, reportLevel }

/-- Options of fields that must all be known. -/
def ofFields (fields : Members) : Except Fault Options :=
  match fields.find? fun f => !fieldNames.contains f.1 with
  | some f => .error (.unknownField f.1)
  | none => ofMembers fields

/-- Options of the engine section of a configuration; its level is read before all else. -/
def ofConfig (config : Members) : Except Fault Options :=
  match field config "engine" (.obj []) with
  | .obj section_ => do
    let _ ← Severity.ofValue (field section_ "report_log_level" (.str "INFO"))
    ofMembers section_
  | _ => .error (.setting "engine" "expected object")

end Options

end Conform
