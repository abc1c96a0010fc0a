import Conform.Config.Basic
import Conform.Validator

/-!
What a configuration must be, as a schema, and the issues of one that is not so.
-/
namespace Conform.Config

def sectionSchema (properties : Members) : Value :=
  .obj [("type", .str "object"), ("required", .bool true), ("additionalProperties", .bool false),
    ("properties", .obj properties)]

def integerSchema (limits : Members) : Value :=
  .obj ([("type", .str "integer"), ("required", .bool true)] ++ limits)

def flagSchema : Value := .obj [("type", .str "boolean"), ("required", .bool true)]

def wordSchema (words : List String) : Value :=
  .obj [("type", .str "string"), ("required", .bool true), ("enum", .arr (words.map .str))]

def schema : Value :=
  .obj [("type", .str "object"), ("additionalProperties", .bool false),
    ("properties", .obj
      [("meta", sectionSchema [("schema_version", integerSchema [("minimum", .int 1)])]),
        ("engine", sectionSchema
          [("max_workers", integerSchema
              [("minimum", .int 1), ("maximum", .int Options.workerLimit)]),
            ("parallel_min_children", integerSchema [("minimum", .int 1)]),
            ("suppress_repeated_schema_faults", flagSchema),
            ("report_log_level", wordSchema (Severity.all.map Severity.name))]),
        ("observability", sectionSchema
          [("log_level", wordSchema ["DEBUG", "INFO", "WARNING", "ERROR", "CRITICAL"]),
            ("log_format", wordSchema ["json", "text"]),
            ("log_file", .obj [("type", .str "string"), ("required", .bool true)]),
            ("log_to_stderr", flagSchema)])])]

/-- A number as compared with the version. -/
def versionNumber? : Value → Option Real
  | .bool b => some (.ofDecimal (.ofInt (if b then 1 else 0)))
  | .int n => some (.finite (Decimal.ofInt n))
  | .real x => some x
  | _ => none

/-- What to do about a configuration of a version, which has a text and a value. -/
def guidance (found : String) (x : Real) : String :=
  let older := "schema version " ++ found ++ " is older than supported " ++ toString version ++
    "; upgrade schema_engine.toml to the current schema"
  let newer := "schema version " ++ found ++ " is newer than supported " ++ toString version ++
    "; upgrade the schema-engine runtime"
  let current := "schema version is current"
  match x with
  | .nan => current
  | .infinite negative => if negative then older else newer
  | .finite d =>
    if d.lt (.ofInt version) then older
    else if (Decimal.ofInt version).lt d then newer
    else current

def guidanceFor (found : Value) : Except Fault String :=
  match versionNumber? found with
  | some x => found.written.map fun shown => guidance shown x
  | none => .error (.unordered found.typeName "int")

def dotted (p : Pointer) : String :=
  if p.isRoot then "<root>" else String.intercalate "." p.tokens

def issuesOf (r : Report) : List Issue :=
  (r.messages.filter (·.level.reaches .error)).map fun d => ⟨dotted d.path, d.message⟩

def versionOf (c : Members) : Option Value := Members.get? (sectionOf (c.get? "meta")) "schema_version"

/-- The issue of a configuration that is valid but of another version. -/
def versionIssues (c : Members) (isValid : Bool) : Except Fault (List Issue) :=
  match isValid, versionOf c with
  | true, some (.int n) =>
    if n = version then .ok []
    else (Value.int n).written.map fun shown =>
      [⟨"meta.schema_version", guidance shown (.finite (.ofInt n))⟩]
  | _, _ => .ok []

/-- A configuration that passed, or the issues of one that did not. -/
inductive Outcome where
  | accepted (config : Members)
  | rejected (issues : List Issue)
  deriving Repr

def validator : Except Fault Validator := Validator.make schema .known {} none "" []

def check (v : Value) : Except Fault Outcome :=
  match v with
  | .obj c => do
    let r ← ((← validator).validate v).2
    let issues := issuesOf r.report ++ (← versionIssues c r.isValid)
    return if issues.isEmpty && r.isValid then .accepted (ordered c) else .rejected issues
  | v => .ok (.rejected [⟨"<root>", "expected object, got " ++ v.typeName⟩])

/-- Insists on a configuration without issues. -/
def require (v : Value) : Except Fault Members := do
  match ← check v with
  | .accepted c => return c
  | .rejected issues => throw (.configInvalid issues)

end Conform.Config
