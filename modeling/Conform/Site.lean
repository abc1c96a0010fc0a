import Conform.Report.Basic
import Conform.Value.Classify
import Conform.Value.Equality

/-!
Sites: one schema node set against one value, with the places of both and the references followed
to get there. A child begins a new trail; following a reference extends it.
-/
namespace Conform

structure Site where
  schema : Value
  value : Value
  path : Pointer := .root
  location : Location := {}
  /-- The targets of the references followed at this value, each with the path of the value. -/
  trail : List (Location × Pointer) := []
  /-- Whether children may be judged side by side. -/
  pooled : Bool := false
  deriving Repr

namespace Site

/-- The site of an element or a member. -/
def child (s : Site) (schema value : Value) (token : Token) (steps : List Token) : Site :=
  ⟨schema, value, s.path.append [token], s.location.append steps, [], false⟩

/-- The same value against another schema node. -/
def under (s : Site) (schema : Value) (location : Location) : Site :=
  { s with schema, location }

/-- The same value against the target of a reference. -/
def follow (s : Site) (schema : Value) (location : Location) : Site :=
  { s with schema, location, trail := s.trail ++ [(location, s.path)] }

/-- The same value against a schema node that is only tried. -/
def scratch (s : Site) (schema : Value) (location : Location) : Site :=
  { s with schema, location, pooled := false }

/-- The keyword members of the schema node. -/
def node (s : Site) : Except Fault Members :=
  match s.schema with
  | .obj ms => .ok ms
  | v => .error (.schemaShape (some s.location) v.typeName)

/-- The kind of the value. -/
def kind (s : Site) : Except Fault Kind := Kind.classify s.value

def diagnostic (s : Site) (message : String) (keyword : Option String) (details : Members)
    (level : Severity := .error) (domain : Domain := .validation) : Diagnostic :=
  { level, message, path := s.path, keyword, schema := some s.location, domain, details }

end Site

/-- What is remarked about the work itself, apart from any report. -/
structure Note where
  source : String
  level : Severity
  message : String
  fields : Members
  deriving Repr

/-- A report being written, and the notes taken meanwhile, the latest first. -/
structure Journal where
  report : Report
  notes : List Note := []
  deriving Repr

namespace Journal

def log (j : Journal) (d : Diagnostic) : Journal := { j with report := j.report.log d }

def logAll (j : Journal) (ds : List Diagnostic) : Journal := { j with report := j.report.logAll ds }

/-- Adds notes in the order in which they were taken. -/
def note (j : Journal) (ns : List Note) : Journal := { j with notes := ns.reverse ++ j.notes }

end Journal

end Conform
