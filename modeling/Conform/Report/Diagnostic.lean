import Conform.Fault
import Conform.Json.Writer
import Conform.Text.Blank
import Conform.Text.Case

/-!
Diagnostics: one message about one place of a document, with its severity and its origin.
-/
namespace Conform

inductive Severity where
  | debug | info | warning | error | fatal
  deriving DecidableEq, Repr

namespace Severity

def all : List Severity := [.debug, .info, .warning, .error, .fatal]

def rank : Severity → Nat
  | .debug => 10
  | .info => 20
  | .warning => 30
  | .error => 40
  | .fatal => 50

def name : Severity → String
  | .debug => "DEBUG"
  | .info => "INFO"
  | .warning => "WARNING"
  | .error => "ERROR"
  | .fatal => "FATAL"

/-- Whether `s` is at least as severe as the threshold `t`. -/
def reaches (s t : Severity) : Bool := decide (t.rank ≤ s.rank)

def lowerName (s : Severity) : String := Text.lower s.name

/-- Names are read in any letter case, with blanks around. -/
def ofValue (v : Value) : Except Fault Severity :=
  match v with
  | .str s =>
    match all.find? (·.name == Text.upper (Text.trim s)) with
    | some l => .ok l
    | none => .error (.severity v)
  | _ => .error (.severity v)

end Severity

/-- What a diagnostic is about. -/
inductive Domain where
  | validation | construction | reference
  | other (name : String)
  deriving DecidableEq, Repr

namespace Domain

def name : Domain → String
  | .validation => "validation"
  | .construction => "construction"
  | .reference => "ref"
  | .other s => s

def ofName (s : String) : Domain :=
  if s = "validation" then .validation
  else if s = "construction" then .construction
  else if s = "ref" then .reference
  else .other s

end Domain

structure Diagnostic where
  level : Severity := .error
  message : String
  path : Pointer := .root
  keyword : Option String := none
  schema : Option Location := none
  domain : Domain := .validation
  details : Members := []
  deriving Repr

namespace Diagnostic

def optional (s : Option String) : Value := (s.map Value.str).getD .null

/-- The diagnostic as a document. -/
def toValue (d : Diagnostic) : Value :=
  .obj [("level", .str d.level.lowerName), ("domain", .str d.domain.name),
    ("path", .str d.path.text), ("keyword", optional d.keyword),
    ("schema", optional (d.schema.map Location.text)), ("message", .str d.message),
    ("details", .obj d.details.sorted)]

def json (d : Diagnostic) : Except Fault String := Json.text d.toValue

def text (d : Diagnostic) : String :=
  (if d.path.isRoot then "<root>" else d.path.text) ++ ": " ++ d.message

/-- Whether the diagnostic says that a schema node could not be used. -/
def isConstruction (d : Diagnostic) : Bool := d.domain == .construction

end Diagnostic

end Conform
