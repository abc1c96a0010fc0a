import Conform.Format.Basic
import Conform.Site

/-!
Checkers: what the keywords of a schema node ask of a value, bound to the site they were built
for. Tests look at the value alone and find at most one thing; the other conditions judge further
schema nodes.
-/
namespace Conform

/-- A schema among the alternatives or parts that a keyword lists, with its position if it was
listed. -/
structure Part where
  position : Option Nat
  schema : Value
  deriving Repr

inductive Test where
  | itemCount (keyword : String) (limit : Nat) (lower : Bool)
  | distinct
  | tupleLength (allowed : Nat)
  | bound (keyword : String) (limit : Value) (exclusive lower : Bool)
  | multiple (divisor : Value)
  | textLength (keyword : String) (limit : Nat) (lower : Bool)
  | pattern (p : Pattern)
  | required (names : List String)
  | closed (declared : List String) (patterns : List Pattern)
  | oneOf (values : List Value)
  | format (f : Format)
  deriving Repr

inductive Logic where
  | test (t : Test)
  /-- A format that is not known, hence not checked. -/
  | unknownFormat (name : String)
  /-- Some type name or some schema must hold, or, negated, none may. -/
  | types (keyword : String) (names : List String) (schemas : List Part) (negated : Bool)
  | extending (schemas : List Part)
  | dependencies (required : List (String × List String)) (schemas : List (String × Value))
  | reference (ref : String)
  /-- What a site is told and answered, whatever that answer is. -/
  | told (answer : Site → List Diagnostic × Except Fault Value)

inductive Checker where
  | always
  | never (reason : Option Diagnostic)
  | single (keyword : String) (logic : Logic) (site : Site)
  | all (members : List Checker)
  /-- A node and then every child of its array or object. -/
  | container (kind : Kind) (node : Checker) (site : Site)
  /-- A value of some type where a checker should be. -/
  | stray (typeName : String)

/-- What a builder hands back. -/
inductive Built where
  | checker (c : Checker)
  | logic (l : Logic)
  | plain (typeName : String)

/-- Makes what a keyword asks at a site, or fails; it may take notes. -/
abbrev Builder := Site → List Note × Except Fault Built

namespace Checker

/-- Checkers stand for themselves; logic is bound to its keyword and its site. -/
def ofBuilt (keyword : String) (site : Site) : Built → Except Fault Checker
  | .checker (.stray t) | .plain t => .error (.notBuilt keyword t)
  | .checker c => .ok c
  | .logic l => .ok (.single keyword l site)

def allOf : List Checker → Checker
  | [] => .always
  | [c] => c
  | cs => .all cs

end Checker

end Conform
