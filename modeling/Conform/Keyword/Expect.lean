import Conform.Checker.Basic
import Conform.Value.Written

/-!
The shapes that keyword values must have, and what is said of other values.
-/
namespace Conform.Expect

def number (keyword : String) (v : Value) : Except Fault Value :=
  match v with
  | .int _ => .ok v
  | .real x =>
    if x.isFinite then .ok v else .error (.malformed keyword "number must be finite")
  | _ => .error (.malformed keyword ("expected a number, got " ++ v.label))

/-- A number without sign; one with a fraction of zero counts as an integer. -/
def count (keyword : String) (v : Value) : Except Fault Nat :=
  let whole := match v with
    | .int n => some n
    | .real x => x.integer?
    | _ => none
  match whole with
  | some n =>
    if 0 ≤ n then .ok n.toNat
    else do
      let shown ← (Value.int n).written
      throw (.malformed keyword ("expected a non-negative integer, got " ++ shown))
  | none => .error (.malformed keyword ("expected a non-negative integer, got " ++ v.label))

def boolean (keyword : String) (v : Value) : Except Fault Bool :=
  match v with
  | .bool b => .ok b
  | _ => .error (.malformed keyword ("expected a boolean, got " ++ v.label))

def string (keyword : String) (v : Value) : Except Fault String :=
  match v with
  | .str s => .ok s
  | _ => .error (.malformed keyword ("expected a string, got " ++ v.label))

def schema (keyword : String) (v : Value) : Except Fault Members :=
  match v with
  | .obj ms => .ok ms
  | _ => .error (.malformed keyword ("expected a schema, got " ++ v.label))

def memberSchemas (keyword : String) : Members → Except Fault (List (String × Members))
  | [] => .ok []
  | (name, .obj ms) :: rest => (memberSchemas keyword rest).map ((name, ms) :: ·)
  | (name, v) :: _ =>
    .error (.malformed keyword
      ("member " ++ Text.quoted name ++ ": expected a schema, got " ++ v.label))

def schemaMap (keyword : String) (v : Value) : Except Fault (List (String × Members)) := do
  memberSchemas keyword (← schema keyword v)

def elementSchemas (keyword : String) : Nat → List Value → Except Fault (List Part)
  | _, [] => .ok []
  | i, .obj ms :: rest => (elementSchemas keyword (i + 1) rest).map (⟨some i, .obj ms⟩ :: ·)
  | i, v :: _ =>
    .error (.malformed keyword ("element " ++ toString i ++ ": expected a schema, got " ++ v.label))

/-- One schema, or several with their positions. -/
def schemas (keyword : String) (v : Value) : Except Fault (List Part) :=
  match v with
  | .obj ms => .ok [⟨none, .obj ms⟩]
  | .arr xs => elementSchemas keyword 0 xs
  | _ =>
    .error (.malformed keyword ("expected a schema or an array of schemas, got " ++ v.label))

/-- Every part must be a text. -/
def strings (keyword : String) : List Value → Except Fault (List String)
  | [] => .ok []
  | v :: vs => do
    let s ← string keyword v
    let ss ← strings keyword vs
    return s :: ss

end Conform.Expect
