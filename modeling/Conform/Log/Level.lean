import Conform.Fault
import Conform.Text.Blank
import Conform.Text.Case

/-!
Levels of log records: integers, of which some have names.
-/
namespace Conform.Log

/-- The names that are read; the first name of a number is the one that is written. -/
def levelNames : List (String × Int) :=
  [("CRITICAL", 50), ("FATAL", 50), ("ERROR", 40), ("WARNING", 30), ("WARN", 30), ("INFO", 20),
    ("DEBUG", 10), ("NOTSET", 0)]

def warningLevel : Int := 30

def levelName (n : Int) : String :=
  match levelNames.find? (·.2 == n) with
  | some (name, _) => name
  | none => "Level " ++ toString n

/-- A level given by its number, or by its name in any letter case with blanks around. -/
def levelOf (v : Value) : Except Fault Int :=
  match v with
  | .bool _ => .error (.setting "level" "expected int or str")
  | .int n => .ok n
  | .str s =>
    match levelNames.lookup (Text.upper (Text.trim s)) with
    | some n => .ok n
    | none => .error (.setting "level" ("unsupported logging level " ++ Text.quoted s))
  | v => .error (.setting "level" ("expected int or str, got " ++ v.typeName))

end Conform.Log
