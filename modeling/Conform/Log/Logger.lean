import Conform.Log.Level

/-!
Loggers. A name with points in it lies below the names that end before the points; levels are
inherited from above, and records are passed on upwards as long as loggers propagate them.
-/
namespace Conform.Log

/-- What is attached to a logger: something that takes records and drops them, or the queue of a
numbered handle. -/
inductive Outlet where
  | silent
  | queue (handle : Nat)
  deriving DecidableEq, Repr

structure Logger where
  /-- Zero where the level is inherited. -/
  level : Int := 0
  propagates : Bool := true
  outlets : List Outlet := []
  deriving DecidableEq, Repr

/-- The name under which the root is kept. -/
def rootLogger : String := "root"

def loggerName (name : String) : String := if name.isEmpty then rootLogger else name

/-- What stands before the last point, if that is not nothing. -/
def beforeLastPoint (cs : List Char) : List Char :=
  ((cs.reverse.dropWhile (· != '.')).drop 1).reverse

/-- The names above a name, the nearest first. A point right before another one does not count. -/
def namesAbove : Nat → List Char → List String
  | 0, _ => []
  | fuel + 1, cs =>
    match beforeLastPoint cs with
    | [] => []
    | above => String.ofList above :: namesAbove fuel above.dropLast

/-- A name and all that it lies below, up to the root. -/
def lineage (name : String) : List String :=
  if name = rootLogger then [rootLogger]
  else name :: namesAbove name.length name.toList ++ [rootLogger]

abbrev Loggers := List (String × Logger)

namespace Loggers

/-- At first there is only the root, which lets warnings through and drops all. -/
def initial : Loggers := [(rootLogger, ⟨warningLevel, true, [.silent]⟩)]

def get (ls : Loggers) (name : String) : Logger := (ls.lookup name).getD {}

def set (ls : Loggers) (name : String) (l : Logger) : Loggers :=
  (name, l) :: ls.filter (·.1 != name)

def effectiveLevel (ls : Loggers) (name : String) : Int :=
  (((lineage name).map fun n => (ls.get n).level).find? (· != 0)).getD 0

def isEnabled (ls : Loggers) (name : String) (level : Int) : Bool :=
  decide (ls.effectiveLevel name ≤ level)

/-- The loggers that a record reaches, up to the first that does not propagate. -/
def reached (ls : Loggers) : List String → List Logger
  | [] => []
  | n :: ns => if (ls.get n).propagates then ls.get n :: ls.reached ns else [ls.get n]

/-- All that is attached where a record of a logger goes. -/
def outletsOf (ls : Loggers) (name : String) : List Outlet :=
  (ls.reached (lineage name)).flatMap (·.outlets)

end Loggers

end Conform.Log
