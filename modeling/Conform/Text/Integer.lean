import Conform.Text.Blank
import Conform.Text.Digit

/-!
Integers in text: an optional sign and decimal digits of any script, with single underscores
between digits and blanks around.
-/
namespace Conform.Text

/-- The longest run of digits that is read or written. -/
def maxIntegerDigits : Nat := 4300

/-- Whether an integer has no more digits than are written. -/
def isWritable (n : Int) : Bool :=
  decide ((Nat.toDigits 10 n.natAbs).length ≤ maxIntegerDigits)

/-- The digit values of `digit (_? digit)*`. -/
def digitRun : List Char → Option (List Nat)
  | [] => none
  | [c] => (digitValue? c).map ([·])
  | c :: '_' :: r => do
    let d ← digitValue? c
    let ds ← digitRun r
    pure (d :: ds)
  | c :: r => do
    let d ← digitValue? c
    let ds ← digitRun r
    pure (d :: ds)

def natOfDigits (ds : List Nat) : Nat := ds.foldl (fun n d => 10 * n + d) 0

/-- Characters that may stand around an integer: of the control characters only those that move
on within a line or to another one. -/
def isIntegerBlank (c : Char) : Bool := isBlank c && !(28 ≤ c.toNat && c.toNat ≤ 31)

def isRunChar (c : Char) : Bool := isDecimalDigit c || c == '_'

/-- Why a text is no integer. -/
inductive IntegerProblem where
  | shape
  | tooLong (digits : Nat)
  deriving DecidableEq, Repr

/-- A run of digits that is too long counts before what follows it does. -/
def readInteger (s : String) : Except IntegerProblem Int :=
  let (negative, cs) := match s.toList.dropWhile isIntegerBlank with
    | '-' :: r => (true, r)
    | '+' :: r => (false, r)
    | r => (false, r)
  match digitRun (cs.takeWhile isRunChar) with
  | some ds =>
    if maxIntegerDigits < ds.length then .error (.tooLong ds.length)
    else if (cs.dropWhile isRunChar).all isIntegerBlank then
      let n : Int := natOfDigits ds
      .ok (if negative then -n else n)
    else .error .shape
  | none => .error .shape

def integer? (s : String) : Option Int := (readInteger s).toOption

end Conform.Text
