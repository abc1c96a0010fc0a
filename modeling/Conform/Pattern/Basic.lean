import Conform.Fault
import Conform.Pattern.Reader
import Conform.Pattern.Matcher

/-!
Regular expressions that texts are searched with, and the texts of the problems that make a
pattern unusable.
-/
namespace Conform

structure Pattern where
  source : String
  body : List Pattern.Node
  flags : Pattern.Flags
  groups : Nat
  /-- The length of the shortest text that can match. -/
  least : Nat
  deriving Repr

namespace Pattern

/-- The longest text that a look behind may span. -/
def maxBehind : Nat := 2147483647

def loopName : Greed → String
  | .greedy => "MAX_REPEAT"
  | .lazy => "MIN_REPEAT"
  | .possessive => "POSSESSIVE_REPEAT"

def behindProblem : Option Width → Option Problem
  | none => none
  | some (least, most) =>
    if least ≠ most then some (.malformed "look-behind requires fixed-width pattern" none)
    else none

mutual

/-- The first node, in reading order, that no text can be matched with, however long texts may
be. -/
def firstProblem (template : Bool) : List Node → Option Problem
  | [] => none
  | n :: ns => nodeProblem template n <|> firstProblem template ns

def nodeProblem (template : Bool) : Node → Option Problem
  | .group _ _ _ body => firstProblem template body
  | .atomic body => firstProblem template body
  | .look behind _ body => behindProblem behind <|> firstProblem template body
  | .loop greed _ _ body =>
    if template then
      some (.malformed ("internal: unsupported template operator " ++ loopName greed) none)
    else firstProblem template body
  | .branch alternatives => branchProblem template alternatives
  | .choice _ yes no => firstProblem template yes <|> firstProblem template no
  | _ => none

def branchProblem (template : Bool) : List (List Node) → Option Problem
  | [] => none
  | a :: as => firstProblem template a <|> branchProblem template as

end

mutual

def looksTooFar : List Node → Bool
  | [] => false
  | n :: ns => n.looksTooFar || looksTooFar ns

def Node.looksTooFar : Node → Bool
  | .group _ _ _ body => Pattern.looksTooFar body
  | .atomic body => Pattern.looksTooFar body
  | .look behind _ body => behind.any (maxBehind < ·.1) || Pattern.looksTooFar body
  | .loop _ _ _ body => Pattern.looksTooFar body
  | .branch alternatives => branchLooksTooFar alternatives
  | .choice _ yes no => Pattern.looksTooFar yes || Pattern.looksTooFar no
  | _ => false

def branchLooksTooFar : List (List Node) → Bool
  | [] => false
  | a :: as => looksTooFar a || branchLooksTooFar as

end

/-- Reads and checks a pattern. -/
def parse (source : String) : Except Problem Pattern := do
  let src := source.toList.toArray
  let (parsed, _) ← (readPattern src).run {}
  match firstProblem parsed.flags.template parsed.body with
  | some problem => throw problem
  | none =>
    if looksTooFar parsed.body then throw .tooFarBehind
    let width := widthOf parsed.groups parsed.body
    return ⟨source, parsed.body, parsed.flags, parsed.groups.size, width.1⟩

/-- A message with its place; the line and the column are added when there are several lines. -/
def placed (source message : String) (place : Nat) : String :=
  let cs := source.toList
  let line := ((cs.take place).filter (· == '\n')).length + 1
  let column := ((cs.take place).reverse.takeWhile (· != '\n')).length + 1
  message ++ " at position " ++ toString place ++
    if cs.contains '\n' then
      " (line " ++ toString line ++ ", column " ++ toString column ++ ")"
    else ""

def Problem.toFault (source : String) : Problem → Fault
  | .malformed message (some place) => .pattern (placed source message place)
  | .malformed message none => .pattern message
  | .repetition => .repetition
  | .digitLimit n => .digitLimit n
  | .codeLimit => .tooLarge "Python int too large to convert to C int"
  | .tooFarBehind => .unusablePattern
  | .clash => .badValue "ASCII and UNICODE flags are incompatible"
  | .outOfSteps => .outOfSteps

def compile (source : String) : Except Fault Pattern :=
  match parse source with
  | .ok p => .ok p
  | .error problem => .error (problem.toFault source)

/-- What a match from a position on noted, if there is one. -/
def matchFrom? (p : Pattern) (text : Array Nat) (start : Nat) : Option Notes :=
  match matchSequence ⟨text, p.flags, false, none⟩ p.body start
    { marks := Array.replicate (2 * (p.groups - 1)) none, place := start } stop with
  | (true, r) => some r
  | (false, _) => none

/-- The first match. A pattern that matches no text shorter than some length is not tried on such,
nor where less is left of the text. -/
def find? (p : Pattern) (text : Array Nat) : Option Notes :=
  if text.size < p.least then none
  else
    match if p.least = 0 then none else searchTest? p.flags p.body with
    | some holds =>
      (List.range text.size).findSome? fun i =>
        if text[i]?.any holds then p.matchFrom? text i else none
    | none => (List.range (text.size - (p.least - 1) + 1)).findSome? (p.matchFrom? text)

/-- Whether some part of a text matches. A match with a tangled group is none to go by. -/
def search (p : Pattern) (s : String) : Except Fault Bool :=
  match p.find? (s.toList.map Char.toNat).toArray with
  | some r => if r.isTangled then .error .tangledGroup else .ok true
  | none => .ok false

/-- Whether one of some patterns matches. -/
def searchAny (s : String) : List Pattern → Except Fault Bool
  | [] => .ok false
  | p :: ps => do
    if ← p.search s then return true
    searchAny s ps

end Pattern

end Conform
