import Conform.Fault
import Conform.Text.Pieces

/-!
File paths, read into what they begin with and their parts. Empty parts and parts that are a
single point are never kept, so a path has one written form.
-/
namespace Conform

/-- What a path begins with. Exactly two slashes are told apart from one; more are one. -/
inductive Anchor where
  | working | root | doubleRoot
  deriving DecidableEq, Repr

namespace Anchor

def text : Anchor → String
  | .working => ""
  | .root => "/"
  | .doubleRoot => "//"

def ofSlashes : Nat → Anchor
  | 0 => .working
  | 2 => .doubleRoot
  | _ => .root

end Anchor

structure Path where
  anchor : Anchor
  parts : List String
  deriving DecidableEq, Repr

namespace Path

def isKept (part : List Char) : Bool := part != [] && part != ['.']

def parse (s : String) : Path :=
  ⟨.ofSlashes (s.toList.takeWhile (· == '/')).length,
    ((Text.pieces '/' s.toList).filter isKept).map String.ofList⟩

def text (p : Path) : String :=
  if p.anchor = .working ∧ p.parts = [] then "."
  else p.anchor.text ++ String.intercalate "/" p.parts

def isAbsolute (p : Path) : Bool := p.anchor != .working

/-- A path seen from another one. -/
def join (base p : Path) : Path :=
  if p.isAbsolute then p else ⟨base.anchor, base.parts ++ p.parts⟩

def parent (p : Path) : Path := ⟨p.anchor, p.parts.dropLast⟩

/-- Goes one part on; two points leave the last part again, if there is one to leave. -/
def walk (anchor : Anchor) (parts : List String) (part : String) : List String :=
  if part ≠ ".." then parts ++ [part]
  else
    match parts.getLast? with
    | none => if anchor = .working then [part] else []
    | some last => if last = ".." then parts ++ [part] else parts.dropLast

/-- The path without detours. -/
def normalized (p : Path) : Path := ⟨p.anchor, p.parts.foldl (walk p.anchor) []⟩

/-- The path from the root on, seen from a directory. -/
def resolved (directory p : Path) : Path := { (directory.join p).normalized with anchor := .root }

/-- Whether `p` is the path or leads to it. -/
def leadsTo (p q : Path) : Bool := p.anchor == q.anchor && p.parts.isPrefixOf q.parts

end Path

/-- What a process takes from around it: its directory, its variables, and what the password
database has for directories: those of users by their names, and that of the user it runs as, if
there is such an entry. -/
structure Surroundings where
  directory : Path
  vars : List (String × String) := []
  homes : List (String × String) := []
  ownHome : Option String := none
  deriving Repr

namespace Surroundings

def get? (s : Surroundings) (name : String) : Option String := s.vars.lookup name

/-- A user's directory without the slashes at its end. -/
def bareHome (directory : String) : String :=
  let cs := (directory.toList.reverse.dropWhile (· == '/')).reverse
  if cs.isEmpty then "/" else String.ofList cs

/-- What stands for a part that begins with a tilde. A bare one stands for what the variable says,
empty or not; only without the variable the password database is asked. -/
def home? (s : Surroundings) (part : String) : Option String :=
  match part.toList.drop 1 with
  | [] => ((s.get? "HOME").or s.ownHome).map bareHome
  | name => (s.homes.lookup (String.ofList name)).map bareHome

/-- Whether a text holds the character that no name of the system may hold. -/
def holdsNull (text : String) : Bool := text.toList.contains '\x00'

def nullFault : Fault := .badValue "embedded null byte"

/-- Puts a user's directory in the place of a tilde at the beginning. -/
def expandHome (s : Surroundings) (p : Path) : Except Fault Path :=
  match p.parts with
  | first :: rest =>
    if p.anchor = .working ∧ first.toList.head? = some '~' then
      if holdsNull first then .error nullFault
      else match s.home? first with
      | none => .error .noHome
      | some home =>
        if home.toList.head? = some '~' then .error .noHome
        else .ok ⟨(Path.parse home).anchor, (Path.parse home).parts ++ rest⟩
    else .ok p
  | [] => .ok p

def isNameChar (c : Char) : Bool := c.isAlphanum || c == '_'

/-- The variable named behind a dollar sign, with or without braces, and what follows it. -/
def variableName? (cs : List Char) : Option (String × List Char) :=
  match cs with
  | '{' :: r =>
    match r.dropWhile (· != '}') with
    | _ :: rest => some (String.ofList (r.takeWhile (· != '}')), rest)
    | [] => none
  | _ =>
    match cs.takeWhile isNameChar with
    | [] => none
    | name => some (String.ofList name, cs.dropWhile isNameChar)

def expandFrom (s : Surroundings) : Nat → List Char → List Char
  | 0, cs => cs
  | _ + 1, [] => []
  | fuel + 1, c :: r =>
    match c == '$', variableName? r with
    | true, some (name, rest) =>
      let written := c :: r.take (r.length - rest.length)
      ((s.get? name).map String.toList).getD written ++ expandFrom s fuel rest
    | _, _ => c :: expandFrom s fuel r

/-- Puts the values of variables in the place of their names; unknown names stay as they are. -/
def expandVariables (s : Surroundings) (text : String) : String :=
  String.ofList (s.expandFrom text.length text.toList)

end Surroundings

end Conform
