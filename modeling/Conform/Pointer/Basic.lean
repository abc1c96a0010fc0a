import Conform.Text.Pieces

/-!
Pointers into a document and locations of schema nodes. A pointer is a list of tokens; its text
puts a slash before each token and escapes slashes and tildes inside it.
-/
namespace Conform

/-- A step into a container: a member name or a position. -/
inductive Token where
  | name (s : String)
  | index (n : Int)
  deriving DecidableEq, Repr

def Token.text : Token → String
  | .name s => s
  | .index n => toString n

structure Pointer where
  tokens : List String := []
  deriving DecidableEq, Repr

namespace Pointer

def root : Pointer := ⟨[]⟩

def escapeChar (c : Char) : List Char :=
  if c = '~' then ['~', '0'] else if c = '/' then ['~', '1'] else [c]

def escape (cs : List Char) : List Char := cs.flatMap escapeChar

/-- Refuses a tilde that begins no escape. -/
def unescape : List Char → Option (List Char)
  | [] => some []
  | '~' :: '0' :: r => (unescape r).map ('~' :: ·)
  | '~' :: '1' :: r => (unescape r).map ('/' :: ·)
  | c :: r => if c = '~' then none else (unescape r).map (c :: ·)

def textChars (ts : List String) : List Char := ts.flatMap fun t => '/' :: escape t.toList

def text (p : Pointer) : String := String.ofList (textChars p.tokens)

def ofTokens (ts : List Token) : Pointer := ⟨ts.map Token.text⟩

def append (p : Pointer) (ts : List Token) : Pointer := ⟨p.tokens ++ ts.map Token.text⟩

def parent (p : Pointer) : Pointer := ⟨p.tokens.dropLast⟩

def isRoot (p : Pointer) : Bool := p.tokens.isEmpty

/-- Whether `q` lies at or below `p`. -/
def isParentOf (p q : Pointer) : Bool := p.tokens.isPrefixOf q.tokens

def lt (p q : Pointer) : Bool := decide (p.tokens < q.tokens)

def sorted (ps : List Pointer) : List Pointer := ps.mergeSort fun a b => !lt b a

end Pointer

/-- The position of a schema node: a document and a pointer inside it. -/
structure Location where
  uri : String := ""
  pointer : Pointer := .root
  deriving DecidableEq, Repr

namespace Location

def text (l : Location) : String := l.uri ++ "#" ++ l.pointer.text

def append (l : Location) (ts : List Token) : Location := ⟨l.uri, l.pointer.append ts⟩

def isParentOf (a b : Location) : Bool := a.uri == b.uri && a.pointer.isParentOf b.pointer

def lt (a b : Location) : Bool :=
  decide (a.uri < b.uri) || (a.uri == b.uri && a.pointer.lt b.pointer)

def sorted (ls : List Location) : List Location := ls.mergeSort fun a b => !lt b a

end Location

end Conform
