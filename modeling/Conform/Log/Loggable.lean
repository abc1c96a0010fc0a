import Conform.Json.Writer
import Conform.Log.Normal
import Conform.Value.Written

/-!
What a program may hand over with a log record, and the plain value that is kept of it. Beside the
values of documents there are tuples, frozen sets, and mappings whose names are anything at all.
-/
namespace Conform.Log

inductive Loggable where
  | null
  | bool (b : Bool)
  | int (n : Int)
  | real (x : Real)
  | str (s : String)
  | bytes (octets : List UInt8)
  | path (text : String)
  | list (items : List Loggable)
  | tuple (items : List Loggable)
  | set (frozen : Bool) (items : List Loggable)
  | mapping (members : List (Loggable × Loggable))
  /-- A thing of any other sort, held by its text and its literal. -/
  | other (text literal : String)
  deriving Repr, Inhabited

namespace Loggable

/-- A tuple of one element keeps its comma. -/
def tupleLiteral : List String → String
  | [part] => "(" ++ part ++ ",)"
  | parts => Value.joined "(" ")" parts

def setLiteral (frozen : Bool) (parts : List String) : String :=
  let inner := if parts.isEmpty then "" else Value.joined "\x7b" "\x7d" parts
  if frozen then "frozenset(" ++ inner ++ ")"
  else if parts.isEmpty then "set()" else inner

mutual

def literal : Loggable → String
  | .null => "None"
  | .bool b => Value.boolLiteral b
  | .int n => toString n
  | .real x => x.text
  | .str s => Text.quoted s
  | .bytes os => Text.quotedOctets os
  | .path s => "PosixPath(" ++ Text.quoted s ++ ")"
  | .list xs => Value.joined "[" "]" (literalList xs)
  | .tuple xs => tupleLiteral (literalList xs)
  | .set frozen xs => setLiteral frozen (literalList xs)
  | .mapping ms => Value.joined "\x7b" "\x7d" (literalMembers ms)
  | .other _ l => l

def literalList : List Loggable → List String
  | [] => []
  | x :: xs => x.literal :: literalList xs

def literalMembers : List (Loggable × Loggable) → List String
  | [] => []
  | (k, x) :: ms => (k.literal ++ ": " ++ x.literal) :: literalMembers ms

end

def text : Loggable → String
  | .str s | .path s | .other s _ => s
  | v => v.literal

mutual

/-- Whether no integer in a value has too many digits to be written. -/
def isPrintable : Loggable → Bool
  | .int n => Text.isWritable n
  | .list xs | .tuple xs | .set _ xs => isPrintableList xs
  | .mapping ms => isPrintableMembers ms
  | _ => true

def isPrintableList : List Loggable → Bool
  | [] => true
  | x :: xs => x.isPrintable && isPrintableList xs

def isPrintableMembers : List (Loggable × Loggable) → Bool
  | [] => true
  | (k, x) :: ms => k.isPrintable && (x.isPrintable && isPrintableMembers ms)

end

/-- The name that a member of a mapping is kept under. -/
def name (v : Loggable) : Except Fault String :=
  if v.isPrintable then .ok v.text else .error .unwritable

mutual

/-- The values of documents and what they hold. -/
def ofValue : Value → Loggable
  | .null => .null
  | .bool b => .bool b
  | .int n => .int n
  | .real x => .real x
  | .str s => .str s
  | .arr xs => .list (ofValues xs)
  | .obj ms => .mapping (ofMembers ms)
  | .bytes os => .bytes os
  | .set xs => .set false (ofValues xs)
  | .path s => .path s
  | .moment _ s => .other s s

def ofValues : List Value → List Loggable
  | [] => []
  | x :: xs => ofValue x :: ofValues xs

def ofMembers : List (String × Value) → List (Loggable × Loggable)
  | [] => []
  | (k, x) :: ms => (.str k, ofValue x) :: ofMembers ms

end

/-- Plain values in the order of their literals, all of which have to be written for that. -/
def ordered (xs : List Value) : Except Fault (List Value) :=
  if Value.areWritable xs then .ok (Value.sortedByLiteral xs) else .error .unwritable

mutual

/-- The plain value that is kept. Of two members that come under one name the later value stays,
in the place of the earlier one. -/
def normal : Loggable → Except Fault Value
  | .null => .ok .null
  | .bool b => .ok (.bool b)
  | .int n => .ok (.int n)
  | .real x => .ok (if x.isFinite then .real x else .str x.text)
  | .str s | .path s | .other s _ => .ok (.str s)
  | .bytes os => .ok (.str (Text.quotedOctets os))
  | .list xs | .tuple xs => (normalList xs).map .arr
  | .set _ xs => ((normalList xs).bind ordered).map .arr
  | .mapping ms => (normalMembers [] ms).map .obj

def normalList : List Loggable → Except Fault (List Value)
  | [] => .ok []
  | x :: xs => do
    let y ← x.normal
    let ys ← normalList xs
    return y :: ys

/-- `kept` holds the members taken over already. -/
def normalMembers (kept : Members) : List (Loggable × Loggable) → Except Fault Members
  | [] => .ok kept
  | (k, x) :: ms => do
    let name ← k.name
    let y ← x.normal
    normalMembers (kept.put name y) ms

end

end Loggable

end Conform.Log
