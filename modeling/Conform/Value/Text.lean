import Conform.Value.Basic
import Conform.Text.Quoted

/-!
Values as text: the literal that messages quote, and the bare text in which strings, paths and
calendar values stand without quotes.
-/
namespace Conform.Value

def boolLiteral (b : Bool) : String := if b then "True" else "False"

def joined (open_ close : String) (parts : List String) : String :=
  open_ ++ String.intercalate ", " parts ++ close

mutual

def literal : Value → String
  | .null => "None"
  | .bool b => boolLiteral b
  | .int n => toString n
  | .real x => x.text
  | .str s => Text.quoted s
  | .arr xs => joined "[" "]" (literalList xs)
  | .obj ms => joined "\x7b" "\x7d" (literalMembers ms)
  | .bytes os => Text.quotedOctets os
  | .set xs => if xs.isEmpty then "set()" else joined "\x7b" "\x7d" (literalList xs)
  | .path s => "PosixPath(" ++ Text.quoted s ++ ")"
  | .moment _ s => s

def literalList : List Value → List String
  | [] => []
  | x :: xs => x.literal :: literalList xs

def literalMembers : List (String × Value) → List String
  | [] => []
  | (k, x) :: ms => (Text.quoted k ++ ": " ++ x.literal) :: literalMembers ms

end

def text : Value → String
  | .str s => s
  | .path s => s
  | v => v.literal

end Conform.Value
