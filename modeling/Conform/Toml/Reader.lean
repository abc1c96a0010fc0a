import Conform.Toml.Draft

/-!
Reading TOML documents. The nesting of values and the number of statements are bounded by the
length of the text.
-/
namespace Conform.Toml

/-- An inline table while it is read: its members and what in it is frozen. -/
structure Inline where
  members : Members := []
  closed : List Closed := []

namespace Inline

def assign (t : Inline) (key : Key) (v : Value) (rest : List Char) : Except Problem Inline :=
  let name := key.getLast?.getD ""
  if isClosed t.closed key .frozen then
    fail ("Cannot mutate immutable namespace " ++ keyText key) rest
  else
    match changeTable false some key.dropLast t.members with
    | none => fail "Cannot overwrite a value" rest
    | some _ =>
      match changeTable false (addMember name v) key.dropLast t.members with
      | none => fail ("Duplicate inline table key " ++ Text.quoted name) rest
      | some members => .ok { t with members }

def freeze (t : Inline) (key : Key) (v : Value) : Inline :=
  if Draft.isContainer v then { t with closed := t.closed ++ [⟨key, .frozen⟩] } else t

end Inline

mutual

def value : Nat → List Char → Except Problem (Value × List Char)
  | 0, cs => fail "Invalid value" cs
  | fuel + 1, cs =>
    match cs with
    | '"' :: '"' :: '"' :: r => (lines '"' r).map fun (text, rest) => (.str (String.ofList text), rest)
    | '"' :: r =>
      (basicString false (r.length + 1) [] r).map fun (text, rest) =>
        (.str (String.ofList text), rest)
    | '\'' :: '\'' :: '\'' :: r =>
      (lines '\'' r).map fun (text, rest) => (.str (String.ofList text), rest)
    | '\'' :: r => (literalString r).map fun (text, rest) => (.str (String.ofList text), rest)
    | 't' :: 'r' :: 'u' :: 'e' :: r => .ok (.bool true, r)
    | 'f' :: 'a' :: 'l' :: 's' :: 'e' :: r => .ok (.bool false, r)
    | '[' :: r => do
      let r ← skipBlanks r
      if r.head? = some ']' then return (.arr [], r.drop 1)
      let (xs, rest) ← elements fuel r
      return (.arr xs, rest)
    | '{' :: r =>
      let r := skipSpace r
      if r.head? = some '}' then .ok (.obj [], r.drop 1)
      else inlineMembers fuel {} r
    | _ => numberOrMoment cs

def elements : Nat → List Char → Except Problem (List Value × List Char)
  | 0, cs => fail "Unclosed array" cs
  | fuel + 1, cs => do
    let (v, rest) ← value fuel cs
    let rest ← skipBlanks rest
    match rest with
    | ']' :: r => return ([v], r)
    | ',' :: r =>
      let r ← skipBlanks r
      if r.head? = some ']' then return ([v], r.drop 1)
      let (vs, rest) ← elements fuel r
      return (v :: vs, rest)
    | _ => fail "Unclosed array" rest

def inlineMembers : Nat → Inline → List Char → Except Problem (Value × List Char)
  | 0, _, cs => fail "Unclosed inline table" cs
  | fuel + 1, t, cs => do
    let (k, v, rest) ← pair fuel cs
    let t ← t.assign k v rest
    match skipSpace rest with
    | '}' :: r => return (.obj t.members, r)
    | ',' :: r => inlineMembers fuel (t.freeze k v) (skipSpace r)
    | rest => fail "Unclosed inline table" rest

/-- A key, an equals sign and a value. -/
def pair : Nat → List Char → Except Problem (Key × Value × List Char)
  | 0, cs => fail "Invalid value" cs
  | fuel + 1, cs => do
    let (k, rest) ← key cs
    match rest with
    | '=' :: r =>
      let (v, rest) ← value fuel (skipSpace r)
      return (k, v, rest)
    | _ => fail "Expected '=' after a key in a key/value pair" rest

end

def isKeyStart (c : Char) : Bool := isBareKey c || c == '"' || c == '\''

/-- A header, and the key it puts in front of the keys after it. -/
def header (d : Draft) (r : List Char) : Except Problem (Draft × Key × List Char) :=
  match r with
  | '[' :: r => do
    let (k, rest) ← key (skipSpace r)
    let d ← d.openElement k rest
    match rest with
    | ']' :: ']' :: r => return (d, k, r)
    | _ => fail "Expected ']]' at the end of an array declaration" rest
  | _ => do
    let (k, rest) ← key (skipSpace r)
    let d ← d.openTable k rest
    match rest with
    | ']' :: r => return (d, k, r)
    | _ => fail "Expected ']' at the end of a table declaration" rest

/-- A statement, if there is one, up to the comment or the line end behind it. -/
def statement (d : Draft) (above : Key) (cs : List Char) :
    Except Problem (Draft × Key × List Char) :=
  match cs with
  | '[' :: r => do
    let (d, k, rest) ← header d.settle r
    return (d, k, skipSpace rest)
  | c :: _ =>
    if isKeyStart c then do
      let (k, v, rest) ← pair (2 * cs.length + 2) cs
      let d ← d.assign above k v rest
      return (d, above, skipSpace rest)
    else if c = '#' then .ok (d, above, cs)
    else fail "Invalid statement" cs
  | [] => .ok (d, above, cs)

def statements : Nat → Draft → Key → List Char → Except Problem Members
  | 0, d, _, _ => .ok d.tables
  | fuel + 1, d, above, cs =>
    match skipSpace cs with
    | [] => .ok d.tables
    | '\n' :: r => statements fuel d above r
    | cs => do
      let (d, above, rest) ← statement d above cs
      match ← skipComment rest with
      | [] => return d.tables
      | '\n' :: r => statements fuel d above r
      | rest => fail "Expected newline or end of document after a statement" rest

/-- Line ends of two characters count as one. -/
def unifyLines : List Char → List Char
  | '\r' :: '\n' :: r => '\n' :: unifyLines r
  | c :: r => c :: unifyLines r
  | [] => []

/-- Where the text `rest` begins in `cs`. -/
def place (cs rest : List Char) : String :=
  if rest.isEmpty then "end of document"
  else
    let before := cs.take (cs.length - rest.length)
    let line := (before.filter (· == '\n')).length + 1
    let column := (before.reverse.takeWhile (· != '\n')).length + 1
    "line " ++ toString line ++ ", column " ++ toString column

/-- Why a text is no document. -/
inductive Refusal where
  | invalid (message : String)
  | digitLimit (digits : Nat)
  deriving Repr

def read (s : String) : Except Refusal Members :=
  let cs := unifyLines s.toList
  match statements (cs.length + 1) {} [] cs with
  | .ok ms => .ok ms
  | .error (.found message rest) => .error (.invalid (message ++ " (at " ++ place cs rest ++ ")"))
  | .error (.digitLimit n) => .error (.digitLimit n)

end Conform.Toml
