import Conform.Toml.Scan

/-!
A TOML document while it is read: the tables so far, and which of them may no longer be opened or
extended.
-/
namespace Conform.Toml

abbrev Key := List String

inductive Closing where
  /-- Neither the value nor anything inside it may change. -/
  | frozen
  /-- The table was opened by its own header or implied by a dotted key. -/
  | declared
  deriving DecidableEq, Repr

structure Closed where
  key : Key
  closing : Closing
  deriving DecidableEq, Repr

/-- Whether a table is closed. What is frozen is so with everything below it. -/
def isClosed (closed : List Closed) (key : Key) (closing : Closing) : Bool :=
  !key.isEmpty && closed.any fun c => c.closing == closing &&
    (c.key == key || (closing == .frozen && c.key.isPrefixOf key))

structure Draft where
  tables : Members := []
  closed : List Closed := []
  /-- Tables implied by dotted keys, closed with the next header. -/
  pending : List Closed := []
  deriving Repr

/-- Changes the table at a key, making the tables on the way to it; of an array of tables it is
the last one, if arrays may be entered at all. -/
def changeTable (enterArrays : Bool) (change : Members → Option Members) :
    Key → Members → Option Members
  | [], ms => change ms
  | k :: ks, ms =>
    match ms.get? k with
    | none => (changeTable enterArrays change ks []).map fun t => ms.put k (.obj t)
    | some (.obj t) => (changeTable enterArrays change ks t).map fun t => ms.put k (.obj t)
    | some (.arr xs) =>
      match enterArrays, xs.getLast? with
      | true, some (.obj t) =>
        (changeTable enterArrays change ks t).map fun t => ms.put k (.arr (xs.dropLast ++ [.obj t]))
      | _, _ => none
    | some _ => none

/-- Adds a member that is not there yet. -/
def addMember (name : String) (v : Value) (ms : Members) : Option Members :=
  if ms.has name then none else some (ms.put name v)

/-- Adds an empty table to the array of tables of a name. -/
def addTable (name : String) (ms : Members) : Option Members :=
  match ms.get? name with
  | none => some (ms.put name (.arr [.obj []]))
  | some (.arr xs) => some (ms.put name (.arr (xs ++ [.obj []])))
  | some _ => none

/-- The text of a key: its parts quoted, in parentheses. -/
def keyText (key : Key) : String :=
  "(" ++ String.intercalate ", " (key.map Text.quoted) ++
    (if key.length = 1 then ",)" else ")")

namespace Draft

def isClosed (d : Draft) (key : Key) (closing : Closing) : Bool := Toml.isClosed d.closed key closing

def close (d : Draft) (key : Key) (closing : Closing) : Draft :=
  { d with closed := d.closed ++ [⟨key, closing⟩] }

/-- Closes what dotted keys implied. -/
def settle (d : Draft) : Draft := { d with closed := d.closed ++ d.pending, pending := [] }

/-- Opens a table by its header. -/
def openTable (d : Draft) (key : Key) (rest : List Char) : Except Problem Draft :=
  if d.isClosed key .declared || d.isClosed key .frozen then
    fail ("Cannot declare " ++ keyText key ++ " twice") rest
  else
    let d := d.close key .declared
    match changeTable true some key d.tables with
    | some tables => .ok { d with tables }
    | none => fail "Cannot overwrite a value" rest

/-- Opens the next table of an array by its header; nothing below it is closed any more. -/
def openElement (d : Draft) (key : Key) (rest : List Char) : Except Problem Draft :=
  if d.isClosed key .frozen then
    fail ("Cannot mutate immutable namespace " ++ keyText key) rest
  else
    let d := { d with closed := d.closed.filter fun c => !key.isPrefixOf c.key }.close key .declared
    match changeTable true (addTable (key.getLast?.getD "")) key.dropLast d.tables with
    | some tables => .ok { d with tables }
    | none => fail "Cannot overwrite a value" rest

/-- Notes the tables that a dotted key implies, from the shortest on. -/
def imply (header : Key) (rest : List Char) : List Key → Draft → Except Problem Draft
  | [], d => .ok d
  | part :: parts, d =>
    let key := header ++ part
    if d.isClosed key .declared then fail ("Cannot redefine namespace " ++ keyText key) rest
    else imply header rest parts { d with pending := d.pending ++ [⟨key, .declared⟩] }

def isContainer : Value → Bool
  | .obj _ | .arr _ => true
  | _ => false

/-- Sets a key below a header. -/
def assign (d : Draft) (header key : Key) (v : Value) (rest : List Char) :
    Except Problem Draft := do
  let implied := (List.range (key.length - 1)).map fun i => key.take (i + 1)
  let d ← imply header rest implied d
  let parent := header ++ key.dropLast
  if d.isClosed parent .frozen then
    fail ("Cannot mutate immutable namespace " ++ keyText parent) rest
  else
    match changeTable true (addMember (key.getLast?.getD "") v) parent d.tables with
    | none => fail "Cannot overwrite a value" rest
    | some tables =>
      let d := { d with tables }
      return if isContainer v then d.close (header ++ key) .frozen else d

end Draft

end Conform.Toml
