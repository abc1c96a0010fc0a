import Conform.Value.Basic
import Conform.Text.Quoted

/-!
Reading JSON text, keeping the order of members. The recursion is bounded by a fuel that the
length of the text provides.
-/
namespace Conform.Json

def isSpace (c : Char) : Bool := c == ' ' || c == '\n' || c == '\t' || c == '\r'

def skipSpace (cs : List Char) : List Char := cs.dropWhile isSpace

def hexValue? (c : Char) : Option Nat :=
  if c.isDigit then some (c.toNat - 48)
  else if 'a' ≤ c ∧ c ≤ 'f' then some (c.toNat - 87)
  else if 'A' ≤ c ∧ c ≤ 'F' then some (c.toNat - 55)
  else none

/-- The code unit of four hexadecimal digits. -/
def unit? (a b c d : Char) : Option Nat := do
  let w ← hexValue? a
  let x ← hexValue? b
  let y ← hexValue? c
  let z ← hexValue? d
  pure (4096 * w + 256 * x + 16 * y + z)

def isLeading (u : Nat) : Bool := 0xd800 ≤ u && u < 0xdc00

def isTrailing (u : Nat) : Bool := 0xdc00 ≤ u && u < 0xe000

def simpleEscape? (c : Char) : Option Char :=
  if c = '"' ∨ c = '\\' ∨ c = '/' then some c
  else if c = 'n' then some '\n'
  else if c = 't' then some '\t'
  else if c = 'r' then some '\r'
  else if c = 'b' then some (Char.ofNat 8)
  else if c = 'f' then some (Char.ofNat 12)
  else none

/-- The rest of a string after its opening quotation mark; `acc` holds what was read, last first.
Two escaped code units make one character beyond the basic plane. -/
def readString (acc : List Char) : List Char → Option (String × List Char)
  | [] => none
  | '"' :: r => some (String.ofList acc.reverse, r)
  | '\\' :: 'u' :: a :: b :: c :: d :: '\\' :: 'u' :: e :: f :: g :: h :: r =>
    match unit? a b c d, unit? e f g h with
    | some u, some w =>
      if isLeading u && isTrailing w then
        readString (Char.ofNat (0x10000 + (u - 0xd800) * 1024 + (w - 0xdc00)) :: acc) r
      else if isLeading u then none
      else readString (Char.ofNat u :: acc) ('\\' :: 'u' :: e :: f :: g :: h :: r)
    | _, _ => none
  | '\\' :: 'u' :: a :: b :: c :: d :: r =>
    match unit? a b c d with
    | some u => if isLeading u then none else readString (Char.ofNat u :: acc) r
    | none => none
  | '\\' :: e :: r =>
    match simpleEscape? e with
    | some d => readString (d :: acc) r
    | none => none
  | c :: r => if c.toNat < 32 then none else readString (c :: acc) r

def isNumberChar (c : Char) : Bool :=
  c.isDigit || c == '-' || c == '+' || c == '.' || c == 'e' || c == 'E'

/-- A number without point and exponent is an integer. -/
def numberOf? (cs : List Char) : Option Value :=
  let (negative, ds) := match cs with
    | '-' :: r => (true, r)
    | r => (false, r)
  if ds.isEmpty then none
  else if ds.all Char.isDigit then
    let n : Int := Real.digitsValue ds
    some (.int (if negative then -n else n))
  else (Real.readDecimal negative ds).map fun d => .real (.ofDecimal d)

def word? (w : String) (v : Value) (cs : List Char) : Option (Value × List Char) :=
  if w.toList.isPrefixOf cs then some (v, cs.drop w.length) else none

mutual

def readValue : Nat → List Char → Option (Value × List Char)
  | 0, _ => none
  | fuel + 1, cs =>
    match skipSpace cs with
    | '"' :: r => (readString [] r).map fun (s, r') => (.str s, r')
    | '[' :: r =>
      match skipSpace r with
      | ']' :: r' => some (.arr [], r')
      | r' => (readItems fuel r').map fun (xs, r'') => (.arr xs, r'')
    | '{' :: r =>
      match skipSpace r with
      | '}' :: r' => some (.obj [], r')
      | r' => (readMembers fuel r').map fun (ms, r'') => (.obj ms, r'')
    | 't' :: r => word? "true" (.bool true) ('t' :: r)
    | 'f' :: r => word? "false" (.bool false) ('f' :: r)
    | 'n' :: r => word? "null" .null ('n' :: r)
    | 'N' :: r => word? "NaN" (.real .nan) ('N' :: r)
    | 'I' :: r => word? "Infinity" (.real (.infinite false)) ('I' :: r)
    | '-' :: 'I' :: r => word? "-Infinity" (.real (.infinite true)) ('-' :: 'I' :: r)
    | r =>
      match numberOf? (r.takeWhile isNumberChar) with
      | some v => some (v, r.dropWhile isNumberChar)
      | none => none

def readItems : Nat → List Char → Option (List Value × List Char)
  | 0, _ => none
  | fuel + 1, cs =>
    match readValue fuel cs with
    | none => none
    | some (x, r) =>
      match skipSpace r with
      | ']' :: r' => some ([x], r')
      | ',' :: r' => (readItems fuel r').map fun (xs, r'') => (x :: xs, r'')
      | _ => none

def readMembers : Nat → List Char → Option (List (String × Value) × List Char)
  | 0, _ => none
  | fuel + 1, cs =>
    match skipSpace cs with
    | '"' :: r =>
      match readString [] r with
      | none => none
      | some (k, r') =>
        match skipSpace r' with
        | ':' :: r'' =>
          match readValue fuel r'' with
          | none => none
          | some (x, r3) =>
            match skipSpace r3 with
            | '}' :: r4 => some ([(k, x)], r4)
            | ',' :: r4 => (readMembers fuel r4).map fun (ms, r5) => ((k, x) :: ms, r5)
            | _ => none
        | _ => none
    | _ => none

end

/-- The value that a JSON text denotes. -/
def read? (s : String) : Option Value :=
  let cs := s.toList
  match readValue (2 * cs.length + 2) cs with
  | some (v, r) => if (skipSpace r).isEmpty then some v else none
  | none => none

end Conform.Json
