import Conform.Log.Numeral
import Conform.Value.Written

/-!
Message templates. A directive begins with a percent sign and names how the next argument is
written: its flags, the width and the precision of its text, and its conversion.
-/
namespace Conform.Log

structure Flags where
  left : Bool := false
  plus : Bool := false
  blank : Bool := false
  alternate : Bool := false
  zero : Bool := false
  deriving DecidableEq, Repr

/-- The arguments not yet used. A mapping is one argument, and its members can be named. -/
structure Supply where
  mapping : Option Members
  waiting : List Value
  deriving Repr

structure Directive where
  flags : Flags := {}
  width : Nat := 0
  precision : Option Nat := none
  conversion : Char
  deriving Repr

namespace Template

def valueFault (message : String) : Fault := .template true message

def typeFault (message : String) : Fault := .template false message

/-- The arguments of a message: several, or the members of a mapping that is the only one. -/
def supplyOf : List Value → Supply
  | [.obj ms] => if ms.isEmpty then ⟨none, [.obj ms]⟩ else ⟨some ms, [.obj ms]⟩
  | vs => ⟨none, vs⟩

def next (s : Supply) : Except Fault (Value × Supply) :=
  match s.waiting with
  | v :: vs => .ok (v, { s with waiting := vs })
  | [] => .error (typeFault "not enough arguments for format string")

/-- A name up to the parenthesis that closes it; parentheses inside come in pairs. -/
def keyName : Nat → List Char → Except Fault (List Char × List Char)
  | _, [] => .error (valueFault "incomplete format key")
  | open_, c :: r =>
    if c = ')' ∧ open_ = 0 then .ok ([], r)
    else
      let inner := if c = '(' then open_ + 1 else if c = ')' then open_ - 1 else open_
      (keyName inner r).map fun (name, rest) => (c :: name, rest)

/-- Takes the named member as the next argument. -/
def named (s : Supply) (cs : List Char) : Except Fault (Supply × List Char) :=
  match cs with
  | '(' :: r =>
    match s.mapping with
    | none => .error (typeFault "format requires a mapping")
    | some ms => do
      let (name, rest) ← keyName 0 r
      match ms.get? (String.ofList name) with
      | some v => return ({ s with waiting := [v] }, rest)
      | none => throw (.absent (String.ofList name))
  | _ => .ok (s, cs)

def flags (f : Flags) : List Char → Flags × List Char
  | c :: r =>
    if c = '-' then flags { f with left := true } r
    else if c = '+' then flags { f with plus := true } r
    else if c = ' ' then flags { f with blank := true } r
    else if c = '#' then flags { f with alternate := true } r
    else if c = '0' then flags { f with zero := true } r
    else (f, c :: r)
  | [] => (f, [])

/-- The measures of a directive. -/
inductive Measure where
  | width | precision
  deriving DecidableEq, Repr

namespace Measure

/-- The most that can be asked for. -/
def most : Measure → Nat
  | .width => 9223372036854775807
  | .precision => 2147483647

def tooBig : Measure → Fault
  | .width => valueFault "width too big"
  | .precision => valueFault "precision too big"

def unheld : Measure → Fault
  | .width => .tooLarge "Python int too large to convert to C ssize_t"
  | .precision => .tooLarge "Python int too large to convert to C int"

def given (m : Measure) (n : Int) : Except Fault Int :=
  if -(m.most : Int) - 1 ≤ n ∧ n ≤ m.most then .ok n else .error m.unheld

end Measure

/-- A number, or the next argument in the place of an asterisk; without either zero. -/
def size (m : Measure) (s : Supply) (cs : List Char) :
    Except Fault (Int × Supply × List Char) :=
  match cs with
  | '*' :: r => do
    let (v, s) ← next s
    match v with
    | .int n => return (← m.given n, s, r)
    | .bool b => return (if b then 1 else 0, s, r)
    | _ => throw (typeFault "* wants int")
  | _ =>
    let n := Nat.ofDigitChars 10 (cs.takeWhile Char.isDigit) 0
    if m.most < n then .error m.tooBig else .ok (n, s, cs.dropWhile Char.isDigit)

def precision (s : Supply) (cs : List Char) :
    Except Fault (Option Nat × Supply × List Char) :=
  match cs with
  | '.' :: r => do
    let (n, s, rest) ← size .precision s r
    return (some n.toNat, s, rest)
  | _ => .ok (none, s, cs)

/-- A letter for the size of machine numbers, which says nothing here. -/
def skipLength : List Char → List Char
  | c :: r => if c = 'h' ∨ c = 'l' ∨ c = 'L' then r else c :: r
  | [] => []

def directive (s : Supply) (cs : List Char) : Except Fault (Directive × Supply × List Char) := do
  let (s, cs) ← named s cs
  let (f, cs) := flags {} cs
  let (width, s, cs) ← size .width s cs
  let (precision, s, cs) ← precision s cs
  match skipLength cs with
  | [] => throw (valueFault "incomplete format")
  | c :: r =>
    return (⟨{ f with left := f.left || decide (width < 0) }, width.natAbs, precision, c⟩, s, r)

/-- A sign and a mark of the base in front of a text, and as many blanks or zeros as the width
asks for. -/
def fill (d : Directive) (isNumber : Bool) (sign mark body : List Char) : List Char :=
  let pad := d.width - (sign.length + mark.length + body.length)
  if d.flags.left then sign ++ mark ++ body ++ List.replicate pad ' '
  else if isNumber && d.flags.zero then sign ++ mark ++ List.replicate pad '0' ++ body
  else List.replicate pad ' ' ++ sign ++ mark ++ body

def signOf (f : Flags) (negative : Bool) : List Char :=
  if negative then ['-'] else if f.plus then ['+'] else if f.blank then [' '] else []

def word (d : Directive) (s : String) : List Char :=
  fill d false [] [] ((d.precision.map s.toList.take).getD s.toList)

/-- A literal in which only the first 128 characters stand for themselves. -/
def plainLiteral (s : String) : String :=
  String.ofList (s.toList.flatMap fun c =>
    let n := c.toNat
    if n < 128 then [c]
    else if n ≤ 0xff then '\\' :: 'x' :: Text.hexDigits 2 n
    else if n ≤ 0xffff then '\\' :: 'u' :: Text.hexDigits 4 n
    else '\\' :: 'U' :: Text.hexDigits 8 n)

def isBased (c : Char) : Bool := c == 'o' || c == 'x' || c == 'X'

def notInteger (c : Char) (v : Value) : Fault :=
  typeFault ("%" ++ c.toString ++ " format: " ++
    (if isBased c then "an integer" else "a real number") ++ " is required, not " ++ v.typeName)

/-- An argument as an integer; where a base is named it must be one already. -/
def integerOf (c : Char) (v : Value) : Except Fault Int :=
  match v with
  | .bool b => .ok (if b then 1 else 0)
  | .int n => .ok n
  | .real x =>
    if isBased c then .error (notInteger c v)
    else
      match x with
      | .nan => .error (valueFault "cannot convert float NaN to integer")
      | .infinite _ => .error (.tooLarge "cannot convert float infinity to integer")
      | .finite d =>
        let (n, m) := ((Binary64.ofDecimal d).getD ⟨0, 0⟩).ratio
        .ok (if d.negative then -((n / m : Nat) : Int) else (n / m : Nat))
  | v => .error (notInteger c v)

def baseOf (c : Char) : Nat := if c = 'o' then 8 else if c = 'x' ∨ c = 'X' then 16 else 10

def integer (d : Directive) (n : Int) : List Char :=
  let c := d.conversion
  let ds := Nat.toDigits (baseOf c) n.natAbs
  let ds := List.replicate (d.precision.getD 0 - ds.length) '0' ++ ds
  let ds := if c = 'X' then ds.map Char.toUpper else ds
  let mark := if d.flags.alternate && isBased c then ['0', c] else []
  fill d true (signOf d.flags (decide (n < 0))) mark ds

/-- An argument as a floating-point value. -/
def realOf (v : Value) : Except Fault Real :=
  let ofInt (n : Int) : Except Fault Real :=
    match Real.ofDecimal (.ofInt n) with
    | .infinite _ => .error (.tooLarge "int too large to convert to float")
    | x => .ok x
  match v with
  | .bool b => ofInt (if b then 1 else 0)
  | .int n => ofInt n
  | .real x => .ok x
  | v => .error (typeFault ("must be real number, not " ++ v.typeName))

def fractionText (d : Directive) (n m : Nat) : List Char :=
  let places := d.precision.getD 6
  let c := d.conversion.toLower
  if c = 'f' then fixed d.flags.alternate places n m
  else if c = 'e' then scientific d.flags.alternate places n m
  else general d.flags.alternate places n m

def real (d : Directive) (x : Real) : List Char :=
  let (negative, body) := match x with
    | .nan => (false, ['n', 'a', 'n'])
    | .infinite negative => (negative, ['i', 'n', 'f'])
    | .finite y =>
      let (n, m) := ((Binary64.ofDecimal y).getD ⟨0, 0⟩).ratio
      (y.negative, fractionText d n m)
  let body := if d.conversion.isUpper then body.map Char.toUpper else body
  fill d true (signOf d.flags negative) [] body

def character (d : Directive) (v : Value) : Except Fault (List Char) :=
  let ofInt (n : Int) : Except Fault (List Char) :=
    if 0 ≤ n ∧ n < 0x110000 then .ok (fill d false [] [] [Char.ofNat n.toNat])
    else .error (.tooLarge "%c arg not in range(0x110000)")
  match v with
  | .int n => ofInt n
  | .bool b => ofInt (if b then 1 else 0)
  | .str s =>
    match s.toList with
    | [c] => .ok (fill d false [] [] [c])
    | _ => .error (typeFault "%c requires int or char")
  | _ => .error (typeFault "%c requires int or char")

def unsupported (c : Char) (index : Nat) : Fault :=
  let shown := if 31 ≤ c.toNat ∧ c.toNat < 126 then c.toString else "?"
  valueFault ("unsupported format character '" ++ shown ++ "' (0x" ++
    String.ofList (Nat.toDigits 16 c.toNat) ++ ") at index " ++ toString index)

/-- An argument as its directive asks for it; `index` is where the conversion stands. -/
def converted (d : Directive) (index : Nat) (v : Value) : Except Fault (List Char) :=
  let c := d.conversion
  if c = 's' then v.written.map (word d)
  else if c = 'r' then v.writtenLiteral.map (word d)
  else if c = 'a' then v.writtenLiteral.map fun l => word d (plainLiteral l)
  else if isBased c then (integerOf c v).map (integer d)
  else if c = 'd' ∨ c = 'i' ∨ c = 'u' then do
    let n ← integerOf c v
    if Text.isWritable n then return integer d n
    throw .unwritable
  else if ['e', 'E', 'f', 'F', 'g', 'G'].contains c then (realOf v).map (real d)
  else if c = 'c' then character d v
  else .error (unsupported c index)

/-- Writes a template of `total` characters, of which `cs` are left. -/
def write (total : Nat) : Nat → Supply → List Char → Except Fault (List Char)
  | _, s, [] =>
    if s.mapping.isNone && !s.waiting.isEmpty then
      .error (typeFault "not all arguments converted during string formatting")
    else .ok []
  | 0, _, cs => .ok cs
  | fuel + 1, s, c :: r =>
    if c ≠ '%' then (write total fuel s r).map (c :: ·)
    else do
      let (d, s, rest) ← directive s r
      if d.conversion = '%' then (write total fuel s rest).map ('%' :: ·)
      else
        let (v, s) ← next s
        let text ← converted d (total - rest.length - 1) v
        (write total fuel s rest).map (text ++ ·)

/-- The text of a template with arguments; without arguments a template is its own text. -/
def render (template : String) (args : List Value) : Except Fault String :=
  if args.isEmpty then .ok template
  else
    (write template.length template.length (supplyOf args) template.toList).map String.ofList

end Template

end Conform.Log
