import Conform.Format.Moment
import Conform.Text.Integer
import Conform.Text.Quoted
import Conform.Value.Basic

/-!
The scalars of TOML text: strings, keys, dates, times and numbers. Every scanner hands back what
it leaves; a problem is placed by the text from its place on.
-/
namespace Conform.Toml

inductive Problem where
  | found (message : String) (rest : List Char)
  | digitLimit (digits : Nat)
  deriving Repr

def fail (message : String) (rest : List Char) : Except Problem α :=
  .error (.found message rest)

def isControl (c : Char) : Bool := c.toNat < 32 || c.toNat = 127

/-- What may stand neither in comments nor in strings of one line. -/
def isIllegal (c : Char) : Bool := isControl c && c != '\t'

def isIllegalInLines (c : Char) : Bool := isIllegal c && c != '\n'

def isSpace (c : Char) : Bool := c == ' ' || c == '\t'

def isSpaceOrLine (c : Char) : Bool := isSpace c || c == '\n'

def skipSpace (cs : List Char) : List Char := cs.dropWhile isSpace

/-- Refuses the first illegal character of `part`, which `rest` follows. -/
def checkLegal (illegal : Char → Bool) (part rest : List Char) : Except Problem Unit :=
  match part.dropWhile (!illegal ·) with
  | [] => .ok ()
  | c :: r => fail ("Found invalid character " ++ Text.quoted c.toString) (c :: r ++ rest)

/-- Leaves a comment out, up to the end of its line. -/
def skipComment : List Char → Except Problem (List Char)
  | '#' :: r => do
    let comment := r.takeWhile (· != '\n')
    let rest := r.dropWhile (· != '\n')
    checkLegal isIllegal comment rest
    return rest
  | cs => .ok cs

def skipBlank : Nat → List Char → Except Problem (List Char)
  | 0, cs => .ok cs
  | fuel + 1, cs => do
    let rest ← skipComment (cs.dropWhile isSpaceOrLine)
    if rest.length = cs.length then return cs else skipBlank fuel rest

/-- Leaves blanks, line ends and comments out. -/
def skipBlanks (cs : List Char) : Except Problem (List Char) := skipBlank (cs.length + 1) cs

def isBareKey (c : Char) : Bool := c.isAlphanum || c == '-' || c == '_'

def isHexDigit (c : Char) : Bool := c.isDigit || ('a' ≤ c && c ≤ 'f') || ('A' ≤ c && c ≤ 'F')

def digitValue (c : Char) : Nat :=
  if c.isDigit then c.toNat - 48 else if 'a' ≤ c then c.toNat - 87 else c.toNat - 55

def radixValue (base : Nat) (cs : List Char) : Nat :=
  cs.foldl (fun n c => base * n + digitValue c) 0

def hexEscape (width : Nat) (cs : List Char) : Except Problem (List Char × List Char) :=
  let digits := cs.take width
  let rest := cs.drop width
  if digits.length ≠ width || !digits.all isHexDigit then fail "Invalid hex value" cs
  else
    let n := radixValue 16 digits
    if n.isValidChar then .ok ([Char.ofNat n], rest)
    else fail "Escaped character is not a Unicode scalar value" rest

def simpleEscape? (c : Char) : Option Char :=
  if c = 'b' then some (Char.ofNat 8)
  else if c = 't' then some '\t'
  else if c = 'n' then some '\n'
  else if c = 'f' then some (Char.ofNat 12)
  else if c = 'r' then some '\r'
  else if c = '"' ∨ c = '\\' then some c
  else none

def strayBackslash : String := "Unescaped '\\' in a string"

/-- What the text behind a backslash stands for. In strings of several lines a backslash at the
end of a line joins the next text that is no blank. -/
def escape (multiline : Bool) : List Char → Except Problem (List Char × List Char)
  | [] => fail strayBackslash []
  | c :: r =>
    if multiline && isSpaceOrLine c then
      if c = '\n' then .ok ([], r.dropWhile isSpaceOrLine)
      else
        match skipSpace r with
        | [] => .ok ([], [])
        | '\n' :: r' => .ok ([], r'.dropWhile isSpaceOrLine)
        | r' => fail strayBackslash r'
    else if c = 'u' then hexEscape 4 r
    else if c = 'U' then hexEscape 8 r
    else
      match simpleEscape? c with
      | some d => .ok ([d], r)
      | none => fail strayBackslash r

/-- The rest of a basic string; `acc` holds what was read, last first. -/
def basicString (multiline : Bool) : Nat → List Char → List Char → Except Problem (List Char × List Char)
  | 0, _, _ => fail "Unterminated string" []
  | _ + 1, _, [] => fail "Unterminated string" []
  | fuel + 1, acc, '\\' :: r => do
    let (text, rest) ← escape multiline r
    basicString multiline fuel (text.reverse ++ acc) rest
  | fuel + 1, acc, '"' :: r =>
    if !multiline then .ok (acc.reverse, r)
    else
      match r with
      | '"' :: '"' :: r' => .ok (acc.reverse, r')
      | _ => basicString multiline fuel ('"' :: acc) r
  | fuel + 1, acc, c :: r =>
    if (if multiline then isIllegalInLines c else isIllegal c) then
      fail ("Illegal character " ++ Text.quoted c.toString) (c :: r)
    else basicString multiline fuel (c :: acc) r

def literalString (cs : List Char) : Except Problem (List Char × List Char) :=
  let text := cs.takeWhile (· != '\'')
  match cs.dropWhile (· != '\'') with
  | [] => fail "Expected \"'\"" []
  | q :: r => do
    checkLegal isIllegal text (q :: r)
    return (text, r)

/-- The text before three marks in a row, and the text behind them. -/
def upToTriple (mark : Char) : List Char → Option (List Char × List Char)
  | [] => none
  | c :: r =>
    if c = mark ∧ r.take 2 = [mark, mark] then some ([], r.drop 2)
    else (upToTriple mark r).map fun (text, rest) => (c :: text, rest)

def literalLines (cs : List Char) : Except Problem (List Char × List Char) :=
  match upToTriple '\'' cs with
  | none => fail "Expected \"'''\"" []
  | some (text, rest) => do
    checkLegal isIllegalInLines text ('\'' :: '\'' :: '\'' :: rest)
    return (text, rest)

/-- One or two more marks behind the closing three belong to the text. -/
def extraMarks (mark : Char) (text : List Char) : List Char → List Char × List Char
  | c :: d :: r =>
    if c = mark then if d = mark then (text ++ [mark, mark], r) else (text ++ [mark], d :: r)
    else (text, c :: d :: r)
  | [c] => if c = mark then (text ++ [mark], []) else (text, [c])
  | [] => (text, [])

/-- A string of several lines, behind its opening marks; a line end there is left out. -/
def lines (mark : Char) (cs : List Char) : Except Problem (List Char × List Char) := do
  let cs := if cs.head? = some '\n' then cs.drop 1 else cs
  let (text, rest) ← if mark = '\'' then literalLines cs else basicString true (cs.length + 1) [] cs
  return extraMarks mark text rest

def keyPart : List Char → Except Problem (String × List Char)
  | '\'' :: r => (literalString r).map fun (text, rest) => (String.ofList text, rest)
  | '"' :: r =>
    (basicString false (r.length + 1) [] r).map fun (text, rest) => (String.ofList text, rest)
  | cs =>
    if (cs.head?.map isBareKey).getD false then
      .ok (String.ofList (cs.takeWhile isBareKey), cs.dropWhile isBareKey)
    else fail "Invalid initial character for a key part" cs

def keyParts : Nat → List Char → Except Problem (List String × List Char)
  | 0, cs => fail "Invalid initial character for a key part" cs
  | fuel + 1, cs => do
    let (part, rest) ← keyPart cs
    match skipSpace rest with
    | '.' :: r =>
      let (parts, rest) ← keyParts fuel (skipSpace r)
      return (part :: parts, rest)
    | rest => return ([part], rest)

/-- A key: parts with points between them, and the blanks behind it. -/
def key (cs : List Char) : Except Problem (List String × List Char) := keyParts (cs.length + 1) cs

def pair? (p : Char → Char → Bool) : List Char → Option (List Char × List Char)
  | a :: b :: r => if p a b then some ([a, b], r) else none
  | _ => none

def isHour (a b : Char) : Bool :=
  ((a == '0' || a == '1') && b.isDigit) || (a == '2' && '0' ≤ b && b ≤ '3')

def isSixtieth (a b : Char) : Bool := '0' ≤ a && a ≤ '5' && b.isDigit

def isMonth (a b : Char) : Bool :=
  (a == '0' && '1' ≤ b && b ≤ '9') || (a == '1' && '0' ≤ b && b ≤ '2')

def isDay (a b : Char) : Bool :=
  (a == '0' && '1' ≤ b && b ≤ '9') || ((a == '1' || a == '2') && b.isDigit) ||
    (a == '3' && (b == '0' || b == '1'))

def mark? (c : Char) : List Char → Option (List Char)
  | d :: r => if c = d then some r else none
  | [] => none

/-- The text behind a time of day. -/
def time? (cs : List Char) : Option (List Char) := do
  let (_, r) ← pair? isHour cs
  let (_, r) ← pair? isSixtieth (← mark? ':' r)
  let (_, r) ← pair? isSixtieth (← mark? ':' r)
  match r with
  | '.' :: d :: r' => if d.isDigit then pure (r'.dropWhile Char.isDigit) else pure r
  | _ => pure r

def offset? (cs : List Char) : Option (List Char) :=
  match cs with
  | 'Z' :: r | 'z' :: r => some r
  | '+' :: r | '-' :: r => do
    let (_, r) ← pair? isHour r
    let (_, r) ← pair? isSixtieth (← mark? ':' r)
    pure r
  | _ => none

structure Day where
  year : Nat
  month : Nat
  day : Nat

def Day.exists_ (d : Day) : Bool := 0 < d.year && d.day ≤ Moment.daysIn d.year d.month

def day? (cs : List Char) : Option (Day × List Char) := do
  let year := cs.take 4
  if year.length ≠ 4 || !year.all Char.isDigit then none
  else
    let (month, r) ← pair? isMonth (← mark? '-' (cs.drop 4))
    let (day, r) ← pair? isDay (← mark? '-' r)
    pure (⟨radixValue 10 year, radixValue 10 month, radixValue 10 day⟩, r)

/-- The text read, given what is left. -/
def spent (cs rest : List Char) : String := String.ofList (cs.take (cs.length - rest.length))

/-- A date, with or without a time, or a time alone. -/
def moment? (cs : List Char) : Option (Except Problem (Value × List Char)) :=
  match day? cs with
  | some (day, r) =>
    let later := match r with
      | c :: r' => if c == 'T' || c == 't' || c == ' ' then time? r' else none
      | [] => none
    let (kind, rest) := match later with
      | some r' => (MomentKind.dateTime, (offset? r').getD r')
      | none => (MomentKind.date, r)
    some (if day.exists_ then .ok (.moment kind (spent cs rest), rest)
      else fail "Invalid date or datetime" cs)
  | none => (time? cs).map fun rest => .ok (.moment .time (spent cs rest), rest)

/-- Digits, of which underscores may separate any two; the digits alone are handed back. -/
def digitRun (p : Char → Bool) : List Char → List Char × List Char
  | '_' :: c :: r =>
    if p c then
      let (ds, rest) := digitRun p r
      (c :: ds, rest)
    else ([], '_' :: c :: r)
  | c :: r =>
    if p c then
      let (ds, rest) := digitRun p r
      (c :: ds, rest)
    else ([], c :: r)
  | [] => ([], [])

/-- At least one digit. -/
def digits? (p : Char → Bool) (cs : List Char) : Option (List Char × List Char) :=
  match cs with
  | c :: r => if p c then some ((c :: (digitRun p r).1), (digitRun p r).2) else none
  | [] => none

def radixOf? (c : Char) : Option (Nat × (Char → Bool)) :=
  if c = 'x' then some (16, isHexDigit)
  else if c = 'o' then some (8, fun d => '0' ≤ d && d ≤ '7')
  else if c = 'b' then some (2, fun d => d == '0' || d == '1')
  else none

/-- An integer to the base that a letter behind a zero names. -/
def radixNumber? : List Char → Option (Value × List Char)
  | '0' :: c :: r => do
    let (base, p) ← radixOf? c
    let (ds, rest) ← digits? p r
    pure (.int (radixValue base ds), rest)
  | _ => none

def fractionPart (cs : List Char) : List Char × List Char :=
  match cs with
  | '.' :: r =>
    match digits? Char.isDigit r with
    | some (ds, rest) => ('.' :: ds, rest)
    | none => ([], cs)
  | _ => ([], cs)

def exponentPart (cs : List Char) : List Char × List Char :=
  match cs with
  | e :: r =>
    if e = 'e' ∨ e = 'E' then
      let (sign, r) := match r with
        | '+' :: r' => (['+'], r')
        | '-' :: r' => (['-'], r')
        | r' => ([], r')
      match digits? Char.isDigit r with
      | some (ds, rest) => ('e' :: sign ++ ds, rest)
      | none => ([], cs)
    else ([], cs)
  | [] => ([], [])

def decimalNumber? (cs : List Char) : Option (Except Problem (Value × List Char)) := do
  let (negative, r) := match cs with
    | '-' :: r => (true, r)
    | '+' :: r => (false, r)
    | r => (false, r)
  let (whole, r) ← match r with
    | '0' :: r => pure (['0'], r)
    | r => digits? Char.isDigit r
  let (fraction, r) := fractionPart r
  let (exponent, r) := exponentPart r
  if fraction.isEmpty && exponent.isEmpty then
    let n : Int := radixValue 10 whole
    pure (if Text.maxIntegerDigits < whole.length then .error (.digitLimit whole.length)
      else .ok (.int (if negative then -n else n), r))
  else
    let x := (Real.readDecimal negative (whole ++ fraction ++ exponent)).map Real.ofDecimal
    pure (.ok (.real (x.getD .nan), r))

/-- Infinity and the value that is no number, with or without a sign. -/
def specialNumber? (cs : List Char) : Option (Value × List Char) :=
  let (negative, r) := match cs with
    | '-' :: r => (true, r)
    | '+' :: r => (false, r)
    | r => (false, r)
  if r.take 3 = ['i', 'n', 'f'] then some (.real (.infinite negative), r.drop 3)
  else if r.take 3 = ['n', 'a', 'n'] then some (.real .nan, r.drop 3)
  else none

def numberOrMoment (cs : List Char) : Except Problem (Value × List Char) :=
  match moment? cs with
  | some r => r
  | none =>
    match radixNumber? cs with
    | some r => .ok r
    | none =>
      match decimalNumber? cs with
      | some r => r
      | none =>
        match specialNumber? cs with
        | some r => .ok r
        | none => fail "Invalid value" cs

end Conform.Toml
