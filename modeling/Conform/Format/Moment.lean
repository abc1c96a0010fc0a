import Conform.Text.Digit
import Conform.Text.Pieces

/-!
Calendar dates and times of day in text. Leading zeros may be left out except in the year, and
the last digit of a number may be a digit of any script.
-/
namespace Conform.Moment

def isLeap (year : Nat) : Bool := (year % 4 == 0 && year % 100 != 0) || year % 400 == 0

def daysIn (year month : Nat) : Nat :=
  if month = 2 then (if isLeap year then 29 else 28)
  else if month = 4 ∨ month = 6 ∨ month = 9 ∨ month = 11 then 30
  else 31

/-- The value of a digit of the first script up to `most`. -/
def plainDigit? (most : Nat) (c : Char) : Option Nat :=
  if c.isDigit && c.toNat - 48 ≤ most then some (c.toNat - 48) else none

/-- One digit, or a digit up to `most` and another one. -/
def upToSixty? (most : Nat) : List Char → Option Nat
  | [c] => Text.digitValue? c
  | [a, b] => do
    let x ← plainDigit? most a
    let y ← Text.digitValue? b
    pure (10 * x + y)
  | _ => none

def year? : List Char → Option Nat
  | [a, b, c, d] => do
    let w ← Text.digitValue? a
    let x ← Text.digitValue? b
    let y ← Text.digitValue? c
    let z ← Text.digitValue? d
    pure (1000 * w + 100 * x + 10 * y + z)
  | _ => none

/-- A number from 1 up, of plain digits, with at most one zero in front. -/
def countFrom1? : List Char → Option Nat
  | [a] => (plainDigit? 9 a).bind fun x => if x = 0 then none else some x
  | [a, b] => do
    let x ← plainDigit? 9 a
    let y ← plainDigit? 9 b
    if x = 0 ∧ y = 0 then none else pure (10 * x + y)
  | _ => none

def month? (cs : List Char) : Option Nat :=
  (countFrom1? cs).bind fun m => if m ≤ 12 then some m else none

/-- The day of a month; a blank may stand for the leading zero. -/
def day? : List Char → Option Nat
  | [' ', b] => (plainDigit? 9 b).bind fun y => if y = 0 then none else some y
  | [a, b] =>
    if a = '1' ∨ a = '2' then
      (Text.digitValue? b).bind fun y => (plainDigit? 2 a).map fun x => 10 * x + y
    else (countFrom1? [a, b]).bind fun d => if d ≤ 31 then some d else none
  | cs => countFrom1? cs

def isDate (cs : List Char) : Bool :=
  match Text.pieces '-' cs with
  | [y, m, d] =>
    match year? y, month? m, day? d with
    | some year, some month, some day => 0 < year && day ≤ daysIn year month
    | _, _, _ => false
  | _ => false

def isHour (cs : List Char) : Bool :=
  match cs with
  | ['2', b] => (plainDigit? 3 b).isSome
  | _ => (upToSixty? 1 cs).isSome

def isSixtieth (cs : List Char) : Bool := (upToSixty? 5 cs).isSome

def isTime (cs : List Char) : Bool :=
  match Text.pieces ':' cs with
  | [h, m, s] => isHour h && isSixtieth m && isSixtieth s
  | _ => false

/-- A time whose seconds may have one to six decimal places. -/
def isFineTime (cs : List Char) : Bool :=
  match Text.pieces '.' cs with
  | [t] => isTime t
  | [t, fraction] =>
    isTime t && !fraction.isEmpty && fraction.length ≤ 6 && fraction.all Char.isDigit
  | _ => false

/-- A date, the letter T, a time and the letter Z. -/
def isDateTime (cs : List Char) : Bool :=
  let date := cs.takeWhile fun c => !(c == 'T' || c == 't')
  let rest := (cs.dropWhile fun c => !(c == 'T' || c == 't')).drop 1
  match rest.getLast? with
  | some z => (z == 'Z' || z == 'z') && isDate date && isFineTime rest.dropLast
  | none => false

end Conform.Moment
