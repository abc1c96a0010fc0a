import Conform.Number.Binary64

/-!
Floating-point values as documents write them. A finite one is held by its shortest decimal, so
two of them are the same value exactly when they have the same digits, exponent and sign.
-/
namespace Conform

inductive Real where
  | nan
  | infinite (negative : Bool)
  | finite (shortest : Decimal)
  deriving DecidableEq, Repr

namespace Real

/-- The floating-point value nearest to a decimal. -/
def ofDecimal (d : Decimal) : Real :=
  match Binary64.ofDecimal d with
  | none => .infinite d.negative
  | some b => .finite (b.shortest d.negative)

def isFinite : Real → Bool
  | .finite _ => true
  | _ => false

/-- The digits as written: positional text keeps one zero after the point. -/
def written (d : Decimal) : Decimal :=
  let p : Int := (Nat.toDigits 10 d.digits).length + d.exponent
  if 0 ≤ d.exponent ∧ p ≤ 16 then ⟨d.negative, d.digits * Nat.pow 10 (d.exponent + 1).toNat, -1⟩ else d

/-- Positional from `10 ^ -4` up to below `10 ^ 16`, otherwise with an exponent of at least two
digits. -/
def finiteText (d : Decimal) : String :=
  let s := Nat.toDigits 10 d.digits
  let n := s.length
  let p : Int := n + d.exponent
  Decimal.signText d.negative ++
    if -4 < p ∧ p ≤ 16 then
      if 0 ≤ d.exponent then String.ofList (s ++ List.replicate d.exponent.toNat '0') ++ ".0"
      else Decimal.pointed s p
    else
      (if n = 1 then String.ofList s else Decimal.pointed s 1) ++ "e" ++
        Decimal.exponentText 2 (p - 1)

def text : Real → String
  | .nan => "nan"
  | .infinite negative => Decimal.signText negative ++ "inf"
  | .finite d => finiteText d

/-- The text of the value as an exact decimal. -/
def decimalText : Real → String
  | .nan => "NaN"
  | .infinite negative => Decimal.signText negative ++ "Infinity"
  | .finite d => (written d).text

/-- Equality of numbers: no value equals `nan`, and the sign of zero does not matter. -/
def equal : Real → Real → Bool
  | .finite a, .finite b => a.equal b
  | .infinite a, .infinite b => a == b
  | _, _ => false

/-- The exact integer that the value denotes, if it denotes one. -/
def integer? : Real → Option Int
  | .finite d => ((Binary64.ofDecimal d).bind Binary64.integer?).map fun n =>
      if d.negative then -(n : Int) else n
  | _ => none

def isNonNegative : Real → Bool
  | .nan => false
  | .infinite negative => !negative
  | .finite d => !d.negative || d.digits == 0

def isZero : Real → Bool
  | .finite d => d.digits == 0
  | _ => false

def digitsValue (cs : List Char) : Nat := Nat.ofDigitChars 10 cs 0

/-- Reads `digits [. digits] [e [sign] digits]` as an exact decimal. -/
def readDecimal (negative : Bool) (cs : List Char) : Option Decimal :=
  let whole := cs.takeWhile Char.isDigit
  let rest := cs.dropWhile Char.isDigit
  let (fraction, rest) := match rest with
    | '.' :: r => (r.takeWhile Char.isDigit, r.dropWhile Char.isDigit)
    | r => ([], r)
  if whole.isEmpty && fraction.isEmpty then none
  else
    let digits := digitsValue (whole ++ fraction)
    let shift : Int := -(fraction.length : Int)
    match rest with
    | [] => some ⟨negative, digits, shift⟩
    | e :: r =>
      if e = 'e' ∨ e = 'E' then
        let (minus, r) := match r with
          | '-' :: r => (true, r)
          | '+' :: r => (false, r)
          | r => (false, r)
        if !r.isEmpty && r.all Char.isDigit then
          let x : Int := digitsValue r
          some ⟨negative, digits, shift + if minus then -x else x⟩
        else none
      else none

/-- Reads a number, `inf` or `nan`, with an optional sign, rounding to the nearest value. -/
def ofText? (s : String) : Option Real :=
  let (negative, cs) := match s.toList with
    | '-' :: r => (true, r)
    | '+' :: r => (false, r)
    | r => (false, r)
  if cs = "inf".toList then some (.infinite negative)
  else if cs = "nan".toList then some .nan
  else (readDecimal negative cs).map ofDecimal

end Real

end Conform
