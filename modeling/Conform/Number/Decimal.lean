/-!
Exact decimals `± digits · 10 ^ exponent`, their order, divisibility and scientific text.
Comparison brings both sides to the smaller exponent, so it never rounds.
-/
namespace Conform

structure Decimal where
  negative : Bool
  digits : Nat
  exponent : Int
  deriving DecidableEq, Repr

namespace Decimal

def ofInt (n : Int) : Decimal := ⟨decide (n < 0), n.natAbs, 0⟩

/-- The digits with their sign. -/
def coefficient (d : Decimal) : Int := if d.negative then -(d.digits : Int) else d.digits

/-- How many units of `10 ^ e` the decimal is worth, for `e` at most its exponent. -/
def unitsAt (d : Decimal) (e : Int) : Int := d.coefficient * Nat.pow 10 (d.exponent - e).toNat

def le (a b : Decimal) : Bool :=
  let e := min a.exponent b.exponent
  decide (a.unitsAt e ≤ b.unitsAt e)

def lt (a b : Decimal) : Bool :=
  let e := min a.exponent b.exponent
  decide (a.unitsAt e < b.unitsAt e)

def equal (a b : Decimal) : Bool :=
  let e := min a.exponent b.exponent
  decide (a.unitsAt e = b.unitsAt e)

/-- Whether `a` is an integer multiple of `b`; of zero only zero is a multiple. -/
def isMultipleOf (a b : Decimal) : Bool :=
  let e := min a.exponent b.exponent
  decide (a.unitsAt e % b.unitsAt e = 0)

def isPositive (d : Decimal) : Bool := !d.negative && d.digits != 0

/-- Moves trailing zeros of the digits into the exponent; `fuel` bounds how many. -/
def trimZeros : Nat → Nat → Int → Nat × Int
  | 0, n, e => (n, e)
  | fuel + 1, n, e => if n % 10 = 0 then trimZeros fuel (n / 10) (e + 1) else (n, e)

/-- The same value with the fewest digits; zero has exponent zero. -/
def normalize (d : Decimal) : Decimal :=
  if d.digits = 0 then ⟨d.negative, 0, 0⟩
  else
    let (n, e) := trimZeros (Nat.toDigits 10 d.digits).length d.digits d.exponent
    ⟨d.negative, n, e⟩

def signText (negative : Bool) : String := if negative then "-" else ""

/-- An exponent with its sign, padded to `width` digits. -/
def exponentText (width : Nat) (x : Int) : String :=
  let digits := Nat.toDigits 10 x.natAbs
  (if x < 0 then "-" else "+") ++ String.ofList (List.replicate (width - digits.length) '0' ++ digits)

/-- The digits `s` with a point before position `p`, which is at most their number; a leading
zero is written when no digit stands before the point. -/
def pointed (s : List Char) (p : Int) : String :=
  if p ≤ 0 then "0." ++ String.ofList (List.replicate (-p).toNat '0' ++ s)
  else String.ofList (s.take p.toNat) ++ "." ++ String.ofList (s.drop p.toNat)

/-- Positional when the exponent is not positive and fewer than six zeros follow the point,
otherwise one digit before the point and an explicit exponent. -/
def text (d : Decimal) : String :=
  let s := Nat.toDigits 10 d.digits
  let p : Int := s.length + d.exponent
  signText d.negative ++
    if d.exponent = 0 then String.ofList s
    else if d.exponent < 0 ∧ -6 < p then pointed s p
    else (if s.length = 1 then String.ofList s else pointed s 1) ++ "E" ++ exponentText 1 (p - 1)

end Decimal

end Conform
