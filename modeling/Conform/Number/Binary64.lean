import Conform.Number.Decimal

/-!
Finite binary floating-point numbers of 53 significant bits, `mantissa · 2 ^ exponent`, in exact
integer arithmetic: the nearest one to a decimal (a tie goes to the even mantissa) and the
shortest decimal that reads back as a given one.
-/
namespace Conform

structure Binary64 where
  mantissa : Nat
  exponent : Int
  deriving DecidableEq, Repr

namespace Binary64

def minExponent : Int := -1074
def maxExponent : Int := 971

/-- The least mantissa whose leading bit is set. -/
def leadingUnit : Nat := 4503599627370496

/-- The quotient rounded to the nearest integer, a half to the even one. -/
def divHalfEven (num den : Nat) : Nat :=
  let q := num / den
  let r := num % den
  if den < 2 * r then q + 1
  else if 2 * r = den then q + q % 2
  else q

/-- The fraction `n / d · base ^ e` as a numerator and a denominator. -/
def scale (base n d : Nat) (e : Int) : Nat × Nat :=
  if 0 ≤ e then (n * Nat.pow base e.toNat, d) else (n, d * Nat.pow base (-e).toNat)

/-- The exponent of the leading bit of the positive fraction `n / d`. -/
def leadingBit (n d : Nat) : Int :=
  let b : Int := (Nat.log2 n : Int) - Nat.log2 d
  let (x, y) := scale 2 n d (-b)
  if y ≤ x then b else b - 1

/-- The nearest number to the fraction `n / d`; `none` beyond the largest. -/
def nearest (n d : Nat) : Option Binary64 :=
  if n = 0 then some ⟨0, minExponent⟩
  else
    let q := max (leadingBit n d - 52) minExponent
    let (x, y) := scale 2 n d (-q)
    let m := divHalfEven x y
    let (m, q) := if m = 2 * leadingUnit then (leadingUnit, q + 1) else (m, q)
    if maxExponent < q then none else some ⟨m, q⟩

/-- The nearest number to a decimal without its sign. Beyond `10 ^ 310` there is none, and below
`10 ^ -330` it is zero. -/
def ofDecimal (d : Decimal) : Option Binary64 :=
  let places : Int := (Nat.toDigits 10 d.digits).length + d.exponent
  if d.digits = 0 ∨ places < -330 then some ⟨0, minExponent⟩
  else if 310 < places then none
  else
    let (x, y) := scale 10 d.digits 1 d.exponent
    nearest x y

/-- The exact value as a fraction. -/
def ratio (b : Binary64) : Nat × Nat := scale 2 b.mantissa 1 b.exponent

/-- The exact value, when it is an integer. -/
def integer? (b : Binary64) : Option Nat :=
  let (x, y) := b.ratio
  if x % y = 0 then some (x / y) else none

/-- The exponent of the leading decimal digit of the positive fraction `n / d`. -/
def leadingDigit (n d : Nat) : Int :=
  let low : Int := ((Nat.log2 n : Int) - Nat.log2 d - 1) * 30103 / 100000 - 1
  let reaches (k : Int) : Bool := let (x, y) := scale 10 n d (-k); decide (y ≤ x)
  if reaches (low + 3) then low + 3
  else if reaches (low + 2) then low + 2
  else if reaches (low + 1) then low + 1
  else low

/-- Whether the decimal `c · 10 ^ e` reads back as `b`: it lies within half a unit of the last
place, a bound itself counting when the mantissa is even. -/
def readsBack (b : Binary64) (c : Nat) (e : Int) : Bool :=
  let (x, y) := scale 10 c 1 e
  let (u, v) := scale 2 1 1 (b.exponent - 2)
  let below := if b.mantissa = leadingUnit ∧ minExponent < b.exponent then 1 else 2
  let low := (4 * b.mantissa - below) * u
  let high := (4 * b.mantissa + 2) * u
  if b.mantissa % 2 = 0 then decide (low * y ≤ x * v) && decide (x * v ≤ high * y)
  else decide (low * y < x * v) && decide (x * v < high * y)

/-- The decimal with `n` digits that reads back and lies nearest, if there is one. -/
def shortestWith (b : Binary64) (lead : Int) (n : Nat) : Option (Nat × Int) :=
  let e := lead - n + 1
  let (x, y) := b.ratio
  let (x, y) := scale 10 x y (-e)
  let c := x / y
  let near := divHalfEven x y
  if readsBack b near e then some (near, e)
  else if readsBack b c e then some (c, e)
  else if readsBack b (c + 1) e then some (c + 1, e)
  else none

def shortestFrom (b : Binary64) (lead : Int) : Nat → Nat → Nat × Int
  | 0, n => (shortestWith b lead n).getD (b.mantissa, 0)
  | fuel + 1, n => (shortestWith b lead n).getD (shortestFrom b lead fuel (n + 1))

/-- The fewest digits that read back, and of those the nearest. Seventeen always suffice. -/
def shortest (b : Binary64) (negative : Bool) : Decimal :=
  if b.mantissa = 0 then ⟨negative, 0, 0⟩
  else
    let (x, y) := b.ratio
    let (c, e) := shortestFrom b (leadingDigit x y) 16 1
    (⟨negative, c, e⟩ : Decimal).normalize

end Binary64

end Conform
