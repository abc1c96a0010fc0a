import Conform.Number.Real

/-!
Numbers with a chosen number of digits: fixed places, an exponent, or whichever of the two is
shorter; the last digit is rounded, a half to the even one.
-/
namespace Conform.Log

def digitsOf (width n : Nat) : List Char :=
  let ds := Nat.toDigits 10 n
  List.replicate (width - ds.length) '0' ++ ds

/-- A point between two runs of digits, also behind the first alone if it is to be kept. -/
def withPoint (keep : Bool) (whole fraction : List Char) : List Char :=
  if fraction.isEmpty && !keep then whole else whole ++ '.' :: fraction

/-- The fraction `n / d` to a number of places. -/
def fixed (keep : Bool) (places n d : Nat) : List Char :=
  let ds := digitsOf (places + 1) (Binary64.divHalfEven (n * Nat.pow 10 places) d)
  withPoint keep (ds.take (ds.length - places)) (ds.drop (ds.length - places))

/-- The first `count` digits of the fraction `n / d`, and the exponent of the first of them. -/
def leading (count n d : Nat) : List Char × Int :=
  if n = 0 then (List.replicate count '0', 0)
  else
    let e := Binary64.leadingDigit n d
    let (x, y) := Binary64.scale 10 n d ((count : Int) - 1 - e)
    let c := Binary64.divHalfEven x y
    if c = Nat.pow 10 count then (Nat.toDigits 10 (c / 10), e + 1) else (Nat.toDigits 10 c, e)

def withExponent (keep : Bool) (ds : List Char) (e : Int) : List Char :=
  withPoint keep (ds.take 1) (ds.drop 1) ++ 'e' :: (Decimal.exponentText 2 e).toList

def scientific (keep : Bool) (places n d : Nat) : List Char :=
  let (ds, e) := leading (places + 1) n d
  withExponent keep ds e

def trimmed (keep : Bool) (ds : List Char) : List Char :=
  if keep then ds else (ds.reverse.dropWhile (· == '0')).reverse

/-- A number of significant digits, positional from `10 ^ -4` up to below `10 ^ count`; zeros at
the end are left out unless they are to be kept. -/
def general (keep : Bool) (count n d : Nat) : List Char :=
  let count := max count 1
  let (ds, e) := leading count n d
  if e < -4 ∨ (count : Int) ≤ e then
    withExponent keep (ds.take 1 ++ trimmed keep (ds.drop 1)) e
  else if e < 0 then
    withPoint keep ['0'] (trimmed keep (List.replicate (-e - 1).toNat '0' ++ ds))
  else
    withPoint keep (ds.take (e.toNat + 1)) (trimmed keep (ds.drop (e.toNat + 1)))

end Conform.Log
