import Conform.Pattern.Tree
import Conform.Pattern.Folding
import Conform.Text.Blank
import Conform.Text.Digit
import Conform.Text.Word

/-!
Which code points single-character items of a pattern match, with and without regard to case.
-/
namespace Conform.Pattern

/-- A property of the character of a code point; surrogates have none. -/
def ofCode (p : Char → Bool) (n : Nat) : Bool := decide n.isValidChar && p (Char.ofNat n)

def isAsciiWord (c : Char) : Bool := c.isAlphanum || c == '_'

def wordAt (ascii : Bool) (n : Nat) : Bool := ofCode (if ascii then isAsciiWord else Text.isWord) n

def Category.holds (ascii : Bool) (n : Nat) : Category → Bool
  | .digit => ofCode (if ascii then Char.isDigit else Text.isDecimalDigit) n
  | .space =>
    if ascii then n == 32 || (9 ≤ n && n ≤ 13) else ofCode Text.isBlank n
  | .word => wordAt ascii n

def ClassItem.holds (ascii : Bool) (n : Nat) : ClassItem → Bool
  | .code m => n == m
  | .range low high => low ≤ n && n ≤ high
  | .category c negated => c.holds ascii n != negated

def fold (ascii : Bool) (n : Nat) : Nat := if ascii then asciiLower n else Text.lowerCode n

def cased (ascii : Bool) (n : Nat) : Bool := if ascii then isAsciiCased n else isCased n

/-- Whether two code points have the same lower case, or lower cases that share an upper case. -/
def sameFolded (ascii : Bool) (folded m : Nat) : Bool :=
  let l := fold ascii m
  folded == l || (!ascii && (partners l).contains folded)

/-- The size of the basic plane, beyond which classes compare case letter by letter. -/
def basicPlane : Nat := 0x10000

/-- Whether some code point from `low` on, of `count`, satisfies a property. -/
def anyFrom (p : Nat → Bool) (low : Nat) : Nat → Bool
  | 0 => false
  | count + 1 => p low || anyFrom p (low + 1) count

/-- Whether a member of a class makes the class depend on case. -/
def ClassItem.dependsOnCase (ascii : Bool) : ClassItem → Bool
  | .code m => basicPlane ≤ fold ascii m || cased ascii m
  | .range low high => basicPlane ≤ high || anyFrom (cased ascii) low (high + 1 - low)
  | .category _ _ => false

/-- Whether a member of a class matches a code point already brought to lower case. -/
def ClassItem.holdsFolded (ascii : Bool) (n : Nat) : ClassItem → Bool
  | .code m => if basicPlane ≤ fold ascii m then n == m else sameFolded ascii n m
  | .range low high =>
    if high < basicPlane then anyFrom (sameFolded ascii n) low (high + 1 - low)
    else
      (low ≤ n && n ≤ high) || (low ≤ upperCode n && upperCode n ≤ high) ||
        anyFrom (sameFolded ascii n) low (basicPlane - low)
  | .category c negated => c.holds ascii n != negated

def inSet (f : Flags) (negated : Bool) (items : List ClassItem) (n : Nat) : Bool :=
  let found :=
    if f.ignoreCase && items.any (·.dependsOnCase f.ascii) then
      items.any (·.holdsFolded f.ascii (fold f.ascii n))
    else items.any (·.holds f.ascii n)
  found != negated

def isCode (f : Flags) (m n : Nat) : Bool :=
  if f.ignoreCase && cased f.ascii m then sameFolded f.ascii (fold f.ascii n) m else n == m

end Conform.Pattern
