import Conform.Text.Pieces

/-!
Written network addresses of version 4 and version 6.
-/
namespace Conform.Address

def isHexDigit (c : Char) : Bool := c.isDigit || ('a' ≤ c && c ≤ 'f') || ('A' ≤ c && c ≤ 'F')

/-- A number up to 255 without leading zeros. -/
def isOctet (cs : List Char) : Bool :=
  !cs.isEmpty && cs.all Char.isDigit && cs.length ≤ 3 && (cs == ['0'] || cs.head? != some '0') &&
    Nat.ofDigitChars 10 cs 0 ≤ 255

def isVersion4 (cs : List Char) : Bool :=
  let octets := Text.pieces '.' cs
  octets.length == 4 && octets.all isOctet

def isGroup (cs : List Char) : Bool := !cs.isEmpty && cs.length ≤ 4 && cs.all isHexDigit

/-- The groups of an address, a version 4 address at the end counting as two. -/
def expandTail : List (List Char) → Option (List (List Char))
  | [] => some []
  | [last] =>
    if last.contains '.' then if isVersion4 last then some [['0'], ['0']] else none
    else some [last]
  | g :: gs => (expandTail gs).map (g :: ·)

/-- Eight groups; a double colon, which may stand once, replaces one group or more. The double
colon shows as an empty group inside, or as two at an end. -/
def areGroups (groups : List (List Char)) : Bool :=
  let inner := groups.tail.dropLast
  let gaps := (inner.filter List.isEmpty).length
  if 9 < groups.length || 1 < gaps then false
  else if gaps = 0 then groups.length == 8 && groups.all isGroup
  else
    let high := groups.takeWhile (!·.isEmpty)
    let low := (groups.reverse.takeWhile (!·.isEmpty)).reverse
    let leading := groups.head? == some []
    let trailing := groups.getLast? == some []
    let high := if leading then [] else high
    let low := if trailing then [] else low
    let empties := 1 + (if leading then 1 else 0) + (if trailing then 1 else 0)
    high.length + low.length + empties == groups.length &&
      high.length + low.length ≤ 7 && (high ++ low).all isGroup

/-- An address may name its scope after a percent sign. -/
def withoutScope (cs : List Char) : Option (List Char) :=
  match Text.pieces '%' cs with
  | [address] => some address
  | [address, scope] => if scope.isEmpty then none else some address
  | _ => none

def isVersion6 (cs : List Char) : Bool :=
  if cs.contains '/' then false
  else
    match withoutScope cs with
    | none => false
    | some address =>
      let groups := Text.pieces ':' address
      3 ≤ groups.length &&
        match expandTail groups with
        | none => false
        | some gs => areGroups gs

end Conform.Address
