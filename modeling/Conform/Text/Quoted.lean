import Conform.Text.Printable

/-!
Quoted literals. The single quote encloses a text unless it holds single quotes and no double
ones; the enclosing quote, the backslash and everything that is not printable is escaped.
-/
namespace Conform.Text

def hexDigits (width n : Nat) : List Char :=
  let ds := Nat.toDigits 16 n
  List.replicate (width - ds.length) '0' ++ ds

def quoteMark (cs : List Char) : Char :=
  if cs.contains '\'' && !cs.contains '"' then '"' else '\''

def escapeChar (mark c : Char) : List Char :=
  let n := c.toNat
  if c = mark ∨ c = '\\' then ['\\', c]
  else if c = '\n' then ['\\', 'n']
  else if c = '\r' then ['\\', 'r']
  else if c = '\t' then ['\\', 't']
  else if isPrintable c then [c]
  else if n ≤ 0xff then '\\' :: 'x' :: hexDigits 2 n
  else if n ≤ 0xffff then '\\' :: 'u' :: hexDigits 4 n
  else '\\' :: 'U' :: hexDigits 8 n

def quotedChars (cs : List Char) : List Char :=
  let mark := quoteMark cs
  mark :: cs.flatMap (escapeChar mark) ++ [mark]

def quoted (s : String) : String := String.ofList (quotedChars s.toList)

def escapeOctet (mark : Char) (o : UInt8) : List Char :=
  if o.toNat < 128 then escapeChar mark (Char.ofNat o.toNat)
  else '\\' :: 'x' :: hexDigits 2 o.toNat

/-- Byte strings: as text, with a `b` in front and every octet above 127 escaped. -/
def quotedOctets (os : List UInt8) : String :=
  let mark := quoteMark (os.map fun o => Char.ofNat o.toNat)
  String.ofList ('b' :: mark :: os.flatMap (escapeOctet mark) ++ [mark])

end Conform.Text
