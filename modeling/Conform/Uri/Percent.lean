import Conform.Address

/-!
Percent escapes. The escaped octets are read as UTF-8; what is no UTF-8 becomes the replacement
character.
-/
namespace Conform.Uri

def hexDigitValue (c : Char) : Nat :=
  if c.isDigit then c.toNat - 48 else if 'a' ≤ c then c.toNat - 87 else c.toNat - 55

/-- The octets of a text, every escape standing for one. -/
def unescapedOctets : List Char → List Nat
  | '%' :: a :: b :: r =>
    if Address.isHexDigit a && Address.isHexDigit b then
      (16 * hexDigitValue a + hexDigitValue b) :: unescapedOctets r
    else 37 :: unescapedOctets (a :: b :: r)
  | c :: r => (String.utf8EncodeChar c).map UInt8.toNat ++ unescapedOctets r
  | [] => []

/-- A character begun: its bits so far, how many octets it lacks, and the range of the next. -/
structure Begun where
  bits : Nat
  missing : Nat
  low : Nat := 0x80
  high : Nat := 0xbf

def replacement : Char := Char.ofNat 0xfffd

/-- Reads an octet where a character begins. -/
def begin? (o : Nat) : Except Char Begun :=
  if o < 0x80 then .error (Char.ofNat o)
  else if 0xc2 ≤ o && o ≤ 0xdf then .ok ⟨o - 0xc0, 1, 0x80, 0xbf⟩
  else if o = 0xe0 then .ok ⟨0, 2, 0xa0, 0xbf⟩
  else if o = 0xed then .ok ⟨13, 2, 0x80, 0x9f⟩
  else if 0xe1 ≤ o && o ≤ 0xef then .ok ⟨o - 0xe0, 2, 0x80, 0xbf⟩
  else if o = 0xf0 then .ok ⟨0, 3, 0x90, 0xbf⟩
  else if 0xf1 ≤ o && o ≤ 0xf3 then .ok ⟨o - 0xf0, 3, 0x80, 0xbf⟩
  else if o = 0xf4 then .ok ⟨4, 3, 0x80, 0x8f⟩
  else .error replacement

/-- Reads octets, having begun the character `b`. One replacement stands for each longest
beginning of a character that is not continued. -/
def decodeFrom (b : Option Begun) : List Nat → List Char
  | [] => if b.isSome then [replacement] else []
  | o :: os =>
    let fresh : List Char :=
      match begin? o with
      | .error c => c :: decodeFrom none os
      | .ok b' => decodeFrom (some b') os
    match b with
    | none => fresh
    | some b =>
      if b.low ≤ o && o ≤ b.high then
        let bits := 64 * b.bits + (o - 0x80)
        if b.missing ≤ 1 then Char.ofNat bits :: decodeFrom none os
        else decodeFrom (some ⟨bits, b.missing - 1, 0x80, 0xbf⟩) os
      else replacement :: fresh

def percentDecoded (s : String) : String :=
  String.ofList (decodeFrom none (unescapedOctets s.toList))

end Conform.Uri
