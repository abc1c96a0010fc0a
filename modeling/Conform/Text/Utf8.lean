import Conform.Fault
import Conform.Uri.Percent

/-!
Octets as text. What is no UTF-8 is refused, with the place of the first character that is broken
off and the reason.
-/
namespace Conform.Text

/-- A character begun, with its first octet and the place of that. -/
structure Lead where
  begun : Uri.Begun
  octet : Nat
  place : Nat

/-- The fault of the octets from place `i` on, a character perhaps having been begun before. -/
def undecodable? (lead : Option Lead) (i : Nat) : List Nat → Option Fault
  | [] => lead.map fun l => .undecodable l.octet l.place (i - 1) "unexpected end of data"
  | o :: os =>
    match lead with
    | none =>
      if o < 0x80 then undecodable? none (i + 1) os
      else
        match Uri.begin? o with
        | .error _ => some (.undecodable o i i "invalid start byte")
        | .ok b => undecodable? (some ⟨b, o, i⟩) (i + 1) os
    | some l =>
      if l.begun.low ≤ o && o ≤ l.begun.high then
        if l.begun.missing ≤ 1 then undecodable? none (i + 1) os
        else
          undecodable? (some { l with begun := ⟨0, l.begun.missing - 1, 0x80, 0xbf⟩ }) (i + 1) os
      else some (.undecodable l.octet l.place (i - 1) "invalid continuation byte")

/-- The text of octets. -/
def ofUtf8 (os : List UInt8) : Except Fault String :=
  let os := os.map UInt8.toNat
  match undecodable? none 0 os with
  | some f => .error f
  | none => .ok (String.ofList (Uri.decodeFrom none os))

end Conform.Text
