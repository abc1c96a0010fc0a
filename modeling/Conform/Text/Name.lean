import Conform.Text.Name.Ancient
import Conform.Text.Name.Ideographs
import Conform.Text.Name.Others
import Conform.Text.Name.Pictures
import Conform.Text.Name.Scripts
import Conform.Text.Name.Syllables
import Conform.Text.Name.Symbols
import Conform.Text.Pieces

/-!
Characters by their names (Unicode 14.0). Most names are listed; Korean syllables are named for
their parts, and ideographs for their numbers.
-/
namespace Conform.Text

/-- The tables of names, read one behind the other. -/
def nameTables : List String :=
  [scriptNames, syllableNames, symbolNames, ideographNames, ancientNames, pictureNames, otherNames]

def hexDigit? (c : Char) : Option Nat :=
  if c.isDigit then some (c.toNat - 48)
  else if 'a' ≤ c ∧ c ≤ 'f' then some (c.toNat - 87)
  else if 'A' ≤ c ∧ c ≤ 'F' then some (c.toNat - 55)
  else none

def hexNumber? (cs : List Char) : Option Nat :=
  if cs.isEmpty then none else cs.foldlM (fun n c => (hexDigit? c).map (16 * n + ·)) 0

/-- What a search has found, or the words of the last name read. -/
abbrev NameSearch := Except Nat (List (List Char))

/-- Looks for a name among those of characters in a row. -/
def searchRow (wanted : List (List Char)) : Nat → List (List Char) → List (List Char) → NameSearch
  | _, previous, [] => .ok previous
  | code, previous, entry :: entries =>
    let shared := (entry.head?.map fun d => d.toNat - 48).getD 0
    let words := previous.take shared ++ pieces ' ' (entry.drop 1)
    if words = wanted then .error code else searchRow wanted (code + 1) words entries

def searchLine (wanted previous : List (List Char)) (line : String) : NameSearch :=
  let cs := line.toList
  match hexNumber? (cs.takeWhile (· != ' ')) with
  | some code => searchRow wanted code previous (pieces ';' ((cs.dropWhile (· != ' ')).drop 1))
  | none => .ok previous

def searchTable (wanted previous : List (List Char)) (table : String) : NameSearch :=
  (table.splitOn "\n").foldlM (searchLine wanted) previous

/-- The character that a table lists under a name. -/
def listedCode? (name : List Char) : Option Nat :=
  match nameTables.foldlM (searchTable (pieces ' ' name)) [] with
  | .error code => some code
  | .ok _ => none

/-- What names of numbered characters begin with, and which characters these are. -/
def numberedNames : List (String × List (Nat × Nat)) := [
  ("CJK COMPATIBILITY IDEOGRAPH-", [(0xf900, 0xfa6d), (0xfa70, 0xfad9), (0x2f800, 0x2fa1d)]),
  ("KHITAN SMALL SCRIPT CHARACTER-", [(0x18b00, 0x18cd5)]),
  ("NUSHU CHARACTER-", [(0x1b170, 0x1b2fb)])]

def unifiedIdeographs : List (Nat × Nat) := [
  (0x3400, 0x4dbf), (0x4e00, 0x9fff), (0x20000, 0x2a6df), (0x2a700, 0x2b738), (0x2b740, 0x2b81d),
  (0x2b820, 0x2cea1), (0x2ceb0, 0x2ebe0), (0x30000, 0x3134a)]

def inRanges (ranges : List (Nat × Nat)) (n : Nat) : Bool :=
  ranges.any fun r => r.1 ≤ n && n ≤ r.2

/-- What follows a stem. -/
def behind? (stem : String) (cs : List Char) : Option (List Char) :=
  if stem.toList.isPrefixOf cs then some (cs.drop stem.length) else none

/-- The character that a name numbers behind a stem, without zeros in front. -/
def numberedCode? (name : List Char) : Option Nat :=
  numberedNames.findSome? fun (stem, ranges) => do
    let digits ← behind? stem name
    let n ← hexNumber? digits
    if inRanges ranges n && digits.head? != some '0' then some n else none

/-- The ideograph that four or five digits number; there are no small letters among them. -/
def ideographCode? (digits : List Char) : Option Nat := do
  let n ← hexNumber? digits
  if (digits.length = 4 ∨ digits.length = 5) ∧ digits.all (!·.isLower) ∧
    inRanges unifiedIdeographs n then some n else none

def syllableLeads : List String :=
  ["G", "GG", "N", "D", "DD", "R", "M", "B", "BB", "S", "SS", "", "J", "JJ", "C", "K", "T", "P",
    "H"]

def syllableVowels : List String :=
  ["A", "AE", "YA", "YAE", "EO", "E", "YEO", "YE", "O", "WA", "WAE", "OE", "YO", "U", "WEO", "WE",
    "WI", "YU", "EU", "YI", "I"]

def syllableTails : List String :=
  ["", "G", "GG", "GS", "N", "NJ", "NH", "D", "L", "LG", "LM", "LB", "LS", "LT", "LP", "LH", "M",
    "B", "BS", "S", "SS", "NG", "J", "C", "K", "T", "P", "H"]

/-- The longest of the parts that a text begins with, by its position, and the rest. -/
def longestPart? (parts : List String) (cs : List Char) : Option (Nat × List Char) :=
  let longest := parts.zipIdx.foldl (fun (best : Option (String × Nat)) x =>
    if x.1.toList.isPrefixOf cs && best.all (·.1.length < x.1.length) then some x else best) none
  longest.map fun x => (x.2, cs.drop x.1.length)

/-- The syllable that is made of three parts, of which the first and the last may be empty. -/
def syllableCode? (cs : List Char) : Option Nat := do
  let (lead, cs) ← longestPart? syllableLeads cs
  let (vowel, cs) ← longestPart? syllableVowels cs
  let (tail, cs) ← longestPart? syllableTails cs
  if cs.isEmpty then some (0xac00 + (lead * 21 + vowel) * 28 + tail) else none

/-- The character of a name. The letters of a name may be small, except for syllables and unified
ideographs. -/
def ofName? (name : String) : Option Nat :=
  let cs := name.toList
  match behind? "HANGUL SYLLABLE " cs, behind? "CJK UNIFIED IDEOGRAPH-" cs with
  | some parts, _ => syllableCode? parts
  | none, some digits => ideographCode? digits
  | none, none =>
    let cs := cs.map Char.toUpper
    numberedCode? cs <|> listedCode? cs

end Conform.Text
