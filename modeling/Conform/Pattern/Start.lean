import Conform.Pattern.Class

/-!
What a text must go on with for a sequence of items to match: the character that it starts with,
or the characters one of which it starts with, as far as the first item alone tells.
-/
namespace Conform.Pattern

/-- Whether a character is looked for as it is. -/
def isExact (f : Flags) (n : Nat) : Bool := !(f.ignoreCase && cased f.ascii n)

mutual

/-- The character that an item starts with, if it is followed by what starts with `next`.
`open_` says whether to look into groups that are marked. -/
def Node.startCode? (open_ : Bool) (f : Flags) (next : Option Nat) : Node → Option Nat
  | .code n => if isExact f n then some n else none
  | .group none on off body => startCode? open_ (f.inside on off) next body
  | .group (some _) on off body =>
    if open_ then startCode? open_ (f.inside on off) next body else none
  | _ => none

def startCode? (open_ : Bool) (f : Flags) (next : Option Nat) : List Node → Option Nat
  | [] => next
  | n :: ns => n.startCode? open_ f (startCode? open_ f next ns)

end

/-- An item that matches one character. Its repetitions are counted at once, or each is matched
by itself. -/
structure Single where
  holds : Nat → Bool
  isStepwise : Bool := false

/-- Whether some other character than the two cases of a letter matches it. -/
def hasPartners (f : Flags) (n : Nat) : Bool :=
  f.ignoreCase && !f.ascii && cased false n && !(partners (fold false n)).isEmpty

def dependsOnCase (f : Flags) (items : List ClassItem) : Bool :=
  f.ignoreCase && items.any (·.dependsOnCase f.ascii)

mutual

/-- The single characters that an item matches; `none` for an item that is not one character. -/
def Node.single? (f : Flags) : Node → Option Single
  | .any => some ⟨fun n => f.dotAll || n != 10, false⟩
  | .code m => some ⟨isCode f m, hasPartners f m⟩
  | .notCode m => some ⟨fun n => !isCode f m n, hasPartners f m⟩
  | .set negated items => some ⟨inSet f negated items, dependsOnCase f items⟩
  | .group none on off body => single? (f.inside on off) body
  | _ => none

def single? (f : Flags) : List Node → Option Single
  | [n] => n.single? f
  | _ => none

end

mutual

/-- The test that an item begins with, if it is one on a character as it is. -/
def Node.startTest? (f : Flags) : Node → Option (Nat → Bool)
  | .code n => if isExact f n then some (· == n) else none
  | .set negated items =>
    if dependsOnCase f items then none else some (inSet f negated items)
  | .group none on off body => startTest? (f.inside on off) body
  | _ => none

def startTest? (f : Flags) : List Node → Option (Nat → Bool)
  | [] => none
  | .group none _ _ [] :: ns => startTest? f ns
  | n :: _ => n.startTest? f

end

/-- Characters to look for: those that the items match, or all others. -/
structure StartSet where
  negated : Bool
  items : List ClassItem

def headCodes? (f : Flags) : List (List Node) → Option (List ClassItem)
  | [] => some []
  | (.code n :: _) :: rest =>
    if isExact f n then (headCodes? f rest).map (.code n :: ·) else none
  | _ => none

/-- Whether a member of a class is the same with and without regard to case. -/
def ClassItem.isExact (f : Flags) : ClassItem → Bool
  | .code n => Pattern.isExact f n
  | .range low high =>
    !f.ignoreCase || (high < basicPlane && !anyFrom (cased f.ascii) low (high + 1 - low))
  | .category _ _ => true

mutual

def Node.startSet? (f : Flags) : Node → Option StartSet
  | .code n => if isExact f n then some ⟨false, [.code n]⟩ else none
  | .set negated items => if items.all (·.isExact f) then some ⟨negated, items⟩ else none
  | .branch as => (headCodes? f as).map (⟨false, ·⟩)
  | .group _ on off body => startSet? (f.inside on off) body
  | _ => none

def startSet? (f : Flags) : List Node → Option StartSet
  | [] => none
  | n :: _ => n.startSet? f

end

/-- What the first character of a match must be, if a search looks for that first. Classes are
looked for under the flags of the whole pattern, also where a group has others. -/
def searchTest? (f : Flags) (body : List Node) : Option (Nat → Bool) :=
  match startCode? true f none body with
  | some n => some (· == n)
  | none => (startSet? f body).map fun s => inSet { f with ignoreCase := false } s.negated s.items

end Conform.Pattern
