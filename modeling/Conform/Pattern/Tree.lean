/-!
Regular expressions as trees, their flags, and the least and greatest number of characters that
they match.
-/
namespace Conform.Pattern

structure Flags where
  ignoreCase : Bool := false
  multiline : Bool := false
  dotAll : Bool := false
  verbose : Bool := false
  ascii : Bool := false
  unicode : Bool := false
  template : Bool := false
  deriving DecidableEq, Repr

namespace Flags

def ofChar? : Char → Option Flags
  | 'i' => some { ignoreCase := true }
  | 'm' => some { multiline := true }
  | 's' => some { dotAll := true }
  | 'x' => some { verbose := true }
  | 'a' => some { ascii := true }
  | 'u' => some { unicode := true }
  | 't' => some { template := true }
  | _ => none

def union (f g : Flags) : Flags where
  ignoreCase := f.ignoreCase || g.ignoreCase
  multiline := f.multiline || g.multiline
  dotAll := f.dotAll || g.dotAll
  verbose := f.verbose || g.verbose
  ascii := f.ascii || g.ascii
  unicode := f.unicode || g.unicode
  template := f.template || g.template

def meets (f g : Flags) : Bool :=
  (f.ignoreCase && g.ignoreCase) || (f.multiline && g.multiline) || (f.dotAll && g.dotAll) ||
    (f.verbose && g.verbose) || (f.ascii && g.ascii) || (f.unicode && g.unicode) ||
    (f.template && g.template)

/-- Whether a flag that chooses the character repertoire is set. -/
def choosesType (f : Flags) : Bool := f.ascii || f.unicode

def isEmpty (f : Flags) : Bool := f == {}

/-- The flags inside a group that turns some on and some off. -/
def inside (f on off : Flags) : Flags where
  ignoreCase := (f.ignoreCase || on.ignoreCase) && !off.ignoreCase
  multiline := (f.multiline || on.multiline) && !off.multiline
  dotAll := (f.dotAll || on.dotAll) && !off.dotAll
  verbose := (f.verbose || on.verbose) && !off.verbose
  ascii := if on.choosesType then on.ascii else f.ascii
  unicode := if on.choosesType then on.unicode else f.unicode
  template := f.template

end Flags

inductive Category where
  | digit | space | word
  deriving DecidableEq, Repr

inductive ClassItem where
  | code (n : Nat)
  | range (low high : Nat)
  | category (c : Category) (negated : Bool)
  deriving DecidableEq, Repr

inductive Anchor where
  | lineStart | lineEnd | textStart | textEnd | boundary | inner
  deriving DecidableEq, Repr

inductive Greed where
  | greedy | lazy | possessive
  deriving DecidableEq, Repr

inductive Node where
  | any
  | code (n : Nat)
  | notCode (n : Nat)
  | set (negated : Bool) (items : List ClassItem)
  | anchor (a : Anchor)
  | group (index : Option Nat) (on off : Flags) (body : List Node)
  | atomic (body : List Node)
  /-- A look ahead, or a look behind over a text of the given width. -/
  | look (behind : Option (Nat × Nat)) (negated : Bool) (body : List Node)
  | loop (greed : Greed) (least : Nat) (most : Option Nat) (body : List Node)
  | branch (alternatives : List (List Node))
  | back (group : Nat)
  | choice (group : Nat) (yes no : List Node)
  deriving Repr

/-- The items of a group that does nothing but enclose them; any other item by itself. -/
def Node.unpacked : Node → List Node
  | .group none on off body =>
    if on.isEmpty && off.isEmpty then body else [.group none on off body]
  | n => [n]

/-- Whether two items that hold no others are the same. -/
def Node.isSame : Node → Node → Bool
  | .any, .any => true
  | .code m, .code n => m == n
  | .notCode m, .notCode n => m == n
  | .set a xs, .set b ys => a == b && xs == ys
  | .anchor a, .anchor b => a == b
  | .back g, .back h => g == h
  | _, _ => false

/-- The items that two or more alternatives begin with in common, and what is left of each. -/
def splitCommon : List Node → List (List Node) → List Node × List (List Node)
  | [], others => ([], [] :: others)
  | n :: ns, others =>
    if others.all fun o => o.head?.any n.isSame then
      let (common, rests) := splitCommon ns (others.map List.tail)
      (n :: common, rests)
    else ([], (n :: ns) :: others)

/-- What an alternative adds to a class, if it is one character or one class. -/
def classItems? : List Node → Option (List ClassItem)
  | [.code n] => some [.code n]
  | [.set false items] => some items
  | _ => none

/-- Two or more alternatives: what they begin with in common comes first, and single characters
to choose from make a class. -/
def alternatives (first : List Node) (others : List (List Node)) : List Node :=
  let (common, rests) := splitCommon first others
  common ++ match rests.mapM classItems? with
    | some sets => [.set false sets.flatten.eraseDups]
    | none => [.branch rests]

/-- Least and greatest width. -/
abbrev Width := Nat × Nat

/-- What stands for every greatest width from here on, and for no bound. -/
def maxWidth : Nat := 4294967295

/-- Widths that are too great to tell apart; none of them is fixed. -/
def clip (w : Width) : Width := (min w.1 (maxWidth - 1), min w.2 maxWidth)

def joinWidths (w v : Width) : Width := (min w.1 v.1, max w.2 v.2)

mutual

/-- The width of a sequence, given the widths of the groups that it refers to. -/
def widthOf (groups : Array (Option Width)) (ns : List Node) : Width := clip (sumWidth groups ns)

def sumWidth (groups : Array (Option Width)) : List Node → Width
  | [] => (0, 0)
  | n :: ns =>
    let w := nodeWidth groups n
    let v := sumWidth groups ns
    (w.1 + v.1, w.2 + v.2)

def nodeWidth (groups : Array (Option Width)) : Node → Width
  | .any | .code _ | .notCode _ | .set _ _ => (1, 1)
  | .anchor _ | .look _ _ _ => (0, 0)
  | .group _ _ _ body => clip (sumWidth groups body)
  | .atomic body => clip (sumWidth groups body)
  | .loop _ least most body =>
    let w := clip (sumWidth groups body)
    (w.1 * least, w.2 * most.getD maxWidth)
  | .branch alternatives => branchWidth groups alternatives
  | .back g => ((groups.getD g none).getD (0, 0))
  | .choice _ yes no => joinWidths (clip (sumWidth groups yes)) (clip (sumWidth groups no))

def branchWidth (groups : Array (Option Width)) : List (List Node) → Width
  | [] => (maxWidth - 1, 0)
  | a :: as => joinWidths (clip (sumWidth groups a)) (branchWidth groups as)

end

/-- Why a pattern cannot be used. -/
inductive Problem where
  | malformed (message : String) (position : Option Nat)
  | repetition
  | digitLimit (digits : Nat)
  /-- A character number that is beyond even what is looked up. -/
  | codeLimit
  | clash
  /-- A look behind over a text that is too long. -/
  | tooFarBehind
  | outOfSteps
  deriving DecidableEq, Repr

end Conform.Pattern
