import Conform.Pattern.Tree
import Conform.Text.Name
import Conform.Text.Identifier
import Conform.Text.Integer
import Conform.Text.Quoted

/-!
Reading regular expressions. The reader looks one token ahead, a token being a character or a
backslash with the character after it; every problem is placed relative to the next token.
-/
namespace Conform.Pattern

inductive Tok where
  | plain (c : Char)
  | escape (c : Char)
  deriving DecidableEq, Repr

namespace Tok

def chars : Tok → List Char
  | .plain c => [c]
  | .escape c => ['\\', c]

def width (t : Tok) : Nat := t.chars.length

def text (t : Tok) : String := String.ofList t.chars

end Tok

structure State where
  pos : Nat := 0
  flags : Flags := {}
  /-- The widths of the groups read so far, the whole pattern being group zero; a group that is
  still open has none. -/
  groups : Array (Option Width) := #[none]
  names : List (String × Nat) := []
  /-- The number of groups when the outermost look-behind began. -/
  behind : Option Nat := none
  /-- Groups that conditions name by number, with the place of their first mention. -/
  mentions : List (Nat × Nat) := []

abbrev Reading := StateT State (Except Problem)

def tokenAt (src : Array Char) (i : Nat) : Option Tok :=
  match src[i]? with
  | none => none
  | some c => if c = '\\' then (src[i + 1]?).map .escape else some (.plain c)

def fail (offset : Nat) (message : String) : Reading α := do
  throw (.malformed message (some ((← get).pos - offset)))

/-- Goes to a position; a lone backslash at the end is refused as soon as it is next. -/
def moveTo (src : Array Char) (p : Nat) : Reading Unit := do
  if p + 1 = src.size ∧ src[p]? = some '\\' then
    throw (.malformed "bad escape (end of pattern)" (some (src.size - 1)))
  modify fun s => { s with pos := p }

def peek (src : Array Char) : Reading (Option Tok) := return tokenAt src (← get).pos

def next (src : Array Char) : Reading (Option Tok) := do
  match ← peek src with
  | none => return none
  | some t =>
    moveTo src ((← get).pos + t.width)
    return some t

def accept (src : Array Char) (c : Char) : Reading Bool := do
  if (← peek src) = some (.plain c) then
    let _ ← next src
    return true
  else return false

/-- At most `n` plain characters of a class. -/
def takeClass (src : Array Char) (p : Char → Bool) : Nat → Reading (List Char)
  | 0 => return []
  | n + 1 => do
    match ← peek src with
    | some (.plain c) =>
      if p c then
        let _ ← next src
        return c :: (← takeClass src p n)
      else return []
    | _ => return []

/-- The text up to a terminator, which must not stand first. -/
def takeUntil (src : Array Char) (terminator : Char) (what : String) :
    Nat → List Char → Reading (List Char)
  | 0, _ => throw .outOfSteps
  | n + 1, acc => do
    match ← next src with
    | none =>
      if acc.isEmpty then fail 0 ("missing " ++ what)
      else fail acc.length ("missing " ++ terminator.toString ++ ", unterminated name")
    | some t =>
      if t = .plain terminator then
        if acc.isEmpty then fail 1 ("missing " ++ what) else return acc
      else takeUntil src terminator what n (acc ++ t.chars)

def isOctalDigit (c : Char) : Bool := '0' ≤ c && c ≤ '7'

def isHexDigit (c : Char) : Bool := c.isDigit || ('a' ≤ c && c ≤ 'f') || ('A' ≤ c && c ≤ 'F')

def radixValue (base : Nat) (cs : List Char) : Nat :=
  cs.foldl (fun n c => base * n +
    (if c.isDigit then c.toNat - 48 else if 'a' ≤ c then c.toNat - 87 else c.toNat - 55)) 0

def hexEscape (src : Array Char) (letter : Char) (count : Nat) : Reading Nat := do
  let ds ← takeClass src isHexDigit count
  let shown := "\\" ++ String.ofList (letter :: ds)
  if ds.length ≠ count then fail (2 + ds.length) ("incomplete escape " ++ shown)
  let n := radixValue 16 ds
  if 0x7fffffff < n then throw .codeLimit
  if 0x10ffff < n then fail (2 + count) ("bad escape " ++ shown)
  return n

def namedEscape (src : Array Char) : Reading Nat := do
  if ← accept src '{' then
    let name ← takeUntil src '}' "character name" (src.size + 1) []
    match Text.ofName? (String.ofList name) with
    | some n => return n
    | none =>
      fail (name.length + 4)
        ("undefined character name " ++ Text.quoted (String.ofList name))
  else fail 0 "missing \x7b"

def octalValue (digits : List Char) : Reading Nat := do
  let n := radixValue 8 digits
  if 0xff < n then
    fail (1 + digits.length)
      ("octal escape value \\" ++ String.ofList digits ++ " outside of range 0-0o377")
  return n

def controlCode? : Char → Option Nat
  | 'a' => some 7
  | 'b' => some 8
  | 'f' => some 12
  | 'n' => some 10
  | 'r' => some 13
  | 't' => some 9
  | 'v' => some 11
  | '\\' => some 92
  | _ => none

def categoryOf? : Char → Option (Category × Bool)
  | 'd' => some (.digit, false)
  | 'D' => some (.digit, true)
  | 's' => some (.space, false)
  | 'S' => some (.space, true)
  | 'w' => some (.word, false)
  | 'W' => some (.word, true)
  | _ => none

def anchorOf? : Char → Option Anchor
  | 'A' => some .textStart
  | 'b' => some .boundary
  | 'B' => some .inner
  | 'Z' => some .textEnd
  | _ => none

def badEscape (c : Char) : Reading α := fail 2 ("bad escape \\" ++ c.toString)

/-- An escape that stands for a character by its number or its name. -/
def codeEscape? (src : Array Char) (c : Char) : Reading (Option Nat) := do
  if c = 'x' then return some (← hexEscape src c 2)
  else if c = 'u' then return some (← hexEscape src c 4)
  else if c = 'U' then return some (← hexEscape src c 8)
  else if c = 'N' then return some (← namedEscape src)
  else return none

def classEscape (src : Array Char) (c : Char) : Reading ClassItem := do
  match controlCode? c, categoryOf? c with
  | some n, _ => return .code n
  | none, some (k, negated) => return .category k negated
  | none, none =>
    if let some n ← codeEscape? src c then return .code n
    if isOctalDigit c then
      return .code (← octalValue (c :: (← takeClass src isOctalDigit 2)))
    if c.isAlphanum then badEscape c
    return .code c.toNat

/-- A group that a look-behind refers to must have been closed before the look-behind began. -/
def checkBehind (group : Nat) : Reading Unit := do
  let s ← get
  match s.behind with
  | none => return ()
  | some limit =>
    if (s.groups.getD group none).isNone then fail 0 "cannot refer to an open group"
    if limit ≤ group then
      fail 0 "cannot refer to group defined in the same lookbehind subpattern"

def backReference (digits : List Char) : Reading Node := do
  let group := radixValue 10 digits
  let s ← get
  if group < s.groups.size then
    if (s.groups.getD group none).isNone then
      fail (1 + digits.length) "cannot refer to an open group"
    checkBehind group
    return .back group
  else fail digits.length ("invalid group reference " ++ toString group)

def escapeNode (src : Array Char) (c : Char) : Reading Node := do
  match anchorOf? c, categoryOf? c, controlCode? c with
  | some a, _, _ => return .anchor a
  | none, some (k, negated), _ => return .set false [.category k negated]
  | none, none, some n => return .code n
  | none, none, none =>
    if let some n ← codeEscape? src c then return .code n
    if c = '0' then
      return .code (radixValue 8 (c :: (← takeClass src isOctalDigit 2)))
    if c.isDigit then
      match ← peek src with
      | some (.plain d) =>
        if d.isDigit then
          let _ ← next src
          if isOctalDigit c && isOctalDigit d then
            match ← peek src with
            | some (.plain e) =>
              if isOctalDigit e then
                let _ ← next src
                return .code (← octalValue [c, d, e])
            | _ => pure ()
          return ← backReference [c, d]
      | _ => pure ()
      return ← backReference [c]
    if c.isAlpha then badEscape c
    return .code c.toNat

def setItem (src : Array Char) (t : Tok) : Reading ClassItem :=
  match t with
  | .escape c => classEscape src c
  | .plain c => return .code c.toNat

/-- The members of a character class up to its closing bracket; `start` is where it began. -/
def readSet (src : Array Char) (start : Nat) : Nat → List ClassItem → Reading (List ClassItem)
  | 0, _ => throw .outOfSteps
  | fuel + 1, acc => do
    let unterminated : Reading (List ClassItem) := do
      throw (.malformed "unterminated character set" (some start))
    match ← next src with
    | none => unterminated
    | some t =>
      if t = .plain ']' ∧ !acc.isEmpty then return acc.reverse
      let low ← setItem src t
      if ← accept src '-' then
        match ← next src with
        | none => unterminated
        | some u =>
          if u = .plain ']' then return (.code 45 :: low :: acc).reverse
          let high ← setItem src u
          let bad : Reading (List ClassItem) :=
            fail (t.width + 1 + u.width) ("bad character range " ++ t.text ++ "-" ++ u.text)
          match low, high with
          | .code a, .code b => if b < a then bad else readSet src start fuel (.range a b :: acc)
          | _, _ => bad
      else readSet src start fuel (low :: acc)

def setNode (negated : Bool) (items : List ClassItem) : Node :=
  match items.eraseDups with
  | [.code n] => if negated then .notCode n else .code n
  | items => .set negated items

/-- Bounds of this size and more are refused. -/
def maxRepeat : Nat := 4294967295

def repeatBound (digits : List Char) : Reading Nat := do
  if Text.maxIntegerDigits < digits.length then throw (.digitLimit digits.length)
  let n := radixValue 10 digits
  if maxRepeat ≤ n then throw .repetition
  return n

/-- The bounds of a quantifier whose first character was read; `none` for a brace that begins
none. -/
def quantifier (src : Array Char) (c : Char) (here : Nat) :
    Reading (Option (Nat × Option Nat)) := do
  if c = '?' then return some (0, some 1)
  else if c = '*' then return some (0, none)
  else if c = '+' then return some (1, none)
  else
    if (← peek src) = some (.plain '}') then return none
    let low ← takeClass src Char.isDigit src.size
    let high ← if ← accept src ',' then takeClass src Char.isDigit src.size else pure low
    if ← accept src '}' then
      let least ← if low.isEmpty then pure 0 else repeatBound low
      if high.isEmpty then return some (least, none)
      let most ← repeatBound high
      if most < least then
        throw (.malformed "min repeat greater than max repeat" (some here))
      return some (least, some most)
    else
      moveTo src here
      return none

/-- The mark behind a quantifier, if there is one. -/
def readGreed (src : Array Char) : Reading Greed := do
  if ← accept src '?' then return .lazy
  if ← accept src '+' then return .possessive
  return .greedy

/-- Applies a quantifier that ended before the next token to the last item read. -/
def repeated (src : Array Char) (here : Nat) (least : Nat) (most : Option Nat) :
    List Node → Reading (List Node)
  | [] => throw (.malformed "nothing to repeat" (some (here - 1)))
  | .anchor _ :: _ => throw (.malformed "nothing to repeat" (some (here - 1)))
  | .loop _ _ _ _ :: _ => throw (.malformed "multiple repeat" (some (here - 1)))
  | item :: acc => do
    return .loop (← readGreed src) least most item.unpacked :: acc

def isVerboseSpace (c : Char) : Bool := c == ' ' || (9 ≤ c.toNat && c.toNat ≤ 13)

def skipLine (src : Array Char) : Nat → Reading Unit
  | 0 => return ()
  | fuel + 1 => do
    match ← next src with
    | none => return ()
    | some t => if t = .plain '\n' then return () else skipLine src fuel

def skipComment (src : Array Char) (start : Nat) : Nat → Reading Unit
  | 0 => return ()
  | fuel + 1 => do
    match ← next src with
    | none => throw (.malformed "missing ), unterminated comment" (some start))
    | some t => if t = .plain ')' then return () else skipComment src start fuel

def checkName (name : List Char) : Reading Unit := do
  if !Text.isIdentifier name then
    fail (name.length + 1)
      ("bad character in group name " ++ Text.quoted (String.ofList name))

def unknownFlag (t : Tok) (missing : String) : Reading α :=
  fail t.width (match t with
    | .plain c => if Text.isLetter c then "unknown flag" else missing
    | .escape _ => missing)

def flagOf? : Tok → Option Flags
  | .plain c => Flags.ofChar? c
  | .escape _ => none

/-- Flags being turned off, up to the colon. -/
def readOff (src : Array Char) : Nat → Flags → Tok → Reading Flags
  | 0, _, _ => throw .outOfSteps
  | fuel + 1, off, t => do
    let add (f : Flags) : Reading Flags := do
      if f.choosesType then
        fail 0 "bad inline flags: cannot turn off flags 'a', 'u' and 'L'"
      let off := off.union f
      match ← next src with
      | none => fail 0 "missing :"
      | some u =>
        if u = .plain ':' then return off
        else if (flagOf? u).isSome || u = .plain 'L' then readOff src fuel off u
        else unknownFlag u "missing :"
    match flagOf? t with
    | some f => add f
    | none => fail 0 "bad inline flags: cannot turn off flags 'a', 'u' and 'L'"

/-- Flags being turned on, with the token that ended them. -/
def readOn (src : Array Char) : Nat → Flags → Tok → Reading (Flags × Tok)
  | 0, _, _ => throw .outOfSteps
  | fuel + 1, on, t => do
    match flagOf? t with
    | none => fail 0 "bad inline flags: cannot use 'L' flag with a str pattern"
    | some f =>
      let on := on.union f
      if f.choosesType && on.ascii && on.unicode then
        fail 0 "bad inline flags: flags 'a', 'u' and 'L' are incompatible"
      match ← next src with
      | none => fail 0 "missing -, : or )"
      | some u =>
        if u = .plain ')' ∨ u = .plain '-' ∨ u = .plain ':' then return (on, u)
        else if (flagOf? u).isSome || u = .plain 'L' then readOn src fuel on u
        else unknownFlag u "missing -, : or )"

/-- Inline flags; `none` when they hold for the whole pattern. -/
def readFlags (src : Array Char) (t : Tok) : Reading (Option (Flags × Flags)) := do
  let (on, ended) ← if t = .plain '-' then pure (({} : Flags), t)
    else readOn src (src.size + 1) {} t
  if ended = .plain ')' then
    modify fun s => { s with flags := s.flags.union on }
    return none
  if on.template then fail 1 "bad inline flags: cannot turn on global flag"
  let off ← if ended = .plain '-' then do
      match ← next src with
      | none => fail 0 "missing flag"
      | some u =>
        if (flagOf? u).isSome || u = .plain 'L' then readOff src (src.size + 1) {} u
        else unknownFlag u "missing flag"
    else pure {}
  if off.template then fail 1 "bad inline flags: cannot turn off global flag"
  if on.meets off then fail 1 "bad inline flags: flag turned on and off"
  return some (on, off)

def openGroup (name : Option (List Char)) : Reading Nat := do
  let s ← get
  let group := s.groups.size
  match name with
  | none =>
    set { s with groups := s.groups.push none }
    return group
  | some cs =>
    let key := String.ofList cs
    match s.names.lookup key with
    | some old =>
      fail (cs.length + 1) ("redefinition of group name " ++ Text.quoted key ++ " as group " ++
        toString group ++ "; was group " ++ toString old)
    | none =>
      set { s with groups := s.groups.push none, names := (key, group) :: s.names }
      return group

def closeGroup (group : Nat) (body : List Node) : Reading Unit :=
  modify fun s => { s with groups := s.groups.setIfInBounds group (some (widthOf s.groups body)) }

def closing (src : Array Char) (start : Nat) : Reading Unit := do
  if !(← accept src ')') then
    throw (.malformed "missing ), unterminated subpattern" (some start))

def namedReference (src : Array Char) : Reading Node := do
  let name ← takeUntil src ')' "group name" (src.size + 1) []
  checkName name
  let s ← get
  match s.names.lookup (String.ofList name) with
  | none =>
    fail (name.length + 1) ("unknown group name " ++ Text.quoted (String.ofList name))
  | some group =>
    if (s.groups.getD group none).isNone then
      fail (name.length + 1) "cannot refer to an open group"
    checkBehind group
    return .back group

/-- The largest group number that a condition may name, and one. -/
def maxGroups : Nat := 2147483647

/-- The group that a condition asks about, by name or by number. -/
def conditionGroup (src : Array Char) : Reading Nat := do
  let name ← takeUntil src ')' "group name" (src.size + 1) []
  let s ← get
  let text := String.ofList name
  let group ← if Text.isIdentifier name then
      match s.names.lookup text with
      | none => fail (name.length + 1) ("unknown group name " ++ Text.quoted text)
      | some group => pure group
    else
      match Text.integer? text with
      | some (.ofNat group) =>
        if group = 0 then fail (name.length + 1) "bad group number"
        if maxGroups ≤ group then
          fail (name.length + 1) ("invalid group reference " ++ toString group)
        if (s.mentions.lookup group).isNone then
          set { s with mentions := s.mentions ++ [(group, s.pos - name.length - 1)] }
        pure group
      | _ => fail (name.length + 1) ("bad character in group name " ++ Text.quoted text)
  checkBehind group
  return group

/-- What an opening parenthesis begins. -/
inductive Opening where
  /-- Nothing that matches: a comment, or flags for the whole pattern. -/
  | nothing (verbose : Bool)
  | node (n : Node)
  | body (name : Option (List Char)) (capture atomic : Bool) (on off : Flags)
  | look (behind negated : Bool)
  | condition (group : Nat)

/-- Reads what follows an opening parenthesis at `start`, up to the body that it encloses.
`first` says that nothing stands before it. -/
def readOpening (src : Array Char) (start : Nat) (verbose first : Bool) : Reading Opening := do
  if !(← accept src '?') then return .body none true false {} {}
  match ← next src with
  | none => fail 0 "unexpected end of pattern"
  | some t =>
    if t = .plain 'P' then
      if ← accept src '<' then
        let name ← takeUntil src '>' "group name" (src.size + 1) []
        checkName name
        return .body (some name) true false {} {}
      else if ← accept src '=' then return .node (← namedReference src)
      else
        match ← next src with
        | none => fail 0 "unexpected end of pattern"
        | some u => fail (u.width + 2) ("unknown extension ?P" ++ u.text)
    else if t = .plain ':' then return .body none false false {} {}
    else if t = .plain '#' then
      skipComment src start (src.size + 1)
      return .nothing verbose
    else if t = .plain '=' then return .look false false
    else if t = .plain '!' then return .look false true
    else if t = .plain '<' then
      match ← next src with
      | none => fail 0 "unexpected end of pattern"
      | some u =>
        if u = .plain '=' then return .look true false
        else if u = .plain '!' then return .look true true
        else fail (u.width + 2) ("unknown extension ?<" ++ u.text)
    else if t = .plain '(' then return .condition (← conditionGroup src)
    else if t = .plain '>' then return .body none false true {} {}
    else if (flagOf? t).isSome || t = .plain 'L' || t = .plain '-' then
      match ← readFlags src t with
      | some (on, off) => return .body none false false on off
      | none =>
        if !first then
          throw (.malformed "global flags not at the start of the expression" (some start))
        let s ← get
        return .nothing s.flags.verbose
    else fail (t.width + 1) ("unknown extension ?" ++ t.text)

mutual

/-- Alternatives up to a closing parenthesis or the end; `top` marks the whole pattern. -/
def readAlternatives (src : Array Char) : Nat → Bool → Bool → Reading (List Node)
  | 0, _, _ => throw .outOfSteps
  | fuel + 1, verbose, top => do
    let item ← readSequence src fuel verbose top []
    match ← readFurther src fuel verbose top with
    | [] => return item
    | items => return alternatives item items

def readFurther (src : Array Char) : Nat → Bool → Bool → Reading (List (List Node))
  | 0, _, _ => throw .outOfSteps
  | fuel + 1, verbose, top => do
    if ← accept src '|' then
      let s ← get
      let verbose := if top then s.flags.verbose else verbose
      let item ← readSequence src fuel verbose false []
      return item :: (← readFurther src fuel verbose top)
    else return []

/-- A sequence of items; `acc` holds those read, last first. -/
def readSequence (src : Array Char) : Nat → Bool → Bool → List Node → Reading (List Node)
  | 0, _, _, _ => throw .outOfSteps
  | fuel + 1, verbose, first, acc => do
    match ← peek src with
    | none => return acc.reverse.flatMap Node.unpacked
    | some t =>
      if t = .plain '|' ∨ t = .plain ')' then return acc.reverse.flatMap Node.unpacked
      let _ ← next src
      let here := (← get).pos
      match t with
      | .escape c => readSequence src fuel verbose first ((← escapeNode src c) :: acc)
      | .plain c =>
        if verbose && isVerboseSpace c then readSequence src fuel verbose first acc
        else if verbose && c = '#' then
          skipLine src (src.size + 1)
          readSequence src fuel verbose first acc
        else if c = '[' then
          let negated ← accept src '^'
          let items ← readSet src (here - 1) (src.size + 1) []
          readSequence src fuel verbose first (setNode negated items :: acc)
        else if c = '*' ∨ c = '+' ∨ c = '?' ∨ c = '{' then
          match ← quantifier src c here with
          | none => readSequence src fuel verbose first (.code c.toNat :: acc)
          | some (least, most) =>
            readSequence src fuel verbose first (← repeated src here least most acc)
        else if c = '.' then readSequence src fuel verbose first (.any :: acc)
        else if c = '^' then readSequence src fuel verbose first (.anchor .lineStart :: acc)
        else if c = '$' then readSequence src fuel verbose first (.anchor .lineEnd :: acc)
        else if c = '(' then
          match ← readOpening src (here - 1) verbose (first && acc.isEmpty) with
          | .nothing verbose => readSequence src fuel verbose first acc
          | .node n => readSequence src fuel verbose first (n :: acc)
          | opening =>
            readSequence src fuel verbose first
              ((← readGroup src fuel (here - 1) verbose opening) :: acc)
        else readSequence src fuel verbose first (.code c.toNat :: acc)

/-- The rest of a parenthesised item whose opening was read. -/
def readGroup (src : Array Char) : Nat → Nat → Bool → Opening → Reading Node
  | 0, _, _, _ => throw .outOfSteps
  | fuel + 1, start, verbose, opening => do
    match opening with
    | .look behind negated =>
      let outer := (← get).behind
      if behind && outer.isNone then
        modify fun s => { s with behind := some s.groups.size }
      let body ← readAlternatives src fuel verbose false
      if behind && outer.isNone then modify fun s => { s with behind := none }
      closing src start
      let width := widthOf (← get).groups body
      return .look (if behind then some width else none) negated body
    | .condition group =>
      let yes ← readSequence src fuel verbose false []
      let no ← if ← accept src '|' then do
          let no ← readSequence src fuel verbose false []
          if (← peek src) = some (.plain '|') then
            fail 0 "conditional backref with more than two branches"
          pure no
        else pure []
      closing src start
      return .choice group yes no
    | .body name capture atomic on off =>
      let group ← if capture then some <$> openGroup name else pure none
      let inner := (verbose || on.verbose) && !off.verbose
      let body ← readAlternatives src fuel inner false
      closing src start
      if let some g := group then closeGroup g body
      return if atomic then .atomic body else .group group on off body
    | .nothing _ => return .group none {} {} []
    | .node n => return n

end

/-- A pattern with its flags and the number of its groups, the whole pattern counted. -/
structure Parsed where
  body : List Node
  flags : Flags
  groups : Array (Option Width)

def readPattern (src : Array Char) : Reading Parsed := do
  moveTo src 0
  let body ← readAlternatives src (3 * src.size + 8) false true
  let s ← get
  if s.flags.ascii && s.flags.unicode then throw .clash
  if (← peek src).isSome then fail 0 "unbalanced parenthesis"
  match s.mentions.find? fun m => s.groups.size ≤ m.1 with
  | some (group, place) =>
    throw (.malformed ("invalid group reference " ++ toString group) (some place))
  | none => return ⟨body, { s.flags with unicode := !s.flags.ascii }, s.groups⟩

end Conform.Pattern
