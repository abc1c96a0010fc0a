import Conform.Pattern.Start

/-!
Backtracking search. A match runs from a position, with what was noted so far, into a continuation,
which receives the position reached; the first success in order of preference wins. What a failed
attempt noted is handed on: where it is taken back, and how much of it, is part of the rules.
Every pass of a loop beyond its least count must move on, so a loop's fuel is bounded by its
least count and the length of the text.
-/
namespace Conform.Pattern

/-- What a match notes on its way. -/
structure Notes where
  /-- Where groups began and ended: `2 g - 2` and `2 g - 1` for group `g`. -/
  marks : Array (Option Nat)
  /-- How many of the marks count. -/
  count : Nat := 0
  /-- The position noted last. -/
  place : Nat := 0
  deriving DecidableEq, Repr

namespace Notes

def noted (r : Notes) (p : Nat) : Notes := { r with place := p }

/-- Sets a mark. Marks between those that count and a higher one are void. -/
def mark (r : Notes) (i p : Nat) : Notes :=
  if i < r.count then { r with marks := r.marks.setIfInBounds i (some p) }
  else
    let void := (List.range (i - r.count)).foldl
      (fun ms j => ms.setIfInBounds (r.count + j) none) r.marks
    { r with marks := void.setIfInBounds i (some p), count := i + 1 }

/-- Takes marks back to what they were: all of them, or only how many count. -/
def back (r saved : Notes) (whole : Bool) : Notes :=
  { r with count := saved.count, marks := if whole then saved.marks else r.marks }

/-- What a group matched. -/
def span? (r : Notes) (group : Nat) : Option (Nat × Nat) :=
  if 2 * group - 1 < r.count then
    match r.marks.getD (2 * group - 2) none, r.marks.getD (2 * group - 1) none with
    | some a, some b => if a ≤ b then some (a, b) else none
    | _, _ => none
  else none

/-- Whether some group ended before it began, which only what is left of abandoned attempts can
make of it. -/
def isTangled (r : Notes) : Bool :=
  (List.range (r.count / 2)).any fun i =>
    match r.marks.getD (2 * i) none, r.marks.getD (2 * i + 1) none with
    | some a, some b => b < a
    | _, _ => false

end Notes

/-- Whether there was a match, which ended at the place noted. -/
abbrev Outcome := Bool × Notes

abbrev Continuation := Nat → Notes → Outcome

/-- Goes on with the notes of a failure. -/
def Outcome.otherwise (o : Outcome) (next : Notes → Outcome) : Outcome :=
  if o.1 then o else next o.2

/-- A failure leaves a position noted. -/
def Outcome.leaving (o : Outcome) (p : Nat) : Outcome := o.otherwise fun r => (false, r.noted p)

def stop : Continuation := fun p r => (true, r.noted p)

def wordAround (f : Flags) (text : Array Nat) (p : Nat) : Bool × Bool :=
  let at_ (i : Nat) : Bool := match text[i]? with
    | some n => wordAt f.ascii n
    | none => false
  (0 < p && at_ (p - 1), at_ p)

def Anchor.holds (f : Flags) (text : Array Nat) (p : Nat) : Anchor → Bool
  | .textStart => p == 0
  | .lineStart => p == 0 || (f.multiline && text[p - 1]? == some 10)
  | .textEnd => p == text.size
  | .lineEnd =>
    p == text.size || (text[p]? == some 10 && (f.multiline || p + 1 == text.size))
  | .boundary => text.size != 0 && (let (a, b) := wordAround f text p; a != b)
  | .inner => text.size != 0 && (let (a, b) := wordAround f text p; a == b)

/-- How many characters from `p` on, at most `limit`, satisfy a property. -/
def runLength (text : Array Nat) (p : Nat) (holds : Nat → Bool) : Nat → Nat
  | 0 => 0
  | limit + 1 =>
    match text[p]? with
    | some n => if holds n then runLength text (p + 1) holds limit + 1 else 0
    | none => 0

/-- Whether the text at `p` repeats the text from `a`, `count` characters long. -/
def repeats (f : Flags) (text : Array Nat) (a p : Nat) : Nat → Bool
  | 0 => true
  | count + 1 =>
    match text[a]?, text[p]? with
    | some m, some n =>
      (if f.ignoreCase then fold f.ascii m == fold f.ascii n else m == n) &&
        repeats f text (a + 1) (p + 1) count
    | _, _ => false

/-- Whether the text at `p` can go on with what starts with `next`. -/
def goesOn (text : Array Nat) (next : Option Nat) (p : Nat) : Bool :=
  match next with
  | some n => text[p]? == some n
  | none => true

/-- Tries `base + count` passes of a one-character item, then one fewer, down to `base`. -/
def longestFirst (text : Array Nat) (next : Option Nat) (p base : Nat) (saved : Notes)
    (whole : Bool) (k : Continuation) : Nat → Notes → Outcome
  | 0, r =>
    let q := p + base
    if goesOn text next q then (k q (r.noted q)).otherwise fun s => (false, s.back saved whole)
    else (false, r)
  | count + 1, r =>
    let q := p + base + count + 1
    if goesOn text next q then
      (k q (r.noted q)).otherwise fun s =>
        longestFirst text next p base saved whole k count (s.back saved whole)
    else longestFirst text next p base saved whole k count r

/-- Tries `from_` passes of a one-character item, then one more, `count` times. -/
def shortestFirst (p : Nat) (saved : Notes) (whole : Bool) (k : Continuation) :
    Nat → Nat → Notes → Outcome
  | from_, 0, r =>
    let q := p + from_
    (k q (r.noted q)).otherwise fun s => (false, (s.back saved whole).noted q)
  | from_, count + 1, r =>
    let q := p + from_
    (k q (r.noted q)).otherwise fun s =>
      shortestFirst p saved whole k (from_ + 1) count ((s.back saved whole).noted q)

def below (count : Nat) : Option Nat → Bool
  | some most => count < most
  | none => true

/-- A loop that prefers another pass. `last` is where the latest optional pass began. -/
def greedyLoop (pass : Nat → Notes → Continuation → Outcome) (least : Nat) (most : Option Nat)
    (k : Continuation) : Nat → Nat → Option Nat → Nat → Notes → Outcome
  | 0, _, _, _, r => (false, r)
  | fuel + 1, count, last, p, r =>
    let r := r.noted p
    if count < least then
      Outcome.leaving
        (pass p r fun q s => greedyLoop pass least most k fuel (count + 1) last q s) p
    else if below count most && last != some p then
      Outcome.otherwise
        (pass p r fun q s => greedyLoop pass least most k fuel (count + 1) (some p) q s)
        fun s => Outcome.leaving (k p ((s.back r true).noted p)) p
    else Outcome.leaving (k p r) p

/-- A loop that prefers to end. What a failure behind it noted is taken back wholly only if the
loop is a part of another one. -/
def lazyLoop (pass : Nat → Notes → Continuation → Outcome) (least : Nat) (most : Option Nat)
    (isInner : Bool) (k : Continuation) : Nat → Nat → Option Nat → Nat → Notes → Outcome
  | 0, _, _, _, r => (false, r)
  | fuel + 1, count, last, p, r =>
    let r := r.noted p
    if count < least then
      Outcome.leaving
        (pass p r fun q s => lazyLoop pass least most isInner k fuel (count + 1) last q s) p
    else
      (k p r).otherwise fun s =>
        let s := (s.back r isInner).noted p
        if below count most && last != some p then
          Outcome.leaving
            (pass p s fun q s => lazyLoop pass least most isInner k fuel (count + 1) (some p) q s) p
        else (false, s)

/-- A loop whose passes are never taken back. It ends where the last pass, which failed, began. -/
def possessiveLoop (pass : Nat → Notes → Outcome) (least : Nat) (most : Option Nat)
    (start : Nat) : Nat → Nat → Option Nat → Nat → Notes → Outcome
  | 0, _, _, _, r => (true, r)
  | fuel + 1, count, last, p, r =>
    let r := r.noted p
    if count < least then
      match pass p r with
      | (true, s) => possessiveLoop pass least most start fuel (count + 1) last s.place s
      | (false, s) => (false, s.noted start)
    else if below count most && last != some p then
      match pass p r with
      | (true, s) => possessiveLoop pass least most start fuel (count + 1) (some p) s.place s
      | (false, s) => (true, (s.back r true).noted p)
    else (true, r)

/-- Where a match takes place: the text, the flags, whether in a pass of a loop, and the character
that what follows starts with, if it is known. -/
structure Setting where
  text : Array Nat
  flags : Flags
  isInner : Bool := false
  next : Option Nat := none

namespace Setting

/-- Within a group, which starts and ends with marks if it has a number. -/
def within (e : Setting) (on off : Flags) (isMarked : Bool) : Setting :=
  { e with flags := e.flags.inside on off, next := if isMarked then none else e.next }

/-- Within what ends without going on. -/
def closed (e : Setting) : Setting := { e with next := none }

/-- Within a pass of a loop. -/
def looped (e : Setting) : Setting := { e with isInner := true, next := none }

/-- Where an item is followed by a sequence. -/
def before (e : Setting) (ns : List Node) : Setting :=
  { e with next := startCode? false e.flags e.next ns }

/-- Whether the first item of an alternative is worth trying. -/
def isOpen (e : Setting) (p : Nat) (ns : List Node) : Bool :=
  match startTest? e.flags ns with
  | some holds => e.text[p]?.any holds
  | none => true

def one (e : Setting) (p : Nat) (r : Notes) (k : Continuation) (holds : Nat → Bool) : Outcome :=
  match e.text[p]? with
  | some n => if holds n then k (p + 1) r else (false, r)
  | none => (false, r)

/-- A loop of a one-character item. -/
def loopOne (e : Setting) (greed : Greed) (least : Nat) (most : Option Nat) (p : Nat) (r : Notes)
    (k : Continuation) (item : Single) : Outcome :=
  let room := e.text.size - p
  if room < least then (false, r)
  else
    let count := runLength e.text p item.holds (match most with
      | some m => min m room
      | none => room)
    let r := r.noted (if item.isStepwise then p + count else p)
    if count < least then (false, r)
    else
      match greed with
      | .greedy => longestFirst e.text e.next p least r e.isInner k (count - least) r
      | .lazy => shortestFirst p r e.isInner k least (count - least) r
      | .possessive => k (p + count) r

def loop (e : Setting) (greed : Greed) (least : Nat) (most : Option Nat) (p : Nat) (r : Notes)
    (k : Continuation) (pass : Nat → Notes → Continuation → Outcome) : Outcome :=
  let fuel := least + e.text.size + 2
  match greed with
  | .greedy => greedyLoop pass least most k fuel 0 none p r
  | .lazy => lazyLoop pass least most e.isInner k fuel 0 none p r
  | .possessive =>
    match possessiveLoop (fun q s => pass q s stop) least most p fuel 0 none p r with
    | (true, s) => k s.place s
    | (false, s) => (false, s)

end Setting

mutual

def matchSequence (e : Setting) : List Node → Nat → Notes → Continuation → Outcome
  | [], p, r, k => k p r
  | n :: ns, p, r, k => matchNode (e.before ns) n p r fun q s => matchSequence e ns q s k

def matchNode (e : Setting) : Node → Nat → Notes → Continuation → Outcome
  | .any, p, r, k => e.one p r k (fun n => e.flags.dotAll || n != 10)
  | .code m, p, r, k => e.one p r k (isCode e.flags m)
  | .notCode m, p, r, k => e.one p r k (fun n => !isCode e.flags m n)
  | .set negated items, p, r, k => e.one p r k (inSet e.flags negated items)
  | .anchor a, p, r, k => if a.holds e.flags e.text p then k p r else (false, r)
  | .group none on off body, p, r, k => matchSequence (e.within on off false) body p r k
  | .group (some g) on off body, p, r, k =>
    matchSequence (e.within on off true) body p (r.mark (2 * g - 2) p)
      fun q s => k q (s.mark (2 * g - 1) q)
  | .atomic body, p, r, k =>
    match matchSequence e.closed body p (r.noted p) stop with
    | (true, s) => k s.place s
    | (false, s) => (false, s.noted p)
  | .look behind negated body, p, r, k =>
    let width := match behind with
      | some w => w.1
      | none => 0
    if width ≤ p then
      match matchSequence e.closed body (p - width) (r.noted (p - width)) stop, negated with
      | (true, s), false => k p s
      | (false, s), true => k p (s.back r e.isInner)
      | (_, s), _ => (false, s)
    else if negated then k p r
    else (false, r)
  | .loop greed least most body, p, r, k =>
    match single? e.flags body with
    | some item => e.loopOne greed least most p r k item
    | none =>
      let inside := if greed = .possessive then e.closed else e.looped
      e.loop greed least most p r k (matchSequence inside body)
  | .branch as, p, r, k => matchBranch e as p r k r
  | .back g, p, r, k =>
    match r.span? g with
    | some (a, b) => if repeats e.flags e.text a p (b - a) then k (p + (b - a)) r else (false, r)
    | none => (false, r)
  | .choice g yes no, p, r, k =>
    if (r.span? g).isSome then matchSequence (if no.isEmpty then e else e.closed) yes p r k
    else matchSequence e no p r k

/-- Alternatives in order; each starts with the marks that the first one found. -/
def matchBranch (e : Setting) :
    List (List Node) → Nat → Notes → Continuation → Notes → Outcome
  | [], _, _, _, r => (false, r)
  | a :: as, p, saved, k, r =>
    if e.isOpen p a then
      (matchSequence e.closed a p (r.noted p) k).otherwise fun s =>
        matchBranch e as p saved k (s.back saved e.isInner)
    else matchBranch e as p saved k r

end

end Conform.Pattern
