import Conform.Checker.Children
import Conform.Checker.Dispatch
import Conform.Checker.Test
import Conform.Documents
import Conform.Options

/-!
Judging: a checker is run against a report, which it extends, and comes to a verdict. Nested
schema nodes are judged through dispatch again; the number of nested dispatches is bounded by a
fuel that the schema, the documents and the value determine.
-/
namespace Conform

/-- What to do about a reference that leads back to where its chain has been. -/
inductive LoopPolicy where
  | report | follow | stop
  deriving DecidableEq, Repr

structure Setting where
  vocabulary : Vocabulary
  documents : Documents
  options : Options := {}
  loops : LoopPolicy := .report

abbrev Step := Journal → Journal × Except Fault Bool

abbrev Judge := Site → Step

namespace Step

def answer (b : Bool) : Step := fun j => (j, .ok b)

def abort (f : Fault) : Step := fun j => (j, .error f)

/-- Logs a diagnostic and answers no. -/
def fail (d : Diagnostic) : Step := fun j => (j.log d, .ok false)

/-- Runs two steps and joins their verdicts. -/
def both (a b : Step) : Step := fun j =>
  match a j with
  | (j, .error f) => (j, .error f)
  | (j, .ok x) =>
    match b j with
    | (j, .error f) => (j, .error f)
    | (j, .ok y) => (j, .ok (x && y))

/-- Runs all steps whatever their verdicts, and joins these. -/
def all : List Step → Step
  | [] => answer true
  | s :: ss => both s (all ss)

/-- Runs a step on a report of its own, of the same threshold, and then takes over what it
found. -/
def apart (s : Step) : Step := fun j =>
  match s ⟨⟨j.report.level, []⟩, j.notes⟩ with
  | (k, .error f) => (⟨j.report, k.notes⟩, .error f)
  | (k, .ok b) => (⟨j.report.logAll k.report.messages, k.notes⟩, .ok b)

end Step

namespace Logic

/-- Whether a value is of one of the named types. -/
def isOfType (v : Value) : List String → Except Fault Bool
  | [] => .ok false
  | name :: names => do
    if ← Kind.holds (.str name) v then return true
    isOfType v names

/-- The place of a part of a keyword's value. -/
def partLocation (s : Site) (keyword : String) (p : Part) : Location :=
  s.location.append (.name keyword :: (p.position.map fun i => Token.index i).toList)

/-- The trials of schemas, each on a report of its own, up to the first that holds. -/
def tries (judge : Judge) : List Site → List Note → List Note × Except Fault (Bool × List Report)
  | [], notes => (notes, .ok (false, []))
  | s :: ss, notes =>
    match judge s ⟨⟨.debug, []⟩, notes⟩ with
    | (k, .error f) => (k.notes, .error f)
    | (k, .ok true) => (k.notes, .ok (true, [k.report]))
    | (k, .ok false) =>
      match tries judge ss k.notes with
      | (notes, .error f) => (notes, .error f)
      | (notes, .ok (b, reports)) => (notes, .ok (b, k.report :: reports))

/-- Whether a type holds by name, or else by one of its schemas. -/
def matching (judge : Judge) (keyword : String) (names : List String) (schemas : List Part)
    (s : Site) (notes : List Note) : List Note × Except Fault (Bool × List Report) :=
  match isOfType s.value names with
  | .error f => (notes, .error f)
  | .ok true => (notes, .ok (true, []))
  | .ok false =>
    tries judge (schemas.map fun p => s.scratch p.schema (partLocation s keyword p)) notes

def partLabel (p : Part) : String :=
  match p.position with
  | none => "schema"
  | some i => "schema #" ++ toString i

def disallowed (s : Site) (keyword : String) (names : List String) (found : Kind) : Diagnostic :=
  s.diagnostic ("instance type " ++ found.name ++ " matches a disallowed type") keyword
    [("found", .str found.name), ("disallowed", Test.texts names)]

def notAllowed (s : Site) (keyword : String) (names : List String) (schemas : List Part)
    (found : Kind) : Diagnostic :=
  s.diagnostic ("instance type " ++ found.name ++ " is not allowed (allowed: " ++
      Test.commaList (names ++ schemas.map partLabel) ++ ")")
    keyword [("found", .str found.name), ("expected", Test.texts names)]

def judgeTypes (judge : Judge) (keyword : String) (names : List String) (schemas : List Part)
    (negated : Bool) (s : Site) : Step := fun j =>
  match matching judge keyword names schemas s j.notes with
  | (notes, .error f) => (⟨j.report, notes⟩, .error f)
  | (notes, .ok (matched, trials)) =>
    let j : Journal := ⟨j.report, notes⟩
    match s.kind with
    | .error f => (j, .error f)
    | .ok found =>
      if negated then
        if matched then Step.fail (disallowed s keyword names found) j else (j, .ok true)
      else if matched then (j, .ok true)
      else
        let j := j.log (notAllowed s keyword names schemas found)
        (trials.foldl (fun j r => j.logAll r.messages) j, .ok false)

def judgeParts (judge : Judge) (keyword : String) (parts : List Part) (s : Site) : Step :=
  Step.all (parts.map fun p => judge (s.under p.schema (partLocation s keyword p)))

/-- The names that a member asks for and that are not there. -/
def missing (members : Members) (names : List String) : List String :=
  names.filter fun n => !members.has n

def judgeRequired (s : Site) (members : Members) (d : String × List String) : Step :=
  if members.has d.1 then
    let absent := missing members d.2
    if absent.isEmpty then Step.answer true
    else Step.fail (s.diagnostic
      ("property " ++ Text.quoted d.1 ++ " requires missing properties: " ++
        Test.commaList absent)
      (some "dependencies") [("property", .str d.1), ("missing", Test.texts absent)])
  else Step.answer true

def judgeDependent (judge : Judge) (s : Site) (members : Members) (d : String × Value) : Step :=
  if members.has d.1 then
    judge (s.under d.2 (s.location.append [.name "dependencies", .name d.1]))
  else Step.answer true

def judgeDependencies (judge : Judge) (required : List (String × List String))
    (schemas : List (String × Value)) (s : Site) : Step :=
  match s.value with
  | .obj members =>
    Step.all (required.map (judgeRequired s members) ++
      schemas.map (judgeDependent judge s members))
  | _ => Step.answer true

def unresolved (s : Site) (ref : String) (f : Fault) : Diagnostic :=
  s.diagnostic ("cannot resolve reference " ++ Text.quoted ref ++ ": " ++ f.message)
    (some "$ref") [("ref", .str ref)] .error .reference

def looping (s : Site) (ref : String) : Diagnostic :=
  let visited := (s.trail.filter (·.2 == s.path)).map fun t => Value.str t.1.text
  s.diagnostic ("reference loop detected through " ++ Text.quoted ref) (some "$ref")
    [("ref", .str ref), ("trail", .arr visited)] .error .reference

def judgeReference (e : Setting) (judge : Judge) (ref : String) (s : Site) : Step :=
  match e.documents.resolve (.str ref) s.location with
  | .error f => if f.isReference then Step.fail (unresolved s ref f) else Step.abort f
  | .ok (location, target) =>
    if e.loops != .follow && s.trail.contains (location, s.path) then
      if e.loops = .stop then Step.abort .referenceLoop else Step.fail (looping s ref)
    else judge (s.follow target location)

def judgeTest (t : Test) (s : Site) : Step :=
  match t.finding s with
  | .error f => Step.abort f
  | .ok none => Step.answer true
  | .ok (some d) => Step.fail d

def unsupported (s : Site) (name : String) : Diagnostic :=
  s.diagnostic ("format " ++ Text.quoted name ++ " is not supported, not checked")
    (some "format") [("format", .str name)] .info

/-- Says what it was told to say. Only a boolean is a verdict. -/
def judgeTold (keyword : String) (answer : List Diagnostic × Except Fault Value) : Step := fun j =>
  let j := j.logAll answer.1
  match answer.2 with
  | .error f => (j, .error f)
  | .ok (.bool b) => (j, .ok b)
  | .ok v => (j, .error (.notVerdict keyword v.typeName))

def run (e : Setting) (judge : Judge) (keyword : String) (l : Logic) (s : Site) : Step :=
  match l with
  | .test t => judgeTest t s
  | .unknownFormat name => fun j => (j.log (unsupported s name), .ok true)
  | .types keyword names schemas negated => judgeTypes judge keyword names schemas negated s
  | .extending schemas => judgeParts judge "extends" schemas s
  | .dependencies required schemas => judgeDependencies judge required schemas s
  | .reference ref => judgeReference e judge ref s
  | .told answer => judgeTold keyword (answer s)

end Logic

namespace Checker

def fanOutNote (s : Site) (children : Nat) : Note :=
  ⟨"containers", .debug, "fanning out container children",
    [("instance_path", .str s.path.text), ("children", .int children)]⟩

/-- Judges what lies below a site: in turn, or, where the site allows it and there is enough of
it, each on a report of its own. -/
def runChildren (e : Setting) (judge : Judge) (kind : Kind) (s : Site) : Step :=
  match Job.ofSite kind s with
  | .error f => Step.abort f
  | .ok jobs =>
    let steps := jobs.map fun job => judge (job.site s)
    if s.pooled && !jobs.isEmpty && e.options.parallelMinChildren ≤ jobs.length then
      fun j => Step.all (steps.map Step.apart) (j.note [fanOutNote s jobs.length])
    else Step.all steps

mutual

/-- The verdict of a checker, and what it adds to the report. -/
def run (e : Setting) (judge : Judge) : Checker → Step
  | .always => Step.answer true
  | .never none => Step.answer false
  | .never (some d) => Step.fail d
  | .single keyword logic s => logic.run e judge keyword s
  | .all members => runAll e judge members
  | .container kind node s => Step.both (run e judge node) (runChildren e judge kind s)
  | .stray t => Step.abort (.notChecker t)

def runAll (e : Setting) (judge : Judge) : List Checker → Step
  | [] => Step.answer true
  | c :: cs => Step.both (run e judge c) (runAll e judge cs)

end

end Checker

namespace Setting

/-- Dispatches a site and runs its checker, with `inner` to judge the sites that come up on the
way. -/
def round (e : Setting) (inner : Judge) : Judge := fun s j =>
  match Checker.forSite e.vocabulary s with
  | (notes, .error f) => (j.note notes, .error f)
  | (notes, .ok c) => c.run e inner (j.note notes)

/-- Judges a site, nesting at most `fuel` dispatches. -/
def judge (e : Setting) : Nat → Judge
  | 0, _ => Step.abort .outOfSteps
  | fuel + 1, s => e.round (e.judge fuel) s

/-- The number of nodes that references can lead to. -/
def positions (e : Setting) : Nat := (e.documents.entries.map (·.2.size)).foldr (· + ·) 0

/-- Enough dispatches for any site: a step into the value, a reference to a new place, or a step
into the schema, each bounded while the ones before it stay. -/
def fuelFor (e : Setting) (s : Site) : Nat :=
  (s.value.size + 1) * (e.positions + 1) * (max s.schema.size e.positions + 1)

def judgeSite (e : Setting) (s : Site) : Step := e.judge (e.fuelFor s) s

/-- Runs a checker that was made before. -/
def runChecker (e : Setting) (c : Checker) (fuel : Nat) : Step := c.run e (e.judge fuel)

end Setting

end Conform
