import Conform.Report.Diagnostic

/-!
Reports: lists of diagnostics that only grow at the end, with a threshold below which nothing is
logged. A fault report also keeps the regions known to be broken.
-/
namespace Conform

structure Report where
  level : Severity := .info
  messages : List Diagnostic := []
  deriving Repr

namespace Report

def size (r : Report) : Nat := r.messages.length

def isSuccess (r : Report) : Bool := r.messages.all fun d => !d.level.reaches .error

/-- Appends whatever the threshold is. -/
def add (r : Report) (d : Diagnostic) : Report := ⟨r.level, r.messages ++ [d]⟩

/-- Appends what is handed over, which must be a diagnostic. -/
def submit (r : Report) : Diagnostic ⊕ Value → Except Fault Report
  | .inl d => .ok (r.add d)
  | .inr v => .error (.notDiagnostic v.typeName)

/-- Appends what reaches the threshold. -/
def log (r : Report) (d : Diagnostic) : Report := if d.level.reaches r.level then r.add d else r

def logAll (r : Report) (ds : List Diagnostic) : Report := ds.foldl log r

/-- Folds a report into itself, from the message at `cursor` on, reading the list as it grows;
`none` when `fuel` steps do not reach its end. -/
def injectSelf (r : Report) : Nat → Nat → Option Report
  | 0, cursor => if cursor < r.size then none else some r
  | fuel + 1, cursor =>
    match r.messages[cursor]? with
    | none => some r
    | some d => injectSelf (r.log d) fuel (cursor + 1)

def shown (r : Report) (title : String) : String :=
  title ++ "(log_level=" ++ r.level.name ++ ", messages=" ++ toString r.size ++ ")"

end Report

/-- A region of a document or of a schema. -/
inductive Region where
  | pointer (p : Pointer)
  | location (l : Location)
  deriving DecidableEq, Repr

namespace Region

/-- Regions of different sorts are never nested. -/
def isParentOf : Region → Region → Bool
  | .pointer p, .pointer q => p.isParentOf q
  | .location a, .location b => a.isParentOf b
  | _, _ => false

def text : Region → String
  | .pointer p => p.text
  | .location l => l.text

end Region

structure FaultReport where
  report : Report := ⟨.debug, []⟩
  /-- The marked regions, in the order of their first marking. -/
  ignored : List Region := []
  deriving Repr

namespace FaultReport

def mark (f : FaultReport) (region : Region) : FaultReport :=
  if f.ignored.contains region then f else ⟨f.report, f.ignored ++ [region]⟩

/-- Marks what is handed over, which must be a region. -/
def submit (f : FaultReport) : Region ⊕ Value → Except Fault FaultReport
  | .inl region => .ok (f.mark region)
  | .inr v => .error (.notPath v.typeName)

def isIgnored (f : FaultReport) (region : Region) : Bool := f.ignored.any (·.isParentOf region)

/-- Whether what is asked about lies in a marked region; what is no region lies in none. -/
def covers (f : FaultReport) : Region ⊕ Value → Bool
  | .inl region => f.isIgnored region
  | .inr _ => false

def add (f : FaultReport) (d : Diagnostic) : FaultReport := ⟨f.report.add d, f.ignored⟩

/-- Copies one message into `target`, keeping a construction failure that has a location among
the faults; with `collapse`, one at or under a location that failed before is dropped. -/
def collectStep (collapse : Bool) (state : FaultReport × Report) (d : Diagnostic) :
    FaultReport × Report :=
  let (faults, target) := state
  match d.isConstruction, d.schema with
  | true, some l =>
    if collapse && faults.isIgnored (.location l) then (faults, target)
    else ((faults.mark (.location l)).add d, target.log d)
  | _, _ => (faults, target.log d)

/-- The construction failures of `source`, and `target` with the messages of `source` added. -/
def collect (source : List Diagnostic) (target : Report) (collapse : Bool) :
    FaultReport × Report :=
  source.foldl (collectStep collapse) ({}, target)

end FaultReport

end Conform
