import Conform.Report.Basic

/-!
Numbered reports that are filled side by side, and folded into one another.
-/
namespace Conform

inductive Sheet where
  | plain (r : Report)
  | faults (f : FaultReport)
  deriving Repr

namespace Sheet

def report : Sheet → Report
  | .plain r => r
  | .faults f => f.report

def withReport : Sheet → Report → Sheet
  | .plain _, r => .plain r
  | .faults f, r => .faults ⟨r, f.ignored⟩

def shown : Sheet → String
  | .plain r => r.shown "ListReport"
  | .faults f => f.report.shown "SyntaxReport"

def ignored : Sheet → List Region
  | .plain _ => []
  | .faults f => f.ignored

/-- Marks a region in a report that keeps regions. -/
def mark : Sheet → Region ⊕ Value → Except Fault Sheet
  | .plain r, _ => .ok (.plain r)
  | .faults f, x => (f.submit x).map .faults

def covers : Sheet → Region ⊕ Value → Bool
  | .plain _, _ => false
  | .faults f, x => f.covers x

end Sheet

abbrev Desk := List Sheet

namespace Desk

def reportAt (d : Desk) (i : Nat) : Report := (d[i]?.map Sheet.report).getD {}

def setReport (d : Desk) (i : Nat) (r : Report) : Desk := d.modify i (·.withReport r)

def log (d : Desk) (i : Nat) (m : Diagnostic) : Desk := d.setReport i ((d.reportAt i).log m)

/-- Adds what is handed over, which must be a diagnostic. -/
def submit (d : Desk) (i : Nat) (x : Diagnostic ⊕ Value) : Except Fault Desk :=
  ((d.reportAt i).submit x).map (d.setReport i)

/-- Folds one report into another; `none` if that never ends, as when a report that holds a
message at its own threshold is folded into itself. -/
def inject (d : Desk) (source target : Nat) : Option Desk :=
  if source = target then
    ((d.reportAt source).injectSelf (d.reportAt source).size 0).map (d.setReport source)
  else
    some (d.setReport target ((d.reportAt target).logAll (d.reportAt source).messages))

/-- Copies a report into another and puts the faults found at the end of the desk. -/
def collect (d : Desk) (source target : Nat) (collapse : Bool) : Desk × FaultReport :=
  let (faults, report) :=
    FaultReport.collect (d.reportAt source).messages (d.reportAt target) collapse
  (d.setReport target report ++ [.faults faults], faults)

end Desk

end Conform
