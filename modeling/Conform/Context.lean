import Conform.Judge
import Conform.Report.Desk

/-!
Contexts: sites bound to the report that their findings go to. A derivation holds the contexts
derived so far from a first one, in order, and the desk with all of their reports.
-/
namespace Conform

structure Context where
  site : Site
  /-- The number of its report. -/
  report : Nat
  deriving Repr

/-- Where the findings of a child go: with those of its parent, to a given report, or to a new
report of the same threshold. -/
inductive Sink where
  | shared
  | given (report : Nat)
  | isolated
  deriving DecidableEq, Repr

structure Derivation where
  desk : Desk := []
  contexts : List Context := []
  deriving Repr

namespace Derivation

def start (site : Site) (level : Severity) : Derivation := ⟨[.plain ⟨level, []⟩], [⟨site, 0⟩]⟩

def reportOf (d : Derivation) (c : Context) : Report := d.desk.reportAt c.report

/-- Adds a context that writes to a report on the desk. -/
def bind (d : Derivation) (site : Site) (report : Nat) : Derivation :=
  { d with contexts := d.contexts ++ [⟨site, report⟩] }

/-- Adds a context with a report of its own. -/
def bindNew (d : Derivation) (site : Site) (level : Severity) : Derivation :=
  ⟨d.desk ++ [.plain ⟨level, []⟩], d.contexts ++ [⟨site, d.desk.length⟩]⟩

def child (d : Derivation) (c : Context) (schema value : Value) (token : Token)
    (steps : List Token) (sink : Sink) : Derivation :=
  let site := c.site.child schema value token steps
  match sink with
  | .shared => d.bind site c.report
  | .given report => d.bind site report
  | .isolated => d.bindNew site (d.reportOf c).level

def under (d : Derivation) (c : Context) (schema : Value) (location : Location) : Derivation :=
  d.bind (c.site.under schema location) c.report

def follow (d : Derivation) (c : Context) (schema : Value) (location : Location) : Derivation :=
  d.bind (c.site.follow schema location) c.report

/-- A trial writes down everything, on a report of its own. -/
def scratch (d : Derivation) (c : Context) (schema : Value) (location : Location) : Derivation :=
  d.bindNew (c.site.scratch schema location) .debug

def log (d : Derivation) (report : Nat) (m : Diagnostic) : Derivation :=
  { d with desk := d.desk.log report m }

/-- Takes what a context found over into a report. -/
def absorb (d : Derivation) (c : Context) (report : Nat) : Derivation :=
  let into := (d.desk.reportAt report).logAll (d.reportOf c).messages
  { d with desk := d.desk.setReport report into }

/-- Judges the site of a context, writing to its report. -/
def judge (e : Setting) (d : Derivation) (c : Context) : Derivation × Except Fault Bool :=
  let (j, verdict) := e.judgeSite c.site ⟨d.reportOf c, []⟩
  ({ d with desk := d.desk.setReport c.report j.report }, verdict)

end Derivation

end Conform
