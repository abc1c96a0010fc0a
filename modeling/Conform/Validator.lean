import Conform.Judge
import Conform.Keyword.Basic

/-!
Validators: one schema bound to a vocabulary, documents and options. Each validation writes a
report of everything, of which the caller gets what reaches the threshold of the options.
-/
namespace Conform

structure Validator where
  schema : Value
  setting : Setting
  location : Location := {}

structure Result where
  isValid : Bool
  report : Report
  faults : FaultReport
  deriving Repr

namespace Validator

/-- Without documents of its own, a validator resolves references in its schema and the store. -/
def make (schema : Value) (vocabulary : Vocabulary) (options : Options)
    (documents : Option Documents) (baseUri : String) (store : Members) :
    Except Fault Validator :=
  match documents with
  | some d => .ok ⟨schema, ⟨vocabulary, d, options, .report⟩, ⟨baseUri, .root⟩⟩
  | none => do
    let d ← Documents.make schema baseUri store
    return ⟨schema, ⟨vocabulary, d, options, .report⟩, ⟨d.baseUri, .root⟩⟩

def site (v : Validator) (value : Value) : Site :=
  { schema := v.schema, value, location := v.location, pooled := v.setting.options.isParallel }

/-- Everything that judging a value finds. -/
def findings (v : Validator) (value : Value) : Journal × Except Fault Bool :=
  v.setting.judgeSite (v.site value) ⟨⟨.debug, []⟩, []⟩

def finishNote (r : Result) : Note :=
  ⟨"engine", .debug, "validation finished",
    [("valid", .bool r.isValid), ("messages", .int r.report.size),
      ("schema_faults", .int r.faults.report.size)]⟩

/-- The result for a verdict and what was found on the way to it. -/
def resultOf (v : Validator) (isValid : Bool) (found : List Diagnostic) : Result :=
  let (faults, report) := FaultReport.collect found ⟨v.setting.options.reportLevel, []⟩
    v.setting.options.collapseRepeats
  ⟨isValid, report, faults⟩

/-- The result of validating a value, and the notes taken, in order. -/
def validate (v : Validator) (value : Value) : List Note × Except Fault Result :=
  match v.findings value with
  | (j, .error f) => (j.notes.reverse, .error f)
  | (j, .ok isValid) =>
    let r := v.resultOf isValid j.report.messages
    (j.notes.reverse ++ [finishNote r], .ok r)

/-- Validates values in turn, folding each report into an enclosing one. -/
def validateAll (v : Validator) (enclosing : Report) :
    List Value → Report × List (Except Fault Result)
  | [] => (enclosing, [])
  | x :: xs =>
    match (v.validate x).2 with
    | .error f =>
      let (final, rest) := validateAll v enclosing xs
      (final, .error f :: rest)
    | .ok r =>
      let (final, rest) := validateAll v (enclosing.logAll r.report.messages) xs
      (final, .ok r :: rest)

end Validator

end Conform
