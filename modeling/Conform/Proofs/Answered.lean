import Conform.Proofs.Agreement
import Conform.Proofs.Provenance

/-!
What a run that comes to a verdict has found, up to wording. A keyword that looks at the value
alone finds one thing if it says no, and nothing if it says yes; only an unknown format is remarked
on. What a node finds is what its keywords find, followed by what its children find.
-/
namespace Conform

/-- What a diagnostic is about and how severe it is, whatever its wording. -/
structure Gist where
  level : Severity
  domain : Domain
  path : Pointer
  schema : Option Location
  keyword : Option String
  deriving DecidableEq

def Diagnostic.gist (d : Diagnostic) : Gist := ⟨d.level, d.domain, d.path, d.schema, d.keyword⟩

/-- The gist of what is said at a site. -/
def Site.gist (s : Site) (keyword : Option String) (level : Severity := .error)
    (domain : Domain := .validation) : Gist :=
  ⟨level, domain, s.path, some s.location, keyword⟩

def Outcome.gists (o : Outcome) : List Gist := o.messages.map Diagnostic.gist

namespace Outcome

theorem gists_after (o : Outcome) (ns : List Note) : (o.after ns).gists = o.gists := rfl

/-- Steps that all answer find what each of them finds. -/
theorem gists_all {os : List Outcome} (h : ∀ o ∈ os, ∃ b, o.verdict = .ok b) :
    (all os).gists = os.flatMap gists := by
  rw [gists, (all_of_answers h).1, List.map_flatMap]
  rfl

end Outcome

namespace Keyword

variable {e : Setting} {J : Judge} {s : Site} {node : Members} {kind : Kind} {k : Keyword}

/-- What a keyword that looks at the value alone is built to. -/
theorem built_of_plain {b : Built} (hplain : k.isPlain) (hb : k.build node = .ok b) :
    b = .checker .always ∨ (∃ t : Test, t.keyword = k.name ∧ b = asTest t) ∨
      (k = .format ∧ ∃ name, b = .logic (.unknownFormat name)) := by
  -- the keyword of a test is read off what was built
  have htest {t : Test} (ht : b = asTest t) :
      b = .checker .always ∨ (∃ t : Test, t.keyword = k.name ∧ b = asTest t) ∨
        (k = .format ∧ ∃ name, b = .logic (.unknownFormat name)) := by
    rw [ht] at hb
    exact .inr (.inl ⟨t, Option.some.inj (keyword?_of_build hb), ht⟩)
  cases k with
  | additionalItems =>
    obtain ⟨_, _, _, ⟨_, _, _, h⟩ | ⟨_, h⟩⟩ := additionalItemsBuilder_ok.mp hb
    · exact htest h
    · exact .inl h
  | additionalProperties =>
    obtain ⟨_, _, ⟨_, h⟩ | ⟨_, _, _, _, _, _, _, h⟩⟩ := additionalPropertiesBuilder_ok.mp hb
    · exact .inl h
    · exact htest h
  | divisibleBy =>
    obtain ⟨_, _, _, _, _, h⟩ := divisibleByBuilder_ok.mp hb
    exact htest h
  | enum =>
    obtain ⟨_, _, _, h⟩ := enumBuilder_ok.mp hb
    exact htest h
  | format =>
    obtain ⟨name, _, ⟨_, _, h⟩ | ⟨_, h⟩⟩ := formatBuilder_ok.mp hb
    · exact htest h
    · exact .inr (.inr ⟨rfl, name, h⟩)
  | items =>
    obtain ⟨_, _, _, h⟩ := itemsBuilder_ok.mp hb
    exact .inl h
  | maximum | minimum =>
    obtain ⟨_, _, _, _, _, _, h⟩ := boundBuilder_ok.mp hb
    exact htest h
  | maxItems | minItems =>
    obtain ⟨_, _, _, _, h⟩ := itemCountBuilder_ok.mp hb
    exact htest h
  | maxLength | minLength =>
    obtain ⟨_, _, _, _, h⟩ := textLengthBuilder_ok.mp hb
    exact htest h
  | pattern =>
    obtain ⟨_, _, _, _, h⟩ := patternBuilder_ok.mp hb
    exact htest h
  | patternProperties =>
    obtain ⟨_, _, _, _, h⟩ := patternPropertiesBuilder_ok.mp hb
    exact .inl h
  | properties =>
    obtain ⟨_, names, _, _, h⟩ := propertiesBuilder_ok.mp hb
    split at h
    · exact .inl h
    · exact htest h
  | uniqueItems =>
    obtain ⟨wanted, _, h⟩ := uniqueItemsBuilder_ok.mp hb
    split at h
    · exact htest h
    · exact .inl h
  | _ => cases hplain

/-- A keyword that looks at the value alone and is no unknown format finds one error if it says no,
and nothing otherwise. -/
theorem gists_of_plain {b : Built} (hplain : k.isPlain) (hb : k.build node = .ok b)
    (hformat : ∀ name, b ≠ .logic (.unknownFormat name)) :
    ((k.outcome e J s node).verdict = .ok false ∧
        (k.outcome e J s node).gists = [s.gist (some k.name)]) ∨
      ((k.outcome e J s node).verdict ≠ .ok false ∧ (k.outcome e J s node).gists = []) := by
  rcases built_of_plain hplain hb with rfl | ⟨t, hkeyword, rfl⟩ | ⟨_, name, rfl⟩
  · right
    simp only [outcome, hb, Outcome.pass, Outcome.gists]
    simp
  · simp only [outcome, hb, asTest, Logic.run, Logic.judgeTest]
    cases hr : t.finding s with
    | error f => simp [Outcome.gists]
    | ok r =>
      cases r with
      | none => simp [Outcome.gists]
      | some d =>
        obtain ⟨message, details, rfl⟩ := Test.eq_diagnostic_of_finding hr
        rw [← hkeyword]
        simp only [Step.outcome_fail]
        exact .inl ⟨trivial, rfl⟩
  · exact absurd rfl (hformat name)

/-- An unknown format is remarked on and passes. -/
theorem gists_of_unknownFormat {name : String}
    (hb : k.build node = .ok (.logic (.unknownFormat name))) :
    (k.outcome e J s node).gists = [s.gist (some "format") .info] ∧
      (k.outcome e J s node).verdict = .ok true := by
  simp only [outcome, hb]
  rw [Step.outcome_eq (Logic.unknownFormat_onto e J k.name name s)]
  exact ⟨rfl, rfl⟩

end Keyword

namespace Setting

variable {e : Setting} {J : Judge} {s : Site} {node : Members} {kind : Kind}

/-- The outcomes that a node comes to: those of its keywords, then those of its children. -/
def parts (e : Setting) (J : Judge) (s : Site) (node : Members) (kind : Kind) : List Outcome :=
  (Keyword.selected node kind).map (Keyword.outcome e J s node) ++
    Checker.childOutcomes J s kind node

/-- A verdict on a node that can be used is one on every part of it. -/
theorem round_answered (hv : e.vocabulary = .known) (hJ : J.Uniform) (hs : s.schema = .obj node)
    (hk : s.kind = .ok kind) (hbuilt : ∀ k ∈ Keyword.selected node kind, ∃ b, k.build node = .ok b)
    {y : Bool} (h : (e.round J s).outcome.verdict = .ok y) :
    (∀ o ∈ e.parts J s node kind, ∃ b, o.verdict = .ok b) ∧
      (∀ c ∈ s.value.children, ∃ ts, ChildSchema.ofKind kind node c.1 = .ok ts) ∧
      (e.round J s).outcome.gists = (e.parts J s node kind).flatMap Outcome.gists ∧
      y = (e.parts J s node kind).all Outcome.holds := by
  obtain ⟨ns, hround⟩ := round_built hv hJ hs hk hbuilt
  rw [hround, Outcome.verdict_after] at h
  obtain ⟨a, b, ha, hb, rfl⟩ := Outcome.verdict_andThen_ok.mp h
  have hkeywords := (Outcome.verdict_all_ok ha).1
  have hdescends := Checker.descends_of_descent hJ hs hk hb
  obtain ⟨ns', hdescent⟩ := Checker.descent_of_descends (e := e) hJ hs hk hdescends
  obtain ⟨hmessages, hverdict⟩ := Outcome.all_append_of_answers hkeywords hdescends.answers
  have hanswers : ∀ o ∈ e.parts J s node kind, ∃ b, o.verdict = .ok b := by
    intro o ho
    rcases List.mem_append.mp ho with ho | ho
    · exact hkeywords o ho
    · exact hdescends.answers o ho
  refine ⟨hanswers, hdescends.schemas, ?_, ?_⟩
  · rw [hround, Outcome.gists_after, Outcome.gists, hdescent, Outcome.messages_andThen_after,
      hmessages, List.map_flatMap]
    rfl
  · rw [hdescent, Outcome.verdict_andThen_after, hverdict] at h
    exact (Except.ok.inj h).symm

end Setting

end Conform
