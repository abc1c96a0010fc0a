import Conform.Proofs.Verdict

/-!
When tests, the search for the schemas of children, and the logic of keywords fail instead of
answering. Of the tests it is those that search a text, on the values that they are made for, beside
those whose complaint cannot be written.
-/
namespace Conform

/-- Only the check of a text for being a pattern can fail, with whatever keeps the text from being
read as one, unless it just is none. -/
theorem Format.check_error {format : Format} {v : Value} {f : Fault} :
    format.check v = .error f ↔ format = .regex ∧ Pattern.compile v.text = .error f ∧
      ∀ message, f ≠ .pattern message := by
  cases format with
  | regex =>
    simp only [check, isRegex, true_and]
    cases Pattern.compile v.text with
    | ok p => simp
    | error g => cases g <;> simp +contextual [eq_comm]
  | _ => simp [check]

namespace Test

variable {s : Site} {f : Fault}

theorem complainUnless_ne_error {met : Bool} {d : Diagnostic} :
    complainUnless met (.ok d) ≠ .error f := by
  rw [complainUnless_plain]
  nofun

/-- A pattern test fails just where its search does. -/
theorem pattern_error {p : Pattern} {t : String} (hv : s.value = .str t) :
    (pattern p).finding s = .error f ↔ p.search t = .error f := by
  simp only [finding, hv, Value.written_str, Answer.do_error, Except.ok.injEq, exists_eq_left',
    reduceCtorEq, false_or]
  constructor
  · intro h
    rcases h with h | ⟨b, _, h⟩
    · exact h
    · exact absurd h complainUnless_ne_error
  · exact .inl

theorem format_error {format : Format} {kind : Kind} (hk : s.kind = .ok kind) :
    (Test.format format).finding s = .error f ↔
      kind ∈ format.kinds ∧ format.check s.value = .error f := by
  simp only [finding, hk, Answer.do_error, reduceCtorEq, Except.ok.injEq, exists_eq_left',
    false_or]
  by_cases hmem : kind ∈ format.kinds
  · have hcontains : format.kinds.contains kind = true := by simpa using hmem
    simp only [hcontains, Bool.not_true, Bool.false_eq_true, ↓reduceIte, Answer.do_error, hmem,
      true_and]
    constructor
    · intro h
      rcases h with h | ⟨b, _, h⟩
      · exact h
      · exact absurd h complainUnless_ne_error
    · exact .inl
  · have hcontains : format.kinds.contains kind = false := by simpa using hmem
    simp only [hcontains, Bool.not_false, ↓reduceIte, hmem, false_and, iff_false]
    intro h
    cases h

theorem filterAuxM_error {α : Type} {g : α → Except Fault Bool} {xs acc : List α}
    (h : List.filterAuxM g xs acc = .error f) : ∃ x ∈ xs, g x = .error f := by
  induction xs generalizing acc with
  | nil => cases h
  | cons x xs ih =>
    rcases Answer.do_error.mp h with h | ⟨b, _, h⟩
    · exact ⟨x, List.mem_cons_self, h⟩
    · obtain ⟨y, hy, h⟩ := ih h
      exact ⟨y, List.mem_cons_of_mem _ hy, h⟩

theorem searchAny_error {name : String} {ps : List Pattern}
    (h : Pattern.searchAny name ps = .error f) : ∃ p ∈ ps, p.search name = .error f := by
  induction ps with
  | nil => cases h
  | cons p ps ih =>
    rcases Answer.do_error.mp h with h | ⟨b, _, h⟩
    · exact ⟨p, List.mem_cons_self, h⟩
    · cases b with
      | true => cases h
      | false =>
        obtain ⟨q, hq, h⟩ := ih h
        exact ⟨q, List.mem_cons_of_mem _ hq, h⟩

/-- A closed object fails only if some name cannot be searched for some pattern. -/
theorem closed_error {declared : List String} {patterns : List Pattern} {ms : Members}
    (hv : s.value = .obj ms) (h : (closed declared patterns).finding s = .error f) :
    ∃ m ∈ ms, ∃ p ∈ patterns, p.search m.1 = .error f := by
  simp only [finding, hv, extraNames, Answer.do_error, Answer.map_error] at h
  rcases h with h | ⟨extra, _, h⟩
  -- filtering fails with the first name that cannot be searched
  · have haux : List.filterAuxM (isUndeclared declared patterns) (Members.keys ms) [] =
        .error f := by
      rcases Answer.do_error.mp h with h | ⟨l, _, h⟩
      · exact h
      · cases h
    obtain ⟨n, hn, h⟩ := filterAuxM_error haux
    obtain ⟨m, hm, rfl⟩ := List.mem_map.mp hn
    unfold isUndeclared at h
    split at h
    · cases h
    · exact ⟨m, hm, searchAny_error (Answer.map_error.mp h)⟩
  · exact absurd h complainUnless_ne_error

end Test

namespace ChildSchema

variable {node : Members} {f : Fault}

/-- Searching all patterns fails with the first that cannot be read or searched. -/
theorem matching_error {name : String} {ps : Members} (h : matching name ps = .error f) :
    ∃ m ∈ ps, Pattern.compile m.1 = .error f ∨
      ∃ p, Pattern.compile m.1 = .ok p ∧ p.search name = .error f := by
  induction ps with
  | nil => cases h
  | cons m ps ih =>
    obtain ⟨source, schema⟩ := m
    simp only [matching, Answer.do_error] at h
    rcases h with h | ⟨p, hp, h | ⟨b, _, h | ⟨found, _, h⟩⟩⟩
    · exact ⟨_, List.mem_cons_self, .inl h⟩
    · exact ⟨_, List.mem_cons_self, .inr ⟨p, hp, h⟩⟩
    · obtain ⟨m, hm, h⟩ := ih h
      exact ⟨m, List.mem_cons_of_mem _ hm, h⟩
    · cases h

theorem matching_of_error {name : String} {ps : Members} {m : String × Value} {p : Pattern}
    (hm : m ∈ ps) (hp : Pattern.compile m.1 = .ok p) (hs : p.search name = .error f) :
    ∃ g, matching name ps = .error g := by
  cases hok : matching name ps with
  | error g => exact ⟨g, rfl⟩
  | ok l =>
    exfalso
    induction ps generalizing l with
    | nil => simp at hm
    | cons n ps ih =>
      obtain ⟨source, schema⟩ := n
      simp only [matching, Answer.do_ok] at hok
      obtain ⟨q, hq, b, hb, found, hfound, _⟩ := hok
      rcases List.mem_cons.mp hm with rfl | hm
      · obtain rfl : p = q := Except.ok.inj (hp.symm.trans hq)
        cases hb.symm.trans hs
      · exact ih hm found hfound

/-- Positions in the items never fail. -/
theorem forElement_ne_error {i : Nat} : forElement node (.index i) ≠ .error f := by
  intro h
  unfold forElement at h
  split at h
  · cases h
  · split at h
    · cases h
    · -- a position is read off a number, and a number within the length has an element
      simp only [position, Answer.do_error, Except.ok.injEq, reduceCtorEq, exists_eq_left',
        elementAt?_nat, Nat.cast_lt, false_or] at h
      split at h
      · rename_i hlt
        rw [List.getElem?_eq_getElem hlt] at h
        cases h
      · cases h
  · cases h

theorem forMember_error {name : String} (h : forMember node (.name name) = .error f) :
    ∃ source t, Names node "patternProperties" source t ∧
      (Pattern.compile source = .error f ∨
        ∃ p, Pattern.compile source = .ok p ∧ p.search name = .error f) := by
  simp only [forMember, Token.text, Answer.do_error, Answer.map_error] at h
  rcases h with h | ⟨found, _, h⟩
  · unfold patterned at h
    split at h
    · rename_i ps hps
      obtain ⟨m, hm, h⟩ := matching_error h
      exact ⟨m.1, m.2, ⟨ps, hps, hm⟩, h⟩
    · cases h
  · cases h

theorem forMember_of_error {name source : String} {t : Value} {p : Pattern}
    (hn : Names node "patternProperties" source t) (hp : Pattern.compile source = .ok p)
    (hs : p.search name = .error f) : ∃ g, forMember node (.name name) = .error g := by
  obtain ⟨ps, hps, hm⟩ := hn
  obtain ⟨g, hg⟩ := matching_of_error hm hp hs
  refine ⟨g, ?_⟩
  simp only [forMember, Token.text, Answer.do_error, Answer.map_error, patterned, hps]
  exact .inl hg

end ChildSchema

namespace Job

variable {kind : Kind} {node : Members} {f : Fault}

theorem forChildren_error {cs : List (Token × Value)} (h : forChildren kind node cs = .error f) :
    ∃ c ∈ cs, ChildSchema.ofKind kind node c.1 = .error f := by
  induction cs with
  | nil => cases h
  | cons c cs ih =>
    simp only [forChildren, Answer.do_error] at h
    rcases h with h | ⟨l, _, h | ⟨jobs, _, h⟩⟩
    · exact ⟨c, List.mem_cons_self, h⟩
    · obtain ⟨c', hc', h⟩ := ih h
      exact ⟨c', List.mem_cons_of_mem _ hc', h⟩
    · cases h

theorem forChildren_of_error {cs : List (Token × Value)} {c : Token × Value} (hc : c ∈ cs)
    (h : ChildSchema.ofKind kind node c.1 = .error f) :
    ∃ g, forChildren kind node cs = .error g := by
  cases hok : forChildren kind node cs with
  | error g => exact ⟨g, rfl⟩
  | ok jobs =>
    obtain ⟨l, hl⟩ := ofKind_ok hok hc
    cases h.symm.trans hl

end Job

namespace Outcome

theorem verdict_andThen_fails {a b : Outcome}
    (h : (∃ f, a.verdict = .error f) ∨ ∃ f, b.verdict = .error f) :
    ∃ g, (a.andThen b).verdict = .error g := by
  cases ha : a.verdict with
  | error f => exact ⟨f, verdict_andThen_error.mpr (.inl ha)⟩
  | ok x =>
    rcases h with ⟨f, hf⟩ | ⟨f, hf⟩
    · cases ha.symm.trans hf
    · exact ⟨f, verdict_andThen_error.mpr (.inr ⟨x, ha, hf⟩)⟩

end Outcome

namespace Step

theorem verdict_all_error {ss : List Step} (hs : ∀ s ∈ ss, s.Uniform) {f : Fault}
    (h : (all ss).outcome.verdict = .error f) : ∃ s ∈ ss, s.outcome.verdict = .error f := by
  rw [outcome_all hs] at h
  obtain ⟨o, ho, h⟩ := Outcome.exists_of_verdict_all_error h
  obtain ⟨s, hs, rfl⟩ := List.mem_map.mp ho
  exact ⟨s, hs, h⟩

theorem verdict_all_fails {ss : List Step} (hs : ∀ s ∈ ss, s.Uniform) {s : Step} (hmem : s ∈ ss)
    {f : Fault} (h : s.outcome.verdict = .error f) :
    ∃ g, (all ss).outcome.verdict = .error g := by
  rw [outcome_all hs]
  exact Outcome.verdict_all_error (List.mem_map.mpr ⟨s, hmem, rfl⟩) h

end Step

namespace Logic

variable {e : Setting} {J : Judge} {s : Site} {f : Fault}

theorem holds_ne_error {v : Value} {kind : Kind} {n : String} (hk : Kind.classify v = .ok kind)
    (hn : Kind.isTypeName n) : Kind.holds (.str n) v ≠ .error f := by
  unfold Kind.holds
  by_cases hany : Kind.isAny (.str n) = true
  · rw [if_pos hany]
    intro h
    cases h
  · have hname : (n == Kind.anyName) = false := Bool.eq_false_iff.mpr hany
    rw [Kind.isTypeName, hname, Bool.false_or] at hn
    obtain ⟨expected, he⟩ := Option.isSome_iff_exists.mp hn
    rw [if_neg hany, Kind.parse, he, hk]
    intro h
    cases h

theorem isOfType_ne_error {v : Value} {kind : Kind} {names : List String}
    (hk : Kind.classify v = .ok kind) (hn : ∀ n ∈ names, Kind.isTypeName n) :
    isOfType v names ≠ .error f := by
  induction names with
  | nil =>
    intro h
    cases h
  | cons name names ih =>
    obtain ⟨hname, hnames⟩ := List.forall_mem_cons.mp hn
    intro h
    rcases Answer.do_error.mp h with h | ⟨b, _, h⟩
    · exact holds_ne_error hk hname h
    · cases b with
      | true => cases h
      | false => exact ih hnames h

theorem isTypeName_of_mem_names {w : Value} {n : String} (hw : w.IsTypes) (hn : n ∈ w.names) :
    Kind.isTypeName n := by
  obtain ⟨x, hx, hxn⟩ := List.mem_filterMap.mp hn
  have hstr : x = .str n := by
    cases x with
    | str t => exact congrArg Value.str (Option.some.inj hxn)
    | _ => cases hxn
  subst hstr
  rcases hw with ⟨t, rfl, ht⟩ | ⟨xs, rfl, _, hxs⟩
  · obtain rfl : n = t := Value.str.inj (List.mem_singleton.mp hx)
    exact ht
  · rcases hxs _ hx with ⟨t, ht, hname⟩ | ⟨ms, hms⟩
    · obtain rfl : n = t := Value.str.inj ht
      exact hname
    · cases hms

/-- A type fails only where a trial does, those before it having said no. -/
theorem verdict_types_error (hJ : J.Uniform) {kind : Kind} (hk : s.kind = .ok kind)
    {keyword : String} {w : Value} {parts : List Part} {negated : Bool} (hw : w.IsTypes)
    (hparts : parts.map (·.schema) = w.schemas)
    (h : (judgeTypes J keyword w.names parts negated s).outcome.verdict = .error f) :
    (¬ ∃ n ∈ w.names, Kind.holds (.str n) s.value = .ok true) ∧
      ∃ pre t post, w.schemas = pre ++ t :: post ∧
        (∀ u ∈ pre, ∃ l, (J (s.scratch u (s.location.append l))).outcome.verdict = .ok false) ∧
        ∃ l, (J (s.scratch t (s.location.append l))).outcome.verdict = .error f := by
  rw [Step.outcome_eq (judgeTypes_onto hJ keyword w.names parts negated s)] at h
  have hmatching : (matching J keyword w.names parts s []).2 = .error f := by
    unfold typesOutcome at h
    rcases hm : matching J keyword w.names parts s [] with ⟨notes, g | ⟨matched, reports⟩⟩
    · rw [hm] at h
      exact congrArg Except.error (Except.error.inj h)
    · rw [hm] at h
      simp only [hk] at h
      cases negated <;> cases matched <;> cases h
  -- names are told apart without fault, so it was a trial
  unfold matching at hmatching
  split at hmatching
  · rename_i g hg
    exact absurd hg (isOfType_ne_error hk fun n hn => isTypeName_of_mem_names hw hn)
  · cases hmatching
  · rename_i hnames
    refine ⟨?_, ?_⟩
    · rw [← isOfType_ok hnames]
      simp
    · obtain ⟨pre, t, post, hsplit, hpre, ht⟩ := (tries_error hJ).mp hmatching
      obtain ⟨ps, qs, rfl, rfl, hqs⟩ := List.map_eq_append_iff.mp hsplit
      obtain ⟨p, ps', rfl, rfl, rfl⟩ := List.map_eq_cons_iff.mp hqs
      refine ⟨ps.map (·.schema), p.schema, ps'.map (·.schema), ?_, ?_, ?_⟩
      · rw [← hparts, List.map_append, List.map_cons]
      · intro u hu
        obtain ⟨q, hq, rfl⟩ := List.mem_map.mp hu
        exact ⟨_, hpre _ (List.mem_map.mpr ⟨q, hq, rfl⟩)⟩
      · exact ⟨_, ht⟩

/-- Trials fail if one of them does and none before it says yes. -/
theorem tries_fails (hJ : J.Uniform) {pre post : List Site} {t : Site}
    (hpre : ∀ u ∈ pre, (J u).outcome.verdict ≠ .ok true)
    (ht : ∃ f, (J t).outcome.verdict = .error f) :
    ∃ g, (tries J (pre ++ t :: post) []).2 = .error g := by
  -- the first trial that fails is the one at `t`, or comes before it
  induction pre with
  | nil =>
    obtain ⟨f, hf⟩ := ht
    rw [List.nil_append, tries_cons hJ]
    exact ⟨f, Answer.bind_error.mpr (.inl hf)⟩
  | cons u pre ih =>
    obtain ⟨hu, hpre⟩ := List.forall_mem_cons.mp hpre
    rw [List.cons_append, tries_cons hJ]
    cases hv : (J u).outcome.verdict with
    | error g => exact ⟨g, rfl⟩
    | ok b =>
      cases b with
      | true => exact absurd hv hu
      | false =>
        obtain ⟨g, hg⟩ := ih hpre
        exact ⟨g, Answer.map_error.mpr hg⟩

theorem verdict_types_fails (hJ : J.Uniform) {keyword : String} {w : Value} {parts : List Part}
    {negated : Bool} {pre post : List Value} {t : Value}
    (hparts : parts.map (·.schema) = w.schemas)
    (hnames : ¬ ∃ n ∈ w.names, Kind.holds (.str n) s.value = .ok true)
    (hl : w.schemas = pre ++ t :: post)
    (hpre : ∀ u ∈ pre, ∀ l, (J (s.scratch u (s.location.append l))).outcome.verdict ≠ .ok true)
    (ht : ∀ l, ∃ f, (J (s.scratch t (s.location.append l))).outcome.verdict = .error f) :
    ∃ g, (judgeTypes J keyword w.names parts negated s).outcome.verdict = .error g := by
  rw [Step.outcome_eq (judgeTypes_onto hJ keyword w.names parts negated s)]
  have hmatching : ∃ g, (matching J keyword w.names parts s []).2 = .error g := by
    unfold matching
    cases hn : isOfType s.value w.names with
    | error g => exact ⟨g, rfl⟩
    | ok b =>
      cases b with
      | true => exact absurd ((isOfType_ok hn).mp rfl) hnames
      | false =>
        rw [hl] at hparts
        obtain ⟨ps, qs, rfl, rfl, hqs⟩ := List.map_eq_append_iff.mp hparts
        obtain ⟨p, ps', rfl, rfl, rfl⟩ := List.map_eq_cons_iff.mp hqs
        simp only [List.map_append, List.map_cons]
        apply tries_fails hJ
        · intro u hu
          obtain ⟨q, hq, rfl⟩ := List.mem_map.mp hu
          exact hpre _ (List.mem_map.mpr ⟨q, hq, rfl⟩) _
        · exact ht _
  obtain ⟨g, hg⟩ := hmatching
  refine ⟨g, ?_⟩
  unfold typesOutcome
  rcases hm : matching J keyword w.names parts s [] with ⟨notes, r⟩
  rw [hm] at hg
  obtain rfl : r = .error g := hg
  rfl

end Logic

end Conform
