import Conform.Proofs.Fuel
import Conform.Proofs.Relocation
import Conform.Validator

/-!
Where a value stands does not matter. A node set against a value at one path finds what it finds at
any other path, with the paths of the findings led over. So a child of a container is judged as it
is on its own, whatever was followed on the way to it.
-/
namespace Conform

/-- The same steps from another point on. -/
def Pointer.rebase (a p q : Pointer) : Pointer := ⟨q.tokens ++ a.tokens.drop p.tokens.length⟩

/-- The diagnostic led over from one path to another one. -/
def Diagnostic.rebase (p q : Pointer) (d : Diagnostic) : Diagnostic :=
  { d with path := d.path.rebase p q }

/-- Paths that lead by the same steps from one point and from another one. -/
def Relocation.between (p q : Pointer) : Relocation where
  path a b := ∃ ts, a = ⟨p.tokens ++ ts⟩ ∧ b = ⟨q.tokens ++ ts⟩
  place l m := l = m
  path_append := by
    rintro _ _ ⟨ts, rfl, rfl⟩ us
    exact ⟨ts ++ us.map Token.text, by simp [Pointer.append], by simp [Pointer.append]⟩
  path_unique := by
    rintro _ _ _ _ ⟨ts, rfl, rfl⟩ ⟨us, rfl, rfl⟩
    simp
  place_append := by
    rintro l _ rfl ts
    rfl
  place_refl _ := rfl
  place_uri := by
    rintro l _ rfl
    rfl

variable {p q : Pointer}

theorem Relocation.between_self : (between p q).path p q := ⟨[], by simp, by simp⟩

theorem Diagnostic.Moved.rebase {d d' : Diagnostic} (h : d.Moved (.between p q) d') :
    p.isParentOf d.path ∧ d' = d.rebase p q := by
  cases h with
  | mk hpath hplace =>
    obtain ⟨ts, rfl, rfl⟩ := hpath
    refine ⟨by simp [Pointer.isParentOf], ?_⟩
    cases hplace with
    | none => simp [Diagnostic.rebase, Pointer.rebase]
    | some h =>
      obtain rfl := h
      simp [Diagnostic.rebase, Pointer.rebase]

/-- Related findings are those of one side led over. -/
theorem Diagnostic.eq_map_rebase {ms ms' : List Diagnostic}
    (h : List.Forall₂ (Diagnostic.Moved (.between p q)) ms ms') :
    (∀ m ∈ ms, p.isParentOf m.path) ∧ ms' = ms.map (rebase p q) := by
  induction h with
  | nil => simp
  | cons hm _ ih =>
    obtain ⟨hbelow, rfl⟩ := hm.rebase
    obtain ⟨hall, rfl⟩ := ih
    exact ⟨List.forall_mem_cons.mpr ⟨hbelow, hall⟩, rfl⟩

/-- A step comes to a verdict and adds some findings, whatever was found before. -/
def Step.Yields (step : Step) (ms : List Diagnostic) (verdict : Except Fault Bool) : Prop :=
  ∀ j, (step j).1.report = j.report.logAll ms ∧ (step j).2 = verdict

theorem Step.Uniform.yields {step : Step} (h : step.Uniform) :
    step.Yields step.outcome.messages step.outcome.verdict := by
  intro j
  rw [h j]
  exact ⟨rfl, rfl⟩

/-- Judges that move judge a site and the same site elsewhere alike. -/
theorem Judge.Moves.yields {J : Judge} (hJ : J.Uniform) (hmoves : J.Moves (.between p q))
    {s t : Site} (hst : s.Moved (.between p q) t) : ∃ ms verdict,
      (∀ m ∈ ms, p.isParentOf m.path) ∧ (J s).Yields ms verdict ∧
      (J t).Yields (ms.map (Diagnostic.rebase p q)) verdict := by
  obtain ⟨hmessages, hverdict⟩ := hmoves s t hst
  obtain ⟨hbelow, hms⟩ := Diagnostic.eq_map_rebase hmessages
  refine ⟨(J s).outcome.messages, (J s).outcome.verdict, hbelow, (hJ s).yields, ?_⟩
  rw [← hms, hverdict]
  exact (hJ t).yields

/-- The validator of the node of a site. -/
def Site.alone (e : Setting) (s : Site) : Validator := ⟨s.schema, e, s.location⟩

namespace Setting

variable {e : Setting}

theorem uniform_judgeSite (e : Setting) : Judge.Uniform e.judgeSite :=
  fun s => e.uniform_judge (e.fuelFor s) s

/-- Two amounts of fuel of which neither runs out come to the same. -/
theorem judge_eq_of_returns {s : Site} {n m : Nat}
    (hn : (e.judge n s).outcome.verdict ≠ .error .outOfSteps)
    (hm : (e.judge m s).outcome.verdict ≠ .error .outOfSteps) : e.judge n s = e.judge m s := by
  by_cases h : n ≤ m
  · exact (e.judge_agrees h s hn).symm
  · exact e.judge_agrees (by omega) s hm

/-- The site of a node set against a value at a path, with no reference followed yet. -/
def start (schema value : Value) (path : Pointer) (location : Location) : Site :=
  ⟨schema, value, path, location, [], false⟩

/-- A node says the same of a value at every path, and of a child what it says of it alone. -/
theorem judging_ignores_position (e : Setting)
    (hv : ∀ entry ∈ e.vocabulary.entries, entry ∈ Vocabulary.known.entries ∨
      ∀ p q, entry.builder.Moves (.between p q)) :
    (∀ (schema x : Value) (l : Location) (p q : Pointer), ∃ ms verdict,
      (∀ m ∈ ms, p.isParentOf m.path) ∧
      (e.judgeSite (start schema x p l)).Yields ms verdict ∧
      (e.judgeSite (start schema x q l)).Yields (ms.map (Diagnostic.rebase p q)) verdict) ∧
    ∀ (s : Site) (job : Job) (fuel : Nat), e.options.isParallel = false →
      (e.judge fuel (job.site s)).outcome.verdict ≠ .error .outOfSteps →
      (((job.site s).alone e).findings job.value).2 ≠ .error .outOfSteps →
      (e.judge fuel (job.site s)).Yields
        ((((job.site s).alone e).findings job.value).1.report.messages.map
          (Diagnostic.rebase .root (job.site s).path))
        (((job.site s).alone e).findings job.value).2 := by
  have hmoves (p q : Pointer) : ∀ x ∈ e.vocabulary.entries, x.builder.Moves (.between p q) :=
    Vocabulary.moves_of_known fun x hx => (hv x hx).imp id fun h => h p q
  refine ⟨?_, ?_⟩
  · intro schema x l p q
    exact (moves_judgeSite (hmoves p q)).yields e.uniform_judgeSite
      (.mk Relocation.between_self rfl .nil)
  · intro s job fuel hserial hchild hown
    -- the child as it is on its own differs in its path only
    let own : Site := start job.schema.schema job.value .root (job.site s).location
    have hmoved : own.Moved (.between .root (job.site s).path) (job.site s) :=
      .mk Relocation.between_self rfl .nil
    have hfindings : ((job.site s).alone e).findings job.value =
        e.judgeSite own ⟨⟨.debug, []⟩, []⟩ := by
      simp only [Validator.findings, Validator.site, Site.alone, hserial]
      rfl
    obtain ⟨ms, verdict, _, hstart, hthere⟩ :=
      (moves_judge (hmoves _ _) fuel).yields (e.uniform_judge fuel) hmoved
    -- on its own the child has fuel of its own; neither amount runs out, so they come to the same
    have hsame : e.judge fuel own = e.judgeSite own := by
      apply judge_eq_of_returns
      · rw [Step.outcome, (hstart _).2, ← (hthere ⟨⟨.debug, []⟩, []⟩).2]
        exact hchild
      · rw [hfindings] at hown
        exact hown
    obtain ⟨hreport, hverdict⟩ := hstart ⟨⟨.debug, []⟩, []⟩
    rw [hsame, ← hfindings] at hreport hverdict
    rw [hreport, hverdict, Report.logAll_debug, List.nil_append]
    exact hthere

/-- Elements behind a reference, judged by a keyword of one's own and a known one. -/
theorem judging_ignores_position_elements :
    let denier : Builder := fun _ =>
      ([], .ok (.logic (.told fun t => ([t.diagnostic "odd" (some "odd") []], .ok (.bool false)))))
    let element : Value := .obj [("odd", .null), ("type", .str "string")]
    let schema : Value := .obj [("items", .obj [("$ref", .str "#/element")]), ("element", element)]
    let e : Setting :=
      { vocabulary := Vocabulary.known.insert "odd" [.integer] denier,
        documents := { entries := [("", schema)] } }
    let x : Value := .arr [.int 1, .str "a"]
    let s : Site := start schema x ⟨["a"]⟩ {}
    let job : Job := ⟨.index 0, .int 1, ⟨[.name "items"], .obj [("$ref", .str "#/element")]⟩⟩
    (∃ ms, ms.map (fun m => (m.path.tokens, m.keyword)) =
        [(["a", "0"], some "type"), (["a", "0"], some "odd")] ∧
      (e.judgeSite s).Yields ms (.ok false) ∧
      (e.judgeSite (start schema x ⟨["b", "c"]⟩ {})).Yields
        (ms.map (Diagnostic.rebase ⟨["a"]⟩ ⟨["b", "c"]⟩)) (.ok false)) ∧
    ∃ ms, ms.map (fun m => (m.path.tokens, m.keyword)) =
        [([], some "type"), ([], some "odd")] ∧
      (((job.site (s.follow schema {})).alone e).findings job.value).1.report.messages = ms ∧
      (job.site (s.follow schema {})).path.tokens = ["a", "0"] ∧
      (e.judge 2 (job.site (s.follow schema {}))).Yields
        (ms.map (Diagnostic.rebase .root (job.site (s.follow schema {})).path)) (.ok false) := by
  intro denier element schema e x s job
  have hv : ∀ entry ∈ e.vocabulary.entries, entry ∈ Vocabulary.known.entries ∨
      ∀ p q, entry.builder.Moves (.between p q) := by
    intro entry hentry
    refine (Vocabulary.mem_put hentry).imp id ?_
    intro h p q
    rw [h]
    exact Builder.moves_told fun s t hst => ⟨.cons (hst.diagnostic ..) .nil, rfl⟩
  have h := judging_ignores_position e hv
  refine ⟨?_, ?_⟩
  · obtain ⟨ms, verdict, _, hhere, hthere⟩ := h.1 schema x {} ⟨["a"]⟩ ⟨["b", "c"]⟩
    obtain ⟨hreport, hverdict⟩ := hhere ⟨⟨.debug, []⟩, []⟩
    rw [Report.logAll_debug, List.nil_append] at hreport
    have hno : (e.judgeSite s ⟨⟨.debug, []⟩, []⟩).2 = .ok false :=
      Answer.ok_of_toOption (by decide +kernel)
    obtain rfl : .ok false = verdict := hno.symm.trans hverdict
    have hms : (e.judgeSite s ⟨⟨.debug, []⟩, []⟩).1.report.messages = ms := by
      rw [hreport]
    refine ⟨ms, ?_, hhere, hthere⟩
    rw [← hms]
    decide +kernel
  · have hthere : (e.judge 2 (job.site (s.follow schema {}))).outcome.verdict = .ok false :=
      Answer.ok_of_toOption (by decide +kernel)
    have halone : (((job.site (s.follow schema {})).alone e).findings job.value).2 = .ok false :=
      Answer.ok_of_toOption (by decide +kernel)
    have hchild := h.2 (s.follow schema {}) job 2 rfl (by rw [hthere]; simp)
      (by rw [halone]; simp)
    rw [halone] at hchild
    exact ⟨_, by decide +kernel, rfl, by decide +kernel, hchild⟩

end Setting

end Conform
