import Conform.Proofs.Related
import Conform.Proofs.Relocation

/-!
Types and disallowed types. Both keywords are built to the same alternatives, names and schemas
with their positions, and try them in the same way: one says yes where the other one says no. A
trial leaves nothing behind unless the type as a whole fails; then everything follows that the
schemas found, one after the other.
-/
namespace Conform

/-- Places in one document, for values that stay where they are. -/
def Relocation.withinDocument : Relocation where
  path p q := p = q
  place l m := l.uri = m.uri
  path_append := by
    rintro p _ rfl ts
    rfl
  path_unique := by
    rintro _ _ _ _ rfl rfl
    rfl
  place_append h _ := h
  place_refl _ := rfl
  place_uri h := h

namespace Value

def schemaAt? : Value × Nat → Option (Nat × Value)
  | (.obj ms, i) => some (i, .obj ms)
  | _ => none

/-- The schemas among the alternatives of a type, with the positions that they are listed at. -/
def memberSchemas (w : Value) : List (Nat × Value) := w.listed.zipIdx.filterMap schemaAt?

end Value

def Part.ofMember (m : Nat × Value) : Part := ⟨some m.1, m.2⟩

/-- The site at which the schema at a position is tried. -/
def Site.trial (s : Site) (keyword : String) (m : Nat × Value) : Site :=
  s.scratch m.2 (s.location.append [.name keyword, .index m.1])

/-- Some alternative must hold, or, negated, none may. -/
def Logic.union (keyword : String) (negated : Bool) (w : Value) : Logic :=
  .types keyword w.names (w.memberSchemas.map .ofMember) negated

namespace Keyword

variable {keyword : String} {negated : Bool} {node : Members} {b : Built}

/-- The alternatives are read as they are listed. -/
theorem alternatives_eq {i : Nat} {xs : List Value} {names : List String} {parts : List Part}
    (h : alternatives keyword i xs = .ok (names, parts)) :
    parts = ((xs.zipIdx i).filterMap Value.schemaAt?).map .ofMember := by
  induction xs generalizing i names parts with
  | nil =>
    obtain ⟨_, rfl⟩ := Prod.mk.inj (Except.ok.inj h)
    rfl
  | cons x xs ih =>
    -- a name leaves no part, but it counts: the schema after it keeps its position
    cases x with
    | str s =>
      simp only [alternatives] at h
      split at h
      · obtain ⟨⟨ns, ps⟩, hrest, hp⟩ := Answer.map_ok.mp h
        obtain ⟨_, rfl⟩ := Prod.mk.inj hp
        exact ih hrest
      · cases h
    | obj ms =>
      simp only [alternatives] at h
      obtain ⟨⟨ns, ps⟩, hrest, hp⟩ := Answer.map_ok.mp h
      obtain ⟨_, rfl⟩ := Prod.mk.inj hp
      rw [ih hrest]
      rfl
    | _ => cases h

theorem union_of_typesBuilder (h : typesBuilder keyword negated node = .ok b) :
    ∃ w, node.get? keyword = some w ∧ b = .logic (.union keyword negated w) := by
  simp only [typesBuilder, Answer.do_ok, own_ok] at h
  obtain ⟨w, hw, h⟩ := h
  refine ⟨w, hw, ?_⟩
  cases w with
  | str s =>
    obtain ⟨⟨names, parts⟩, ha, h⟩ := Answer.do_ok.mp h
    obtain ⟨_, rfl, _⟩ := alternatives_ok ha
    rw [alternatives_eq ha] at h
    exact (Except.ok.inj h).symm
  | arr xs =>
    cases xs with
    | nil => cases h
    | cons x xs =>
      obtain ⟨⟨names, parts⟩, ha, h⟩ := Answer.do_ok.mp h
      obtain ⟨_, rfl, _⟩ := alternatives_ok ha
      rw [alternatives_eq ha] at h
      exact (Except.ok.inj h).symm
  | _ => cases h

theorem typesBuilder_iff : typesBuilder keyword negated node = .ok b ↔
    ∃ w, node.get? keyword = some w ∧ w.IsTypes ∧ b = .logic (.union keyword negated w) := by
  constructor
  · intro h
    obtain ⟨w, hw, hb⟩ := union_of_typesBuilder h
    obtain ⟨w', _, hw', htypes, _⟩ := typesBuilder_ok h
    obtain rfl := Option.some.inj (hw.symm.trans hw')
    exact ⟨w, hw, htypes, hb⟩
  · intro h
    obtain ⟨w, hw, htypes, rfl⟩ := h
    obtain ⟨b, hb⟩ : ∃ b, typesBuilder keyword negated node = .ok b := typesBuilder_isOk hw htypes
    obtain ⟨w', hw', rfl⟩ := union_of_typesBuilder hb
    obtain rfl := Option.some.inj (hw.symm.trans hw')
    exact hb

end Keyword

namespace Logic

variable {e : Setting} {J : Judge} {s : Site} {w : Value} {b : Bool} {keyword : String}

/-- Whether some alternative holds. -/
def someHolds (J : Judge) (keyword : String) (w : Value) (s : Site) : Except Fault Bool :=
  (isOfType s.value w.names).bind fun b => if b then .ok true
    else found J (w.memberSchemas.map (s.trial keyword))

theorem matching_union (J : Judge) (keyword : String) (w : Value) (s : Site) :
    (matching J keyword w.names (w.memberSchemas.map .ofMember) s []).2.map Prod.fst =
      someHolds J keyword w s := by
  rw [matching_found, List.map_map]
  rfl

/-- A union says yes if some alternative holds, and negated if none does. -/
theorem verdict_union (hJ : J.Uniform) (keyword : String) (negated : Bool) (w : Value) (s : Site) :
    ((union keyword negated w).run e J keyword s).outcome.verdict =
      (someHolds J keyword w s).bind fun b => s.kind.map fun _ => b != negated := by
  rw [← matching_union, union, run, Step.outcome_eq (judgeTypes_onto hJ keyword _ _ negated s)]
  unfold typesOutcome
  rcases matching J keyword w.names (w.memberSchemas.map .ofMember) s [] with
    ⟨notes, f | ⟨matched, trials⟩⟩
  · rfl
  · cases s.kind with
    | error f => rfl
    | ok kind => cases negated <;> cases matched <;> rfl

theorem found_congr (hJ : J.Uniform) {ss ts : List Site}
    (h : List.Forall₂ (fun a b => (J a).outcome.verdict = (J b).outcome.verdict) ss ts) :
    found J ss = found J ts := by
  induction h with
  | nil => rfl
  | cons hab _ ih => rw [found_cons hJ, found_cons hJ, hab, ih]

theorem verdict_trial (hmoves : J.Moves .withinDocument) (s : Site) (keyword keyword' : String)
    (i j : Nat) (schema : Value) :
    (J (s.trial keyword (i, schema))).outcome.verdict =
      (J (s.trial keyword' (j, schema))).outcome.verdict := by
  have hmoved : (s.trial keyword (i, schema)).Moved .withinDocument
      (s.trial keyword' (j, schema)) :=
    .mk rfl rfl (List.forall₂_same.mpr fun _ _ => ⟨rfl, rfl⟩)
  exact (hmoves _ _ hmoved).verdict

/-- Trials of a schema come to one verdict under either keyword, so the unions do. -/
theorem someHolds_eq (hJ : J.Uniform) (hmoves : J.Moves .withinDocument)
    (keyword keyword' : String) (w : Value) (s : Site) :
    someHolds J keyword w s = someHolds J keyword' w s := by
  unfold someHolds
  rw [found_congr hJ (forall₂_map fun m _ => verdict_trial hmoves s keyword keyword' m.1 m.1 m.2)]

/-- One keyword says yes where the other one says no. -/
theorem verdict_union_negated (hJ : J.Uniform) (hmoves : J.Moves .withinDocument)
    (keyword keyword' : String) (w : Value) (s : Site) :
    ((union keyword true w).run e J keyword s).outcome.verdict =
      ((union keyword' false w).run e J keyword' s).outcome.verdict.map not := by
  rw [verdict_union hJ, verdict_union hJ, someHolds_eq hJ hmoves keyword keyword']
  cases someHolds J keyword' w s with
  | error f => rfl
  | ok b => cases s.kind with
    | error f => rfl
    | ok kind => cases b <;> rfl

/-- Some alternative holds: by its name, or as a trial says. -/
theorem someHolds_ok (hJ : J.Uniform) (h : someHolds J keyword w s = .ok b) :
    (b = true ↔ (∃ name ∈ w.names, Kind.holds (.str name) s.value = .ok true) ∨
      ∃ m ∈ w.memberSchemas, (J (s.trial keyword m)).outcome.verdict = .ok true) := by
  obtain ⟨named, hnamed, h⟩ := Answer.bind_ok.mp h
  have hname := isOfType_ok hnamed
  cases named with
  | true =>
    -- no schema is tried once a name holds
    obtain rfl : true = b := Except.ok.inj h
    simp [hname.mp rfl]
  | false =>
    have hno : ¬ ∃ name ∈ w.names, Kind.holds (.str name) s.value = .ok true := by
      rw [← hname]
      simp
    obtain ⟨⟨matched, reports⟩, htries, rfl⟩ := Answer.map_ok.mp h
    rw [(tries_ok hJ htries).1]
    simp [hno]

/-- Trials of which none holds have all been made, and all that they found is kept. -/
theorem messages_of_tries (hJ : J.Uniform) {ss : List Site} {reports : List Report}
    (h : (tries J ss []).2 = .ok (false, reports)) :
    reports.flatMap (·.messages) = ss.flatMap fun s => (J s).outcome.messages := by
  induction ss generalizing reports with
  | nil =>
    obtain ⟨_, rfl⟩ := Prod.mk.inj (Except.ok.inj h)
    rfl
  | cons s ss ih =>
    rw [tries_cons hJ] at h
    obtain ⟨b, _, h⟩ := Answer.bind_ok.mp h
    cases b with
    | true => cases h
    | false =>
      -- this trial did not hold, and neither did the later ones
      obtain ⟨⟨matched, later⟩, hrest, hp⟩ := Answer.map_ok.mp h
      obtain ⟨rfl, rfl⟩ := Prod.mk.inj hp
      rw [List.flatMap_cons, List.flatMap_cons, ih hrest]

theorem messages_of_matching (hJ : J.Uniform) {reports : List Report}
    (h : (matching J keyword w.names (w.memberSchemas.map .ofMember) s []).2 =
      .ok (false, reports)) :
    reports.flatMap (·.messages) =
      w.memberSchemas.flatMap fun m => (J (s.trial keyword m)).outcome.messages := by
  unfold matching at h
  split at h
  · cases h
  · cases h
  · rw [messages_of_tries hJ h, List.map_map, List.flatMap_map]
    rfl

/-- What a union finds: nothing if it says yes, and else one error, before what the trials found
unless it is negated. -/
structure Finds (o : Outcome) (keyword : String) (negated : Bool) (s : Site)
    (trials : List Diagnostic) : Prop where
  holds : o.verdict = .ok true → o.messages = []
  fails : o.verdict = .ok false → ∃ message details, o.messages =
    s.diagnostic message (some keyword) details :: if negated then [] else trials

theorem Finds.of_quiet {notes : List Note} {verdict : Except Fault Bool} {negated : Bool}
    {trials : List Diagnostic} (h : verdict ≠ .ok false) :
    Finds ⟨notes, [], verdict⟩ keyword negated s trials :=
  ⟨fun _ => rfl, fun hno => absurd hno h⟩

theorem finds_union (hJ : J.Uniform) (keyword : String) (negated : Bool) (w : Value) (s : Site) :
    Finds ((union keyword negated w).run e J keyword s).outcome keyword negated s
      (w.memberSchemas.flatMap fun m => (J (s.trial keyword m)).outcome.messages) := by
  rw [union, run, Step.outcome_eq (judgeTypes_onto hJ keyword _ _ negated s)]
  unfold typesOutcome
  rcases hmatching : matching J keyword w.names (w.memberSchemas.map .ofMember) s [] with
    ⟨notes, f | ⟨matched, reports⟩⟩
  · exact .of_quiet (by simp)
  · cases s.kind with
    | error f => exact .of_quiet (by simp)
    | ok kind =>
      -- a union that says no is a type of which nothing matched, or a negated one that matched
      cases negated <;> cases matched
      · rw [← messages_of_matching hJ (congrArg Prod.snd hmatching)]
        exact ⟨by simp, fun _ => ⟨_, _, rfl⟩⟩
      · exact .of_quiet (by simp)
      · exact .of_quiet (by simp)
      · exact ⟨by simp, fun _ => ⟨_, _, rfl⟩⟩

theorem run_union (hJ : J.Uniform) (keyword : String) (negated : Bool) (w : Value) (s : Site)
    (j : Journal) : (union keyword negated w).run e J keyword s j =
      ((union keyword negated w).run e J keyword s).outcome.onto j :=
  uniform_run e hJ keyword _ s j

theorem report_of_holds {negated : Bool} {j : Journal} (hJ : J.Uniform)
    (h : ((union keyword negated w).run e J keyword s j).2 = .ok true) :
    ((union keyword negated w).run e J keyword s j).1.report = j.report := by
  rw [run_union hJ] at h ⊢
  rw [Outcome.onto, (finds_union hJ keyword negated w s).holds h, Report.logAll_nil]

theorem report_of_fails {negated : Bool} {j : Journal} (hJ : J.Uniform)
    (h : ((union keyword negated w).run e J keyword s j).2 = .ok false) : ∃ message details,
    ((union keyword negated w).run e J keyword s j).1.report =
      (j.report.log (s.diagnostic message (some keyword) details)).logAll
        (if negated then [] else
          w.memberSchemas.flatMap fun m => (J (s.trial keyword m)).outcome.messages) := by
  rw [run_union hJ] at h ⊢
  obtain ⟨message, details, hmessages⟩ := (finds_union hJ keyword negated w s).fails h
  rw [Outcome.onto, hmessages]
  exact ⟨message, details, rfl⟩

theorem names_perm {w w' : Value} (h : w.listed.Perm w'.listed) : w.names.Perm w'.names :=
  h.filterMap _

/-- A reordered list has the same schemas, at other positions. -/
theorem exists_memberSchema {w w' : Value} (h : w.listed.Perm w'.listed) {m : Nat × Value}
    (hm : m ∈ w.memberSchemas) : ∃ i, (i, m.2) ∈ w'.memberSchemas := by
  -- the position it has in the other list does not matter, only that it stands there
  obtain ⟨⟨x, i⟩, hx, hmx⟩ := List.mem_filterMap.mp hm
  cases x with
  | obj ms =>
    obtain rfl : (i, Value.obj ms) = m := Option.some.inj hmx
    have hmem : Value.obj ms ∈ w'.listed := h.mem_iff.mp (List.fst_mem_of_mem_zipIdx hx)
    obtain ⟨k, hk, hget⟩ := List.mem_iff_getElem.mp hmem
    refine ⟨k, List.mem_filterMap.mpr ⟨(.obj ms, k), ?_, rfl⟩⟩
    rw [List.mk_mem_zipIdx_iff_getElem?, List.getElem?_eq_getElem hk, hget]
  | _ => cases hmx

/-- Unions of the same alternatives in another order agree whenever both come to something. -/
theorem someHolds_perm (hJ : J.Uniform) (hmoves : J.Moves .withinDocument) {w' : Value} {b' : Bool}
    (h : w.listed.Perm w'.listed) (hb : someHolds J keyword w s = .ok b)
    (hb' : someHolds J keyword w' s = .ok b') : b = b' := by
  have hschemas {w w' : Value} (h : w.listed.Perm w'.listed)
      (hm : ∃ m ∈ w.memberSchemas, (J (s.trial keyword m)).outcome.verdict = .ok true) :
      ∃ m ∈ w'.memberSchemas, (J (s.trial keyword m)).outcome.verdict = .ok true := by
    obtain ⟨m, hm, hyes⟩ := hm
    obtain ⟨i, hi⟩ := exists_memberSchema h hm
    exact ⟨(i, m.2), hi, (verdict_trial hmoves s keyword keyword i m.1 m.2).trans hyes⟩
  rw [Bool.eq_iff_iff, someHolds_ok hJ hb, someHolds_ok hJ hb']
  refine or_congr ?_ ⟨hschemas h, hschemas h.symm⟩
  exact exists_congr fun name => and_congr_left fun _ => (names_perm h).mem_iff

theorem someHolds_of_run {j : Journal} (hJ : J.Uniform)
    (h : ((union keyword false w).run e J keyword s j).2 = .ok b) :
    someHolds J keyword w s = .ok b := by
  rw [run_union hJ, Outcome.onto, verdict_union hJ] at h
  obtain ⟨c, hc, h⟩ := Answer.bind_ok.mp h
  obtain ⟨_, _, rfl⟩ := Answer.map_ok.mp h
  simpa using hc

end Logic

open Logic in
/-- Type and disallowed type are built to the same alternatives and come to opposite verdicts. The
type holds if some alternative does, in whatever order they stand. Nothing is found if it holds; a
disallowed one is one error; a type that fails is one error and then all that the schemas found. -/
theorem Setting.type_complements_disallow (e : Setting)
    (hv : ∀ entry ∈ e.vocabulary.entries,
      entry ∈ Vocabulary.known.entries ∨ entry.builder.Moves .withinDocument) :
    (∀ node b, Keyword.build .type node = .ok b ↔
      ∃ w, node.get? "type" = some w ∧ w.IsTypes ∧ b = .logic (union "type" false w)) ∧
    (∀ node b, Keyword.build .disallow node = .ok b ↔
      ∃ w, node.get? "disallow" = some w ∧ w.IsTypes ∧ b = .logic (union "disallow" true w)) ∧
    ∀ (fuel : Nat) (s : Site) (j : Journal) (w : Value),
      let type (w : Value) := (union "type" false w).run e (e.judge fuel) "type" s j
      let disallow := (union "disallow" true w).run e (e.judge fuel) "disallow" s j
      let trial (m : Nat × Value) := e.judge fuel (s.trial "type" m) ⟨⟨.debug, []⟩, []⟩
      disallow.2 = (type w).2.map not ∧
      (∀ b, (type w).2 = .ok b → (b = true ↔
        (∃ name ∈ w.names, Kind.holds (.str name) s.value = .ok true) ∨
          ∃ m ∈ w.memberSchemas, (trial m).2 = .ok true)) ∧
      (∀ w' b b', w.listed.Perm w'.listed → (type w).2 = .ok b → (type w').2 = .ok b' → b = b') ∧
      ((type w).2 = .ok true → (type w).1.report = j.report) ∧
      (disallow.2 = .ok true → disallow.1.report = j.report) ∧
      (disallow.2 = .ok false → ∃ message details, disallow.1.report =
        j.report.log (s.diagnostic message (some "disallow") details)) ∧
      ((type w).2 = .ok false → ∃ message details, (type w).1.report =
        (j.report.log (s.diagnostic message (some "type") details)).logAll
          (w.memberSchemas.flatMap fun m => (trial m).1.report.messages)) := by
  refine ⟨fun _ _ => Keyword.typesBuilder_iff, fun _ _ => Keyword.typesBuilder_iff, ?_⟩
  intro fuel s j w type disallow trial
  have hJ := e.uniform_judge fuel
  have hmoves := moves_judge (Vocabulary.moves_of_known hv) fuel
  refine ⟨?_, ?_, ?_, report_of_holds hJ, report_of_holds hJ, report_of_fails hJ,
    report_of_fails hJ⟩
  · simp only [disallow, type, run_union hJ]
    exact verdict_union_negated hJ hmoves ..
  · intro b h
    exact someHolds_ok hJ (someHolds_of_run hJ h)
  · intro w' b b' hperm h h'
    exact someHolds_perm hJ hmoves hperm (someHolds_of_run hJ h) (someHolds_of_run hJ h')

open Logic in
/-- A name and two schemas of which none holds, one of them by a keyword of one's own. -/
theorem Setting.type_complements_disallow_integer :
    let denier : Builder := fun _ =>
      ([], .ok (.logic (.told fun t => ([t.diagnostic "odd" (some "odd") []], .ok (.bool false)))))
    let e : Setting :=
      { vocabulary := Vocabulary.known.insert "odd" [.integer] denier, documents := {} }
    let w : Value := .arr [.str "string", .obj [("odd", .null)], .obj [("minimum", .int 5)]]
    let s : Site := { schema := .obj [("type", w)], value := .int 1 }
    let j : Journal := ⟨⟨.info, []⟩, []⟩
    let found := w.memberSchemas.flatMap fun m =>
      (e.judge 1 (s.trial "type" m) ⟨⟨.debug, []⟩, []⟩).1.report.messages
    ((union "disallow" true w).run e (e.judge 1) "disallow" s j).2 = .ok true ∧
    ((union "disallow" true w).run e (e.judge 1) "disallow" s j).1.report = j.report ∧
    found.map (fun m => (m.schema.map (·.pointer.tokens), m.keyword)) =
      [(some ["type", "1"], some "odd"), (some ["type", "2"], some "minimum")] ∧
    ∃ message details, ((union "type" false w).run e (e.judge 1) "type" s j).1.report =
      (j.report.log (s.diagnostic message (some "type") details)).logAll found := by
  intro denier e w s j found
  have hv : ∀ entry ∈ e.vocabulary.entries,
      entry ∈ Vocabulary.known.entries ∨ entry.builder.Moves .withinDocument := by
    intro entry hentry
    refine (Vocabulary.mem_put hentry).imp id ?_
    intro h
    rw [h]
    exact Builder.moves_told fun s t hst => ⟨.cons (hst.diagnostic ..) .nil, rfl⟩
  obtain ⟨hcomplement, _, _, _, hquiet, _, hfails⟩ :=
    (e.type_complements_disallow hv).2.2 1 s j w
  have hno : ((union "type" false w).run e (e.judge 1) "type" s j).2 = .ok false :=
    Answer.ok_of_toOption (by decide +kernel)
  have hyes := hcomplement
  rw [hno] at hyes
  exact ⟨hyes, hquiet hyes, by decide +kernel, hfails hno⟩

end Conform
