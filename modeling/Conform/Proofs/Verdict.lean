import Conform.Proofs.Keywords
import Conform.Proofs.Trail
import Conform.Validator

/-!
The verdict is the meaning of the schema. If the judge of the sites below says of each whether it
is satisfied, so does a round of judging; hence judging does, however many rounds it is given and
whenever it comes to a verdict at all. The reports, the order of the keywords and of the children,
the trials of a type and the sharing of the work leave no trace in it.
-/
namespace Conform

namespace Site

/-- The value of a site satisfies its node, after the references followed to get there. -/
def Satisfied (d : Documents) (s : Site) : Prop :=
  Satisfies d s.location.uri s.visited s.schema s.value

end Site

/-- A judge whose verdicts say whether a site is satisfied. -/
def Judge.Means (d : Documents) (J : Judge) : Prop :=
  ∀ s b, s.AtPath → (J s).outcome.verdict = .ok b → (b = true ↔ s.Satisfied d)

namespace Outcome

/-- Steps in turn say whether what each of them says of itself holds of all. -/
theorem verdict_all_map {α : Type} {xs : List α} {f : α → Outcome} {P : α → Prop} {y : Bool}
    (h : (all (xs.map f)).verdict = .ok y)
    (hP : ∀ x ∈ xs, ∀ b, (f x).verdict = .ok b → (b = true ↔ P x)) :
    y = true ↔ ∀ x ∈ xs, P x := by
  obtain ⟨hok, hiff⟩ := verdict_all_ok h
  rw [hiff, List.forall_mem_map]
  refine forall₂_congr fun x hx => ?_
  obtain ⟨b, hb⟩ := hok _ (List.mem_map.mpr ⟨x, hx, rfl⟩)
  rw [hb, Except.ok.injEq]
  exact hP x hx b hb

end Outcome

section
variable {d : Documents} {uri : String} {seen : List Location} {v : Value}

theorem not_satisfies {t : Value} (h : ¬ t.IsSchema) : ¬ Satisfies d uri seen t v := by
  cases t with
  | obj ms => exact absurd ⟨ms, rfl⟩ h
  | _ => simp [Satisfies]

theorem exists_listed_iff {w : Value} :
    (∃ t ∈ w.listed, Satisfies d uri seen t v) ↔ ∃ t ∈ w.schemas, Satisfies d uri seen t v := by
  constructor
  · intro h
    obtain ⟨t, ht, hsat⟩ := h
    refine ⟨t, ?_, hsat⟩
    -- nothing but a schema is satisfied
    cases t with
    | obj ms => exact List.mem_filter.mpr ⟨ht, rfl⟩
    | _ => simp [Satisfies] at hsat
  · intro h
    obtain ⟨t, ht, hsat⟩ := h
    exact ⟨t, (List.mem_filter.mp ht).1, hsat⟩

/-- Some type name or some schema that a type lists holds of the value. -/
def IsOfTypes (d : Documents) (uri : String) (seen : List Location) (w v : Value) : Prop :=
  (∃ n ∈ w.names, Kind.holds (.str n) v = .ok true) ∨
    ∃ t ∈ w.listed, Satisfies d uri seen t v

/-- What a keyword asks of a value by way of other nodes. -/
def Keyword.Nested (d : Documents) (uri : String) (seen : List Location) :
    Keyword → Value → Value → Prop
  | .extending, w, v => ∀ t ∈ w.listed, Satisfies d uri seen t v
  | .type, w, v => IsOfTypes d uri seen w v
  | .disallow, w, v => ¬ IsOfTypes d uri seen w v
  | .dependencies, w, v =>
    ∀ deps members, w = .obj deps → v = .obj members → ∀ m ∈ deps, Members.has members m.1 →
      (∀ n ∈ m.2.names, Members.has members n) ∧ (m.2.IsSchema → Satisfies d uri seen m.2 v)
  | .reference, w, v =>
    ∀ ref, w = .str ref → ∃ l t, d.resolve (.str ref) { uri } = .ok (l, t) ∧ l ∉ seen ∧
      Satisfies d l.uri (seen ++ [l]) t v
  | _, _, _ => True

theorem Names.ne_nil {node : Members} {keyword name : String} {t : Value}
    (h : Names node keyword name t) : node ≠ [] := by
  obtain ⟨ms, hms, _⟩ := h
  intro hnil
  subst hnil
  cases hms

theorem Governs.ne_nil {node : Members} {token : Token} {t : Value} (h : Governs node token t) :
    node ≠ [] := by
  intro hnil
  subst hnil
  cases h with
  | everyItem h => cases h
  | item h => cases h
  | furtherItem h => cases h
  | property h => cases h
  | matched h => exact h.ne_nil rfl
  | further _ hf => cases hf

/-- A node is satisfied as its keywords and the nodes for the children have it. -/
theorem satisfies_obj {node : Members} : Satisfies d uri seen (.obj node) v ↔
    (∀ (k : Keyword) w, node.get? k.name = some w → k.Applies v →
      k.Accepts node w ∧ k.Holds node w v) ∧
    (∀ (k : Keyword) w, node.get? k.name = some w → k.Nested d uri seen w v) ∧
    ∀ c ∈ v.children, ∀ t, Governs node c.1 t → Satisfies d uri [] t c.2 := by
  rw [Satisfies]
  simp only [exists_prop]
  constructor
  · intro h
    obtain ⟨hown, hext, htype, hdis, hdep, href, hchild⟩ := h
    refine ⟨hown, ?_, hchild⟩
    intro k w hw
    cases k with
    | extending => exact hext w hw
    | type => exact htype w hw
    | disallow => exact hdis w hw
    | dependencies =>
      intro deps members h hv
      obtain rfl := h
      exact hdep deps members hw hv
    | reference =>
      intro ref h
      obtain rfl := h
      exact href ref hw
    | _ => trivial
  · intro h
    obtain ⟨hown, hnested, hchild⟩ := h
    refine ⟨hown, hnested .extending, hnested .type, hnested .disallow, ?_, ?_, hchild⟩
    · intro deps members hw hv
      exact hnested .dependencies _ hw deps members rfl hv
    · intro ref hw
      exact hnested .reference _ hw ref rfl

theorem satisfies_nil : Satisfies d uri seen (.obj []) v := by
  refine satisfies_obj.mpr ⟨?_, ?_, ?_⟩
  · intro k w hw
    cases hw
  · intro k w hw
    cases hw
  · intro c _ t hg
    exact absurd rfl hg.ne_nil

end

namespace Logic

variable {e : Setting} {J : Judge} {s : Site} {y : Bool}

theorem isOfType_ok {v : Value} {names : List String} {b : Bool}
    (h : isOfType v names = .ok b) :
    b = true ↔ ∃ n ∈ names, Kind.holds (.str n) v = .ok true := by
  induction names with
  | nil =>
    obtain rfl : false = b := Except.ok.inj h
    simp
  | cons name names ih =>
    simp only [isOfType, Answer.do_ok] at h
    obtain ⟨holds, hh, h⟩ := h
    cases holds with
    | true =>
      obtain rfl : true = b := Except.ok.inj h
      simp [hh]
    | false =>
      simp only [Bool.false_eq_true, ↓reduceIte] at h
      simp [hh, ih h]

/-- Names are looked at first, then schemas are tried; something matches if any of them does. -/
theorem matching_ok (hJ : J.Uniform) (hmeans : J.Means e.documents) (hpath : s.AtPath)
    {keyword : String} {names : List String} {parts : List Part} {matched : Bool}
    {reports : List Report} (h : (matching J keyword names parts s []).2 = .ok (matched, reports)) :
    matched = true ↔ (∃ n ∈ names, Kind.holds (.str n) s.value = .ok true) ∨
      ∃ t ∈ parts.map (·.schema), Satisfies e.documents s.location.uri s.visited t s.value := by
  unfold matching at h
  split at h
  · cases h
  · rename_i hnames
    obtain ⟨rfl, _⟩ := Prod.mk.inj (Except.ok.inj h)
    have hmem := (isOfType_ok hnames).mp rfl
    simp [hmem]
  · rename_i hnames
    have hno : ¬ ∃ n ∈ names, Kind.holds (.str n) s.value = .ok true := by
      rw [← isOfType_ok hnames]
      simp
    obtain ⟨hiff, hfalse⟩ := tries_ok hJ h
    -- every part is tried at a site of the same value and trail
    have hpart (p : Part) (b : Bool) (hb : (J (s.scratch p.schema
        (partLocation s keyword p))).outcome.verdict = .ok b) : b = true ↔
        Satisfies e.documents s.location.uri s.visited p.schema s.value :=
      hmeans (s.scratch p.schema (partLocation s keyword p)) b hpath hb
    simp only [hno, false_or, List.mem_map, exists_exists_and_eq_and]
    constructor
    · intro hm
      obtain ⟨t, ht, hv⟩ := hiff.mp hm
      obtain ⟨p, hp, rfl⟩ := List.mem_map.mp ht
      exact ⟨p, hp, (hpart p true hv).mp rfl⟩
    · intro h
      obtain ⟨p, hp, hsat⟩ := h
      by_contra hm
      have hv := hfalse (by simpa using hm) _ (List.mem_map.mpr ⟨p, hp, rfl⟩)
      have hyes := (hpart p false hv).mpr hsat
      cases hyes

theorem verdict_types (hJ : J.Uniform) (hmeans : J.Means e.documents) (hpath : s.AtPath)
    {keyword : String} {w : Value} {parts : List Part} {negated : Bool}
    (hparts : parts.map (·.schema) = w.schemas)
    (h : (judgeTypes J keyword w.names parts negated s).outcome.verdict = .ok y) :
    y = true ↔ (negated = true ↔ ¬ IsOfTypes e.documents s.location.uri s.visited w s.value) := by
  rw [Step.outcome_eq (judgeTypes_onto hJ keyword w.names parts negated s)] at h
  unfold typesOutcome at h
  rcases hm : matching J keyword w.names parts s [] with ⟨notes, f | ⟨matched, reports⟩⟩
  · rw [hm] at h
    cases h
  · have hiff : matched = true ↔
        IsOfTypes e.documents s.location.uri s.visited w s.value := by
      unfold IsOfTypes
      rw [exists_listed_iff, ← hparts]
      exact matching_ok hJ hmeans hpath (congrArg Prod.snd hm)
    rw [hm] at h
    rw [← hiff]
    cases hk : s.kind with
    | error f =>
      simp only [hk] at h
      cases h
    | ok found =>
      simp only [hk] at h
      -- what is matched is all that the verdict depends on
      cases negated <;> cases matched <;>
        · simp only [Bool.false_eq_true, ↓reduceIte, Except.ok.injEq] at h
          simp [← h]

theorem verdict_parts (hJ : J.Uniform) (hmeans : J.Means e.documents) (hpath : s.AtPath)
    {w : Value} {parts : List Part} (hparts : parts.map (·.schema) = w.listed)
    (h : (judgeParts J "extends" parts s).outcome.verdict = .ok y) :
    y = true ↔
      ∀ t ∈ w.listed, Satisfies e.documents s.location.uri s.visited t s.value := by
  unfold judgeParts at h
  rw [Step.outcome_all (hJ.map parts _), List.map_map] at h
  rw [← hparts, List.forall_mem_map]
  apply Outcome.verdict_all_map h
  intro p _ b hb
  exact hmeans (s.under p.schema (partLocation s "extends" p)) b hpath hb

theorem verdict_required {members : Members} {r : String × List String} {b : Bool}
    (h : (judgeRequired s members r).outcome.verdict = .ok b) :
    b = true ↔ (Members.has members r.1 → ∀ n ∈ r.2, Members.has members n) := by
  unfold judgeRequired at h
  split at h
  · rename_i hhas
    have hempty : (missing members r.2).isEmpty ↔ ∀ n ∈ r.2, Members.has members n := by
      rw [List.isEmpty_iff, missing, List.filter_eq_nil_iff]
      simp
    rw [← hempty]
    dsimp only at h
    split at h
    · rename_i hmissing
      obtain rfl : true = b := by simpa using h
      simp [hmissing]
    · rename_i hmissing
      obtain rfl : false = b := by simpa using h
      simpa [hhas] using hmissing
  · rename_i hhas
    obtain rfl : true = b := by simpa using h
    simp [hhas]

theorem verdict_dependent (hmeans : J.Means e.documents) (hpath : s.AtPath) {members : Members}
    {m : String × Value} {b : Bool}
    (h : (judgeDependent J s members m).outcome.verdict = .ok b) :
    b = true ↔ (Members.has members m.1 →
      Satisfies e.documents s.location.uri s.visited m.2 s.value) := by
  unfold judgeDependent at h
  split at h
  · rename_i hhas
    have hiff : b = true ↔ Satisfies e.documents s.location.uri s.visited m.2 s.value :=
      hmeans (s.under m.2 (s.location.append [.name "dependencies", .name m.1])) b hpath h
    simpa [hhas] using hiff
  · rename_i hhas
    obtain rfl : true = b := by simpa using h
    simp [hhas]

/-- Dependencies hold if the names that some ask for are there, and the schemas satisfied. -/
theorem nested_dependencies_iff {d : Documents} {uri : String} {seen : List Location}
    {ms members : Members} {required : List (String × List String)} {schemas : Members}
    (h : Keyword.Divided ms required schemas) :
    Keyword.Nested d uri seen .dependencies (.obj ms) (.obj members) ↔
      (∀ r ∈ required, Members.has members r.1 → ∀ n ∈ r.2, Members.has members n) ∧
        ∀ m ∈ schemas, Members.has members m.1 → Satisfies d uri seen m.2 (.obj members) := by
  simp only [Keyword.Nested, Value.obj.injEq]
  constructor
  · intro hall
    refine ⟨?_, ?_⟩
    · intro r hr hhas n hn
      obtain ⟨x, hx, _, hnames⟩ := (h.required r).mp hr
      rw [hnames] at hn
      exact (hall ms members rfl rfl (r.1, x) hx hhas).1 n hn
    · intro m hm hhas
      obtain ⟨hm, hschema⟩ := (h.schemas m).mp hm
      exact (hall ms members rfl rfl m hm hhas).2 hschema
  · intro hall deps ns hdeps hns m hm hhas
    subst hdeps hns
    obtain ⟨hrequired, hschemas⟩ := hall
    refine ⟨?_, ?_⟩
    · -- a schema asks for no names
      by_cases hschema : m.2.IsSchema
      · obtain ⟨ps, hps⟩ := hschema
        simp [hps, Value.names, Value.listed]
      · exact hrequired (m.1, m.2.names) ((h.required _).mpr ⟨m.2, hm, hschema, rfl⟩) hhas
    · intro hschema
      exact hschemas m ((h.schemas m).mpr ⟨hm, hschema⟩) hhas

theorem verdict_dependencies (hJ : J.Uniform) (hmeans : J.Means e.documents) (hpath : s.AtPath)
    {ms : Members} {required : List (String × List String)} {schemas : Members}
    (hd : Keyword.dependencyList ms = .ok (required, schemas))
    (h : (judgeDependencies J required schemas s).outcome.verdict = .ok y) :
    y = true ↔ Keyword.Nested e.documents s.location.uri s.visited .dependencies (.obj ms)
      s.value := by
  unfold judgeDependencies at h
  split at h
  · rename_i members hv
    rw [Step.outcome_all (uniform_dependencySteps hJ required schemas s members),
      List.map_append, List.map_map, List.map_map] at h
    obtain ⟨hok, hiff⟩ := Outcome.verdict_all_ok h
    -- names and schemas are judged by steps of two sorts
    have hleft : (∀ r ∈ required, (judgeRequired s members r).outcome.verdict = .ok true) ↔
        ∀ r ∈ required, Members.has members r.1 → ∀ n ∈ r.2, Members.has members n := by
      refine forall₂_congr fun r hr => ?_
      obtain ⟨b, hb⟩ := hok _ (List.mem_append_left _ (List.mem_map.mpr ⟨r, hr, rfl⟩))
      rw [show (judgeRequired s members r).outcome.verdict = .ok b from hb, Except.ok.injEq,
        verdict_required hb]
    have hright : (∀ m ∈ schemas, (judgeDependent J s members m).outcome.verdict = .ok true) ↔
        ∀ m ∈ schemas, Members.has members m.1 →
          Satisfies e.documents s.location.uri s.visited m.2 s.value := by
      refine forall₂_congr fun m hm => ?_
      obtain ⟨b, hb⟩ := hok _ (List.mem_append_right _ (List.mem_map.mpr ⟨m, hm, rfl⟩))
      rw [show (judgeDependent J s members m).outcome.verdict = .ok b from hb, Except.ok.injEq,
        verdict_dependent hmeans hpath hb]
    rw [hv] at hright
    rw [hiff, List.forall_mem_append, List.forall_mem_map, List.forall_mem_map, hv,
      nested_dependencies_iff (Keyword.dependencyList_ok hd)]
    exact and_congr hleft hright
  · rename_i hno
    obtain rfl : true = y := by simpa using h
    simp only [Keyword.Nested, true_iff]
    intro deps members _ hv
    exact absurd hv (hno members)

theorem resolve_uri (d : Documents) (ref : String) (l : Location) :
    d.resolve (.str ref) l = d.resolve (.str ref) { uri := l.uri } := rfl

/-- A reference holds if it leads to a new node that is satisfied. -/
theorem verdict_reference (hmeans : J.Means e.documents) (hloops : e.loops ≠ .follow)
    (hpath : s.AtPath) {ref : String}
    (h : (judgeReference e J ref s).outcome.verdict = .ok y) :
    y = true ↔ Keyword.Nested e.documents s.location.uri s.visited .reference (.str ref)
      s.value := by
  simp only [Keyword.Nested, Value.str.injEq, forall_eq', ← resolve_uri e.documents ref s.location]
  unfold judgeReference at h
  split at h
  · rename_i f hr
    split at h
    · obtain rfl : false = y := by simpa using h
      simp [hr]
    · simp at h
  · rename_i location target hr
    -- the trail names the path of the site throughout, so only the locations count
    have hcontains : s.trail.contains (location, s.path) ↔ location ∈ s.visited := by
      rw [List.contains_iff_mem, hpath.mem_trail_iff]
    simp only [hr, Except.ok.injEq, Prod.mk.injEq]
    split at h
    · rename_i hloop
      simp only [Bool.and_eq_true, hcontains] at hloop
      split at h
      · simp at h
      · obtain rfl : false = y := by simpa using h
        simp only [Bool.false_eq_true, false_iff, not_exists, not_and]
        intro l t h hnew
        obtain ⟨rfl, rfl⟩ := h
        exact absurd hloop.2 hnew
    · rename_i hloop
      have hnew : location ∉ s.visited := by
        simpa [hloops, hpath.mem_trail_iff] using hloop
      rw [hmeans _ y (hpath.follow target location) h, Site.Satisfied, Site.visited_follow]
      constructor
      · intro hsat
        exact ⟨location, target, ⟨rfl, rfl⟩, hnew, hsat⟩
      · intro h
        obtain ⟨l, t, ⟨rfl, rfl⟩, _, hsat⟩ := h
        exact hsat

end Logic

namespace Keyword

variable {e : Setting} {J : Judge} {s : Site} {node : Members} {kind : Kind} {w : Value} {y : Bool}

/-- A keyword that does not apply to every kind asks nothing of other nodes. -/
theorem mem_kinds_or_nested {d : Documents} {uri : String} {seen : List Location} {v : Value}
    (k : Keyword) (kind : Kind) : kind ∈ k.kinds ∨ ∀ w, k.Nested d uri seen w v := by
  have hall : kind ∈ Kind.all := by cases kind <;> decide
  cases k with
  | dependencies => exact .inl hall
  | disallow => exact .inl hall
  | extending => exact .inl hall
  | type => exact .inl hall
  | reference => exact .inl hall
  | _ => exact .inr fun _ => trivial

/-- A keyword that was built says yes exactly if it holds, of the value and by way of others. -/
theorem verdict_outcome (hJ : J.Uniform) (hmeans : J.Means e.documents) (hpath : s.AtPath)
    (hloops : e.loops ≠ .follow) (hk : s.kind = .ok kind) {k : Keyword} {b : Built}
    (hb : k.build node = .ok b) (hw : node.get? k.name = some w) (hkind : kind ∈ k.kinds)
    (h : (k.outcome e J s node).verdict = .ok y) :
    y = true ↔ k.Holds node w s.value ∧
      k.Nested e.documents s.location.uri s.visited w s.value := by
  have hplain (hp : k.isPlain) (hn : k.Nested e.documents s.location.uri s.visited w s.value) :
      y = true ↔ k.Holds node w s.value ∧
        k.Nested e.documents s.location.uri s.visited w s.value := by
    simpa [hn] using judged_plain hp hb hw hk hkind y h
  cases k with
  | dependencies =>
    obtain ⟨ms, required, schemas, hw', hd, rfl⟩ := dependenciesBuilder_ok.mp hb
    obtain rfl : w = .obj ms := Option.some.inj (hw.symm.trans hw')
    simp only [outcome, hb] at h
    simpa [Holds] using Logic.verdict_dependencies hJ hmeans hpath hd h
  | disallow =>
    obtain ⟨w', parts, hw', _, hparts, rfl⟩ := typesBuilder_ok hb
    obtain rfl : w = w' := Option.some.inj (hw.symm.trans hw')
    simp only [outcome, hb] at h
    simpa [Holds, Nested] using Logic.verdict_types hJ hmeans hpath hparts h
  | type =>
    obtain ⟨w', parts, hw', _, hparts, rfl⟩ := typesBuilder_ok hb
    obtain rfl : w = w' := Option.some.inj (hw.symm.trans hw')
    simp only [outcome, hb] at h
    simpa [Holds, Nested] using Logic.verdict_types hJ hmeans hpath hparts h
  | extending =>
    obtain ⟨w', parts, hw', hparts, rfl⟩ := extendingBuilder_ok.mp hb
    obtain rfl : w = w' := Option.some.inj (hw.symm.trans hw')
    simp only [outcome, hb] at h
    simpa [Holds, Nested] using
      Logic.verdict_parts hJ hmeans hpath (Expect.schemas_ok hparts).2 h
  | reference =>
    obtain ⟨ref, hw', rfl⟩ := referenceBuilder_ok.mp hb
    obtain rfl : w = .str ref := Option.some.inj (hw.symm.trans hw')
    simp only [outcome, hb] at h
    simpa [Holds] using Logic.verdict_reference hmeans hloops hpath h
  | _ => exact hplain rfl trivial

end Keyword

namespace Checker

variable {e : Setting} {J : Judge} {s : Site} {kind : Kind} {y : Bool}

/-- Whether the children are judged in turn or each apart makes no difference to the verdict. -/
theorem verdict_runChildren (hJ : J.Uniform) {jobs : List Job}
    (hjobs : Job.ofSite kind s = .ok jobs) :
    (runChildren e J kind s).outcome.verdict =
      (Outcome.all (jobs.map fun j => (J (j.site s)).outcome)).verdict := by
  obtain ⟨ns, h | h⟩ := outcome_runChildren e hJ hjobs
  · rw [h, Outcome.verdict_after]
  · have hmap : jobs.map (fun j => (J (j.site s)).outcome.apart) =
        (jobs.map fun j => (J (j.site s)).outcome).map Outcome.apart := by
      rw [List.map_map]
      rfl
    rw [h, Outcome.verdict_after, hmap, Outcome.verdict_all_apart]

theorem children_eq_nil {v : Value} (hk : Kind.of? v = some kind)
    (hkind : ¬ (kind = .array ∨ kind = .object)) : v.children = [] := by
  cases v with
  | arr xs =>
    obtain rfl : Kind.array = kind := Option.some.inj hk
    exact absurd (.inl rfl) hkind
  | obj ms =>
    obtain rfl : Kind.object = kind := Option.some.inj hk
    exact absurd (.inr rfl) hkind
  | bytes => simp [Kind.of?] at hk
  | _ => rfl

/-- The children say yes if each of them satisfies every node that governs it. -/
theorem verdict_descent (hJ : J.Uniform) (hmeans : J.Means e.documents) {node : Members}
    (hs : s.schema = .obj node) (hk : s.kind = .ok kind)
    (hitems : kind = .array → ∀ w, node.get? "items" = some w → w.IsSchemaList)
    (h : (descent e J kind s).verdict = .ok y) :
    y = true ↔ ∀ c ∈ s.value.children, ∀ t, Governs node c.1 t →
      Satisfies e.documents s.location.uri [] t c.2 := by
  unfold descent at h
  split at h
  · rename_i hkind
    cases hjobs : Job.ofSite kind s with
    | error f =>
      simp [runChildren, hjobs] at h
    | ok jobs =>
      rw [verdict_runChildren hJ hjobs] at h
      -- one job for each child and node that governs it
      have hiff := Outcome.verdict_all_map h
        (P := fun j : Job => Satisfies e.documents s.location.uri [] j.schema.schema j.value)
        fun j _ b hb => hmeans (j.site s) b (.of_trail_eq_nil rfl) hb
      have hmem (c : Token × Value) (t : Value) :=
        Job.mem_ofSite (c := c) (t := t) hs hk hkind hitems hjobs
      rw [hiff]
      constructor
      · intro hall c hc t hg
        obtain ⟨j, hj, rfl, rfl⟩ := (hmem c t).mpr ⟨hc, hg⟩
        exact hall j hj
      · intro hall j hj
        obtain ⟨hc, hg⟩ := (hmem (j.token, j.value) j.schema.schema).mp ⟨j, hj, rfl, rfl⟩
        exact hall _ hc _ hg
  · rename_i hkind
    obtain rfl : true = y := Except.ok.inj h
    rw [children_eq_nil (Kind.classify_ok.mp hk) hkind]
    simp

end Checker

namespace Setting

variable {e : Setting} {J : Judge}

/-- A node that can be used means what its keywords and the children say. -/
theorem means_built (hloops : e.loops ≠ .follow) (hJ : J.Uniform) (hmeans : J.Means e.documents)
    {s : Site} {node : Members} {kind : Kind} {x z : Bool} (hpath : s.AtPath)
    (hs : s.schema = .obj node) (hk : s.kind = .ok kind)
    (hbuilt : ∀ k ∈ Keyword.selected node kind, ∃ b, k.build node = .ok b)
    (hx : (Outcome.all ((Keyword.selected node kind).map
      (Keyword.outcome e J s node))).verdict = .ok x)
    (hz : (Checker.descent e J kind s).verdict = .ok z) :
    (x && z) = true ↔ Satisfies e.documents s.location.uri s.visited (.obj node) s.value := by
  obtain ⟨hok, hiff⟩ := Outcome.verdict_all_ok hx
  have happlies (k : Keyword) : k.Applies s.value ↔ kind ∈ k.kinds := by
    simp [Keyword.Applies, Kind.classify_ok.mp hk]
  have hkeywords (k : Keyword) (w : Value) (hw : Members.get? node k.name = some w)
      (hkind : kind ∈ k.kinds) : (k.outcome e J s node).verdict = .ok true ↔
      k.Holds node w s.value ∧ k.Nested e.documents s.location.uri s.visited w s.value := by
    have hsel := Keyword.mem_selected.mpr ⟨⟨w, hw⟩, hkind⟩
    obtain ⟨b, hb⟩ := hbuilt k hsel
    obtain ⟨u, hu⟩ := hok _ (List.mem_map.mpr ⟨k, hsel, rfl⟩)
    rw [hu, Except.ok.injEq]
    exact Keyword.verdict_outcome hJ hmeans hpath hloops hk hb hw hkind hu
  have hitems : kind = .array → ∀ w, Members.get? node "items" = some w → w.IsSchemaList := by
    intro harray w hw
    subst harray
    exact Keyword.isSchemaList_items hbuilt hw
  rw [Bool.and_eq_true, hiff, Checker.verdict_descent hJ hmeans hs hk hitems hz, satisfies_obj,
    List.forall_mem_map, ← and_assoc]
  -- the children are settled; what is left is about the keywords that apply
  refine and_congr_left fun _ => ?_
  constructor
  · intro hall
    refine ⟨?_, ?_⟩
    · intro k w hw ha
      have hkind := (happlies k).mp ha
      have hsel := Keyword.mem_selected.mpr ⟨⟨w, hw⟩, hkind⟩
      exact ⟨(Keyword.build_isOk hw).mp (hbuilt k hsel),
        ((hkeywords k w hw hkind).mp (hall k hsel)).1⟩
    · intro k w hw
      rcases k.mem_kinds_or_nested kind with hkind | hnested
      · have hsel := Keyword.mem_selected.mpr ⟨⟨w, hw⟩, hkind⟩
        exact ((hkeywords k w hw hkind).mp (hall k hsel)).2
      · exact hnested w
  · intro hall k hsel
    obtain ⟨⟨w, hw⟩, hkind⟩ := Keyword.mem_selected.mp hsel
    exact (hkeywords k w hw hkind).mpr
      ⟨(hall.1 k w hw ((happlies k).mpr hkind)).2, hall.2 k w hw⟩

/-- A round of judging means what the judge of the sites below means. -/
theorem means_round (hv : e.vocabulary = .known) (hloops : e.loops ≠ .follow) (hJ : J.Uniform)
    (hmeans : J.Means e.documents) : (e.round J).Means e.documents := by
  intro s y hpath h
  unfold Site.Satisfied
  have hround := round_cases hv hJ s
  generalize (e.round J s).outcome = o at h hround
  cases hround with
  | shape hshape =>
    obtain rfl : false = y := Except.ok.inj h
    simp [not_satisfies hshape]
  | nil hs =>
    obtain rfl : true = y := Except.ok.inj h
    rw [hs]
    simp [satisfies_nil]
  | foreign => cases h
  | unbuilt hs hk hsel hfail =>
    -- the keyword that cannot be built applies, and has a value that is not accepted
    obtain rfl : false = y := Except.ok.inj h
    rw [hs]
    obtain ⟨⟨w, hw⟩, hkind⟩ := Keyword.mem_selected.mp hsel
    simp only [Bool.false_eq_true, false_iff]
    intro hsat
    obtain ⟨hown, _⟩ := satisfies_obj.mp hsat
    obtain ⟨haccepts, _⟩ := hown _ w hw ⟨_, hkind, Kind.classify_ok.mp hk⟩
    obtain ⟨b, hb⟩ := (Keyword.build_isOk hw).mpr haccepts
    exact hfail b hb
  | built hs hk hbuilt =>
    rw [Outcome.verdict_after] at h
    obtain ⟨x, z, hx, hz, rfl⟩ := Outcome.verdict_andThen_ok.mp h
    rw [hs]
    exact means_built hloops hJ hmeans hpath hs hk hbuilt hx hz

/-- Whatever number of rounds judging is given, its verdict is the meaning of the node. -/
theorem means_judge (hv : e.vocabulary = .known) (hloops : e.loops ≠ .follow) (fuel : Nat) :
    (e.judge fuel).Means e.documents := by
  induction fuel with
  | zero =>
    intro s b _ h
    simp only [judge, Step.outcome_abort] at h
    cases h
  | succ fuel ih => exact means_round hv hloops (e.uniform_judge fuel) ih

end Setting

namespace Validator

theorem findings_eq (v : Validator) (x : Value) :
    v.findings x = ((v.setting.judgeSite (v.site x)).outcome.onto ⟨⟨.debug, []⟩, []⟩) :=
  v.setting.uniform_judge _ _ _

/-- A result carries the verdict and all that was found on the way to it. -/
theorem validate_ok {v : Validator} {x : Value} {r : Result} (h : (v.validate x).2 = .ok r) :
    ∃ b, (v.setting.judgeSite (v.site x)).outcome.verdict = .ok b ∧
      r = v.resultOf b (v.setting.judgeSite (v.site x)).outcome.messages := by
  unfold validate at h
  rw [findings_eq, Outcome.onto] at h
  cases hb : (v.setting.judgeSite (v.site x)).outcome.verdict with
  | error f =>
    rw [hb] at h
    cases h
  | ok b =>
    rw [hb] at h
    refine ⟨b, rfl, ?_⟩
    rw [Report.logAll_debug] at h
    exact (Except.ok.inj h).symm

theorem resultOf_isValid (v : Validator) (b : Bool) (found : List Diagnostic) :
    (v.resultOf b found).isValid = b := rfl

/-- A validator that was made reports loops, whatever documents it was given or made. -/
theorem eq_of_make {schema : Value} {vocabulary : Vocabulary} {o : Options}
    {documents : Option Documents} {baseUri : String} {store : Members} {v : Validator}
    (h : make schema vocabulary o documents baseUri store = .ok v) :
    ∃ d l, v = ⟨schema, ⟨vocabulary, d, o, .report⟩, l⟩ := by
  cases documents with
  | some d => exact ⟨d, _, (Except.ok.inj h).symm⟩
  | none =>
    obtain ⟨d, _, h⟩ := Answer.do_ok.mp h
    exact ⟨d, _, (Except.ok.inj h).symm⟩

/-- The verdict of a validator on a value is whether the value satisfies its schema. -/
theorem verdict_means {schema : Value} {o : Options} {documents : Option Documents}
    {baseUri : String} {store : Members} {v : Validator} {x : Value} {b : Bool}
    (hmake : make schema .known o documents baseUri store = .ok v)
    (hb : (v.setting.judgeSite (v.site x)).outcome.verdict = .ok b) :
    b = true ↔ Satisfies v.setting.documents v.location.uri [] schema x := by
  obtain ⟨d, l, rfl⟩ := eq_of_make hmake
  have hloops : LoopPolicy.report ≠ .follow := by decide
  exact Setting.means_judge rfl hloops _ _ b (.of_trail_eq_nil rfl) hb

/-- Whenever validation comes to a result, the value is valid exactly if it satisfies the schema. -/
theorem isValid_iff_satisfies {schema : Value} {o : Options} {documents : Option Documents}
    {baseUri : String} {store : Members} {v : Validator} {x : Value} {r : Result}
    (hmake : make schema .known o documents baseUri store = .ok v)
    (h : (v.validate x).2 = .ok r) :
    r.isValid = true ↔ Satisfies v.setting.documents v.location.uri [] schema x := by
  obtain ⟨b, hb, rfl⟩ := validate_ok h
  exact verdict_means hmake hb

/-- Lists of lists to any depth: the schema of the items refers back to the whole. -/
theorem isValid_iff_satisfies_nested :
    let schema : Value := .obj [("type", .str "array"), ("items", .obj [("$ref", .str "#")])]
    ∃ v r, make schema .known {} none "" [] = .ok v ∧
      (v.validate (.arr [.arr []])).2 = .ok r ∧ r.isValid = true ∧
      (r.isValid = true ↔
        Satisfies v.setting.documents v.location.uri [] schema (.arr [.arr []])) := by
  intro schema
  refine ⟨_, _, rfl, rfl, rfl, ?_⟩
  have hmake : make schema .known {} none "" [] = .ok _ := rfl
  exact isValid_iff_satisfies hmake rfl

end Validator

end Conform
