import Conform.Config.Check
import Conform.Proofs.Agreement
import Conform.Proofs.Rearranged
import Conform.Proofs.Sections

/-!
Checking a configuration. The check comes to a result unless a section or a declared leaf holds a
value that no document holds, or an integer too long to be written has to be: in a complaint about
the leaf that holds it, or as the version of a configuration that is valid otherwise.
-/
namespace Conform.Config

/-- The leaves of the sections, with their ranges. -/
def declared : List (String × List (String × Range)) :=
  [("meta", [("schema_version", .integer 1 none)]),
    ("engine", [("max_workers", .integer 1 (some Options.workerLimit)),
      ("parallel_min_children", .integer 1 none),
      ("suppress_repeated_schema_faults", .flag),
      ("report_log_level", .word (Severity.all.map Severity.name))]),
    ("observability", [("log_level", .word ["DEBUG", "INFO", "WARNING", "ERROR", "CRITICAL"]),
      ("log_format", .word ["json", "text"]), ("log_file", .text), ("log_to_stderr", .flag)])]

def leafNodes (fs : List (String × Range)) : Members := fs.map fun f => (f.1, .obj f.2.node)

def sectionNode (fs : List (String × Range)) : Members :=
  [("type", .str "object"), ("required", .bool true), ("additionalProperties", .bool false),
    ("properties", .obj (leafNodes fs))]

def sectionNodes : Members := declared.map fun s => (s.1, .obj (sectionNode s.2))

def rootNode : Members :=
  [("type", .str "object"), ("additionalProperties", .bool false),
    ("properties", .obj sectionNodes)]

/-- The schema is the table. -/
theorem schema_eq : schema = .obj rootNode := rfl

theorem get?_map {α : Type} (l : List (String × α)) (f : α → Value) (k : String) :
    Members.get? (l.map fun p => (p.1, f p.2)) k = (l.lookup k).map f := by
  induction l with
  | nil => rfl
  | cons p l ih =>
    rw [List.map_cons, Members.get?_cons, Members.lookup_cons, ih]
    split <;> rfl

theorem get?_leafNodes {fs : List (String × Range)} {k : String} {t : Value} :
    Members.get? (leafNodes fs) k = some t ↔ ∃ r, fs.lookup k = some r ∧ t = .obj r.node := by
  rw [leafNodes, get?_map fs (fun r => .obj r.node), Option.map_eq_some_iff]
  simp only [eq_comm]

theorem get?_sectionNodes {s : String} {t : Value} :
    Members.get? sectionNodes s = some t ↔
      ∃ fs, declared.lookup s = some fs ∧ t = .obj (sectionNode fs) := by
  rw [sectionNodes, get?_map declared (fun fs => .obj (sectionNode fs)), Option.map_eq_some_iff]
  simp only [eq_comm]

/-- The names of a record that are declared are those of its sections and leaves. -/
theorem record_of_only {node fields : Members} (htype : node.get? "type" = some (.str "object"))
    (hclosed : node.get? "additionalProperties" = some (.bool false))
    (hproperties : node.get? "properties" = some (.obj fields))
    (honly : ∀ m ∈ node, m.1 ∈ ["type", "required", "additionalProperties", "properties"])
    (hrequired : ∀ m ∈ fields, ∃ t, m.2 = .obj t ∧ Members.get? t "required" = some (.bool true)) :
    Record node fields := by
  refine ⟨htype, hclosed, hproperties, ?_, hrequired⟩
  intro k w hw
  have hname {l : Keyword} (h : k.name = l.name) : k = l := Keyword.name_injective h
  have hmem := honly _ (Value.mem_of_get? hw)
  simp only [List.mem_cons, List.not_mem_nil, or_false] at hmem
  rcases hmem with h | h | h | h
  · exact .inl (hname h)
  · exact absurd h k.name_ne_required
  · exact .inr (.inl (hname h))
  · exact .inr (.inr (hname h))

theorem record_section (fs : List (String × Range)) : Record (sectionNode fs) (leafNodes fs) := by
  refine record_of_only rfl rfl rfl ?_ ?_
  · simp [sectionNode]
  · intro m hm
    obtain ⟨f, _, rfl⟩ := List.mem_map.mp hm
    exact ⟨_, rfl, f.2.required_of_node⟩

theorem record_root : Record rootNode sectionNodes := by
  refine record_of_only rfl rfl rfl ?_ ?_
  · simp [rootNode]
  · intro m hm
    obtain ⟨s, _, rfl⟩ := List.mem_map.mp hm
    exact ⟨_, rfl, rfl⟩

theorem range_ne_word_nil {s k : String} {fs : List (String × Range)} {r : Range}
    (hs : declared.lookup s = some fs) (hk : fs.lookup k = some r) : r ≠ .word [] := by
  have hall : ∀ s ∈ declared, ∀ f ∈ s.2, f.2 ≠ .word [] := by decide
  exact hall _ (Members.mem_of_lookup hs) _ (Members.mem_of_lookup hk)

/-- No limit in the table is too long to be written. -/
theorem isWritable_node {s k : String} {fs : List (String × Range)} {r : Range}
    (hs : declared.lookup s = some fs) (hk : fs.lookup k = some r) :
    (Value.obj r.node).isWritable := by
  have hall : ∀ s ∈ declared, ∀ f ∈ s.2, (Value.obj f.2.node).isWritable := by decide
  exact hall _ (Members.mem_of_lookup hs) _ (Members.mem_of_lookup hk)

theorem nodup_declared : (declared.map Prod.fst).Nodup := by decide

theorem nodup_leaves {s : String} {fs : List (String × Range)} (hs : declared.lookup s = some fs) :
    (fs.map Prod.fst).Nodup := by
  have hall : ∀ s ∈ declared, (s.2.map Prod.fst).Nodup := by decide
  exact hall _ (Members.mem_of_lookup hs)

/-- Whether a value is a section with just the declared leaves, each within its range. -/
def IsSection (fs : List (String × Range)) (v : Value) : Prop :=
  ∃ ms, v = .obj ms ∧ Members.Fills Range.Admits fs ms

/-- Whether a configuration has just the declared sections and leaves, each within its range. -/
def Complies (c : Members) : Prop := Members.Fills IsSection declared c

section
variable {d : Documents} {uri : String} {seen : List Location} {c : Members} {f : Fault}

/-- What a record asks of an object, as names that are filled. -/
theorem fills_iff_satisfies {α : Type} {P : α → Value → Prop} {node fields : Members}
    {names : List (String × α)} (h : Record node fields) {ms : Members}
    (hn : (Members.keys ms).Nodup) (hnames : (names.map Prod.fst).Nodup)
    (hfields : ∀ k, (∃ t, fields.get? k = some t) ↔ ∃ a, names.lookup k = some a)
    (hP : ∀ k x t a, ms.get? k = some x → fields.get? k = some t → names.lookup k = some a →
      (Satisfies d uri [] t x ↔ P a x)) :
    Satisfies d uri seen (.obj node) (.obj ms) ↔ Members.Fills P names ms := by
  rw [h.satisfies_iff hn]
  constructor
  · intro hrecord
    obtain ⟨hhas, hvalues⟩ := hrecord
    refine Members.fills_of_get? hn hnames ?_
    intro k
    have hk := hhas k
    rw [Members.has_iff, Members.has_iff, hfields] at hk
    cases hx : Members.get? ms k with
    | none =>
      cases ha : names.lookup k with
      | none => exact .none
      | some a =>
        obtain ⟨x, hx'⟩ := hk.mpr ⟨a, ha⟩
        cases hx.symm.trans hx'
    | some x =>
      obtain ⟨a, ha⟩ := hk.mp ⟨x, hx⟩
      obtain ⟨t, ht⟩ := (hfields k).mpr ⟨a, ha⟩
      rw [ha]
      exact .some ((hP k x t a hx ht ha).mp (hvalues k x t hx ht))
  · intro hfills
    have hrel := hfills.get? hn
    refine ⟨?_, ?_⟩
    · intro k
      rw [Members.has_iff, Members.has_iff, hfields]
      have hk := hrel k
      generalize names.lookup k = a, Members.get? ms k = x at hk
      cases hk <;> simp
    · intro k x t hx ht
      obtain ⟨a, ha⟩ := (hfields k).mp ⟨t, ht⟩
      have hk := hrel k
      rw [ha, hx] at hk
      cases hk with
      | some hp => exact (hP k x t a hx ht ha).mpr hp

theorem satisfies_section {s : String} {fs : List (String × Range)} {v : Value}
    (hs : declared.lookup s = some fs) (hv : v.Distinct) :
    Satisfies d uri seen (.obj (sectionNode fs)) v ↔ IsSection fs v := by
  have hrecord := record_section fs
  have hmembers {ms : Members} (hn : (Members.keys ms).Nodup) :
      Satisfies d uri seen (.obj (sectionNode fs)) (.obj ms) ↔
        Members.Fills Range.Admits fs ms := by
    refine fills_iff_satisfies hrecord hn (nodup_leaves hs) ?_ ?_
    · intro k
      simp only [get?_leafNodes]
      simp
    · intro k x t r _ ht hr
      obtain ⟨r', hr', rfl⟩ := get?_leafNodes.mp ht
      obtain rfl := Option.some.inj (hr.symm.trans hr')
      exact Range.satisfies_iff (range_ne_word_nil hs hr)
  constructor
  · intro hsat
    obtain ⟨ms, rfl⟩ := hrecord.exists_members hsat
    cases hv with
    | leaf h => cases h
    | object hn _ => exact ⟨ms, rfl, (hmembers hn).mp hsat⟩
  · intro hsection
    obtain ⟨ms, rfl, hfills⟩ := hsection
    cases hv with
    | leaf h => cases h
    | object hn _ => exact (hmembers hn).mpr hfills

/-- The schema asks for just the declared sections and leaves, each within its range. -/
theorem satisfies_iff_complies (hd : (Value.obj c).Distinct) :
    Satisfies d uri seen schema (.obj c) ↔ Complies c := by
  cases hd with
  | leaf h => cases h
  | object hn hdeep =>
    rw [schema_eq]
    refine fills_iff_satisfies record_root hn nodup_declared ?_ ?_
    · intro s
      simp only [get?_sectionNodes]
      simp
    · intro s x t fs hx ht hs
      obtain ⟨fs', hs', rfl⟩ := get?_sectionNodes.mp ht
      obtain rfl := Option.some.inj (hs.symm.trans hs')
      exact satisfies_section hs (hdeep (s, x) (Value.mem_of_get? hx))

/-- The section or leaf of a configuration that holds a foreign value. -/
def IsForeign (c : Members) (f : Fault) : Prop :=
  ∃ s fs x, declared.lookup s = some fs ∧ c.get? s = some x ∧
    (Kind.classify x = .error f ∨
      ∃ ms k r y, x = .obj ms ∧ fs.lookup k = some r ∧ Members.get? ms k = some y ∧
        Kind.classify y = .error f)

/-- Faults escape just at foreign sections, and at declared leaves. -/
theorem escapes_iff_leaf (hd : (Value.obj c).Distinct) :
    Escapes d uri seen schema (.obj c) f ↔
      ∃ s fs x, declared.lookup s = some fs ∧ c.get? s = some x ∧
        (Kind.classify x = .error f ∨
          ∃ ms k r y, x = .obj ms ∧ fs.lookup k = some r ∧ Members.get? ms k = some y ∧
            Escapes d uri [] (.obj r.node) y f) := by
  cases hd with
  | leaf h => cases h
  | object hn hdeep =>
    rw [schema_eq, record_root.escapes_iff]
    constructor
    · intro h
      rcases h with h | ⟨ms, s, x, t, hms, hmem, ht, h⟩
      · cases h
      · obtain rfl := Value.obj.inj hms
        obtain ⟨fs, hs, rfl⟩ := get?_sectionNodes.mp ht
        refine ⟨s, fs, x, hs, (Members.mem_iff_get? hn).mp hmem, ?_⟩
        rcases (record_section fs).escapes_iff.mp h with h | ⟨ns, k, y, t, rfl, hmem', ht, h⟩
        · exact .inl h
        · obtain ⟨r, hr, rfl⟩ := get?_leafNodes.mp ht
          have hy : Members.get? ns k = some y := by
            cases hdeep _ hmem with
            | leaf h => cases h
            | object hn' _ => exact (Members.mem_iff_get? hn').mp hmem'
          exact .inr ⟨ns, k, r, y, rfl, hr, hy, h⟩
    · intro h
      obtain ⟨s, fs, x, hs, hx, h⟩ := h
      refine .inr ⟨c, s, x, _, rfl, Value.mem_of_get? hx, get?_sectionNodes.mpr ⟨fs, hs, rfl⟩, ?_⟩
      rw [(record_section fs).escapes_iff]
      rcases h with h | ⟨ms, k, r, y, rfl, hr, hy, h⟩
      · exact .inl h
      · exact .inr ⟨ms, k, y, _, rfl, Value.mem_of_get? hy, get?_leafNodes.mpr ⟨r, hr, rfl⟩, h⟩

/-- A leaf that is out of range with an integer too long to be written. -/
def IsQuoted (c : Members) : Prop :=
  ∃ s fs ms k r y, declared.lookup s = some fs ∧ c.get? s = some (.obj ms) ∧
    fs.lookup k = some r ∧ Members.get? ms k = some y ∧ r.Quotes y ∧ ¬ y.isWritable

/-- Whatever fault escapes, a section or a leaf is foreign, or a leaf cannot be quoted. -/
theorem cause_of_escapes (hd : (Value.obj c).Distinct)
    (h : Escapes d uri seen schema (.obj c) f) :
    IsForeign c f ∨ (f = .unwritable ∧ IsQuoted c) := by
  obtain ⟨s, fs, x, hs, hx, h⟩ := (escapes_iff_leaf hd).mp h
  rcases h with h | ⟨ms, k, r, y, rfl, hr, hy, h⟩
  · exact .inl ⟨s, fs, x, hs, hx, .inl h⟩
  · rcases (Range.escapes_iff (range_ne_word_nil hs hr)).mp h with h | ⟨rfl, hhides⟩
    · exact .inl ⟨s, fs, _, hs, hx, .inr ⟨ms, k, r, y, rfl, hr, hy, h⟩⟩
    · obtain ⟨hquotes, hlong⟩ := Range.quotes_of_hides (isWritable_node hs hr) hhides
      exact .inr ⟨rfl, s, fs, ms, k, r, y, hs, hx, hr, hy, hquotes, hlong⟩

theorem escapes_of_isForeign (hd : (Value.obj c).Distinct) (h : IsForeign c f) :
    Escapes d uri seen schema (.obj c) f := by
  obtain ⟨s, fs, x, hs, hx, h⟩ := h
  refine (escapes_iff_leaf hd).mpr ⟨s, fs, x, hs, hx, h.imp_right ?_⟩
  intro h
  obtain ⟨ms, k, r, y, hms, hr, hy, h⟩ := h
  exact ⟨ms, k, r, y, hms, hr, hy, (Range.escapes_iff (range_ne_word_nil hs hr)).mpr (.inl h)⟩

/-- The complaint about a leaf out of range is what fails, unless the leaf is foreign anyway. -/
theorem escapes_of_isQuoted (hd : (Value.obj c).Distinct) (h : IsQuoted c) :
    ∃ g, Escapes d uri seen schema (.obj c) g := by
  obtain ⟨s, fs, ms, k, r, y, hs, hx, hr, hy, hquotes, hlong⟩ := h
  have hleaf : ∃ g, Escapes d uri [] (.obj r.node) y g := by
    -- a foreign leaf fails before its range is looked at
    cases hk : Kind.classify y with
    | error g => exact ⟨g, (Range.escapes_iff (range_ne_word_nil hs hr)).mpr (.inl hk)⟩
    | ok kind =>
      have hhides := Range.hides_of_quotes (Kind.classify_ok.mp hk) hquotes hlong
      exact ⟨_, (Range.escapes_iff (range_ne_word_nil hs hr)).mpr (.inr ⟨rfl, hhides⟩)⟩
  obtain ⟨g, hg⟩ := hleaf
  exact ⟨g, (escapes_iff_leaf hd).mpr ⟨s, fs, _, hs, hx, .inr ⟨ms, k, r, y, rfl, hr, hy, hg⟩⟩⟩

/-- Whether a value is a section of the declared leaves, as what their names find. -/
def HoldsLeaves (fs : List (String × Range)) (v : Value) : Prop :=
  ∃ ms, v = .obj ms ∧ ∀ k, Option.Rel Range.Admits (fs.lookup k) (Members.get? ms k)

/-- A configuration complies if every name finds what is declared of it. -/
theorem complies_iff (hd : (Value.obj c).Distinct) :
    Complies c ↔ ∀ s, Option.Rel HoldsLeaves (declared.lookup s) (c.get? s) := by
  constructor
  · intro h s
    refine rel_imp (h.get? hd.nodup s) ?_
    rintro fs _ _ hx ⟨ms, rfl, hfills⟩
    exact ⟨ms, rfl, hfills.get? (hd.of_get? hx).nodup⟩
  · intro h
    refine Members.fills_of_get? hd.nodup nodup_declared fun s => rel_imp (h s) ?_
    rintro fs _ hs hx ⟨ms, rfl, hleaves⟩
    exact ⟨ms, rfl, Members.fills_of_get? (hd.of_get? hx).nodup (nodup_leaves hs) hleaves⟩

theorem section_of_complies (hd : (Value.obj c).Distinct) (h : Complies c) {s : String}
    {fs : List (String × Range)} (hs : declared.lookup s = some fs) :
    ∃ ms, c.get? s = some (.obj ms) ∧
      ∀ k, Option.Rel Range.Admits (fs.lookup k) (Members.get? ms k) := by
  obtain ⟨_, hx, ms, rfl, hleaves⟩ := some_of_rel ((complies_iff hd).mp h s) hs
  exact ⟨ms, hx, hleaves⟩

/-- Every leaf of a configuration that complies is within its range. -/
theorem admits_of_complies (hd : (Value.obj c).Distinct) (h : Complies c) {s k : String}
    {fs : List (String × Range)} {r : Range} {ms : Members} {y : Value}
    (hs : declared.lookup s = some fs) (hx : c.get? s = some (.obj ms))
    (hr : fs.lookup k = some r) (hy : Members.get? ms k = some y) : r.Admits y := by
  obtain ⟨_, hx', hleaves⟩ := section_of_complies hd h hs
  obtain rfl := Value.obj.inj (Option.some.inj (hx.symm.trans hx'))
  obtain ⟨_, hy', hadmits⟩ := some_of_rel (hleaves k) hr
  obtain rfl := Option.some.inj (hy.symm.trans hy')
  exact hadmits

theorem not_isForeign_of_complies (hd : (Value.obj c).Distinct) (h : Complies c) :
    ¬ IsForeign c f := by
  intro hforeign
  obtain ⟨s, fs, x, hs, hx, hforeign⟩ := hforeign
  rcases hforeign with hsection | ⟨ns, k, r, y, rfl, hr, hy, hleaf⟩
  · obtain ⟨ms, hx', _⟩ := section_of_complies hd h hs
    obtain rfl := Option.some.inj (hx.symm.trans hx')
    cases hsection
  · have hkind := Range.kind_of_admits (admits_of_complies hd h hs hx hr hy)
    cases hleaf.symm.trans (Kind.classify_ok.mpr hkind)

theorem not_isQuoted_of_complies (hd : (Value.obj c).Distinct) (h : Complies c) :
    ¬ IsQuoted c := by
  intro hquoted
  obtain ⟨s, fs, ms, k, r, y, hs, hx, hr, hy, hquotes, _⟩ := hquoted
  exact Range.not_quotes_of_admits (admits_of_complies hd h hs hx hr hy) hquotes

end

/-- The documents of the schema of configurations. -/
def documents : Documents := ⟨"", [("", schema)]⟩

def setting : Setting := ⟨.known, documents, {}, .report⟩

theorem validator_eq : validator = .ok ⟨schema, setting, ⟨documents.baseUri, .root⟩⟩ := rfl

/-- The site that checking a configuration begins at. -/
def rootSite (c : Members) : Site := { schema, value := .obj c }

/-- What judging a configuration comes to. -/
def judged (c : Members) : Conform.Outcome := (setting.judgeSite (rootSite c)).outcome

/-- The steps of a check. -/
theorem check_obj (c : Members) : check (.obj c) = (do
    let b ← (judged c).verdict
    let report := ((Validator.resultOf ⟨schema, setting, ⟨"", .root⟩⟩ b (judged c).messages)).report
    let issues := issuesOf report ++ (← versionIssues c b)
    return if issues.isEmpty && b then .accepted (ordered c) else .rejected issues) := by
  have hfindings : Validator.findings ⟨schema, setting, ⟨documents.baseUri, .root⟩⟩ (.obj c) =
      (judged c).onto ⟨⟨.debug, []⟩, []⟩ := Validator.findings_eq _ _
  simp only [check, validator_eq, bind, Except.bind, Validator.validate, hfindings,
    Conform.Outcome.onto, Report.logAll_debug]
  cases (judged c).verdict <;> rfl

section
variable {c : Members} {f : Fault}

/-- The version of a valid configuration, if it is too long, has to be written. -/
theorem versionIssues_error {b : Bool} (h : versionIssues c b = .error f) :
    f = .unwritable ∧ b = true ∧
      ∃ n, versionOf c = some (.int n) ∧ ¬ (Value.int n).isWritable := by
  unfold versionIssues at h
  split at h
  · rename_i n hn
    split at h
    · cases h
    · have hwritten := Answer.map_error.mp h
      by_cases hshort : (Value.int n).isWritable
      · cases hwritten.symm.trans (Value.written_of_isWritable hshort)
      · rw [Value.written_of_not_isWritable hshort] at hwritten
        exact ⟨(Except.error.inj hwritten).symm, rfl, n, hn, hshort⟩
  · cases h

theorem isWritable_version : (Value.int version).isWritable := by decide

theorem versionIssues_of_not_isWritable {n : Int} (hn : versionOf c = some (.int n))
    (hlong : ¬ (Value.int n).isWritable) : versionIssues c true = .error .unwritable := by
  have hne : n ≠ version := by
    rintro rfl
    exact hlong isWritable_version
  simp only [versionIssues, hn, if_neg hne, Value.written_of_not_isWritable hlong]
  rfl

theorem versionIssues_nil_iff : versionIssues c true = .ok [] ↔
    ∀ n, versionOf c = some (.int n) → n = version := by
  unfold versionIssues
  split
  · rename_i n _ hn
    by_cases hversion : n = version
    · simp [hn, hversion]
    · rw [if_neg hversion]
      refine iff_of_false ?_ fun h => hversion (h n hn)
      simp
  · rename_i hno
    refine iff_of_true rfl ?_
    intro n hn
    exact absurd hn (hno n rfl)

/-- The ways in which checking a configuration comes to no result. -/
inductive Fails (c : Members) : Fault → Prop
  | foreign {f : Fault} (h : IsForeign c f) : Fails c f
  | quoted (h : IsQuoted c) : Fails c .unwritable
  | version {n : Int} (h : Complies c) (hversion : versionOf c = some (.int n))
      (hlong : ¬ (Value.int n).isWritable) : Fails c .unwritable

theorem onTrail_rootSite : (rootSite c).OnTrail setting.documents := .of_trail_eq_nil rfl

theorem fails_of_verdict (hd : (Value.obj c).Distinct) (h : (judged c).verdict = .error f) :
    Fails c f := by
  have hescapes := Setting.escapes_of_judgeSite rfl rfl onTrail_rootSite h
  rcases cause_of_escapes hd hescapes with hforeign | ⟨rfl, hquoted⟩
  · exact .foreign hforeign
  · exact .quoted hquoted

theorem verdict_of_escapes
    (h : Escapes setting.documents (rootSite c).location.uri (rootSite c).visited schema (.obj c) f) :
    ∃ g, (judged c).verdict = .error g := by
  have hfollow : setting.loops ≠ .follow := by decide
  have hall := Setting.failsAll_judge (e := setting) rfl hfollow (setting.fuelFor (rootSite c))
  exact hall (rootSite c) f (.of_trail_eq_nil rfl) h

/-- The verdict says whether the configuration has what the schema asks for. -/
theorem verdict_iff_complies (hd : (Value.obj c).Distinct) {b : Bool}
    (h : (judged c).verdict = .ok b) : b = true ↔ Complies c := by
  have hfollow : setting.loops ≠ .follow := by decide
  have hmeans := Setting.means_judge rfl hfollow _ (rootSite c) b (.of_trail_eq_nil rfl) h
  exact hmeans.trans (satisfies_iff_complies hd)

/-- Whatever a check ends in without a result is one of its failures. -/
theorem fails_of_check (hd : (Value.obj c).Distinct) (h : check (.obj c) = .error f) :
    Fails c f := by
  rw [check_obj] at h
  rcases Answer.do_error.mp h with h | ⟨b, hb, h⟩
  · exact fails_of_verdict hd h
  · rcases Answer.do_error.mp h with h | ⟨_, _, h⟩
    · obtain ⟨rfl, rfl, n, hn, hlong⟩ := versionIssues_error h
      exact .version ((verdict_iff_complies hd hb).mp rfl) hn hlong
    · cases h

/-- Each of the failures ends the check, if no other one does so before. -/
theorem check_of_fails (hd : (Value.obj c).Distinct) (h : Fails c f) :
    ∃ g, check (.obj c) = .error g := by
  rw [check_obj]
  cases hb : (judged c).verdict with
  | error g => exact ⟨g, rfl⟩
  | ok b =>
    cases h with
    | foreign h =>
      obtain ⟨g, hg⟩ := verdict_of_escapes (escapes_of_isForeign hd h)
      cases hb.symm.trans hg
    | quoted h =>
      obtain ⟨_, hescapes⟩ := escapes_of_isQuoted hd h
      obtain ⟨g, hg⟩ := verdict_of_escapes hescapes
      cases hb.symm.trans hg
    | version h hversion hlong =>
      -- the version is looked at where the schema is satisfied, and only there
      obtain rfl : b = true := (verdict_iff_complies hd hb).mpr h
      refine ⟨.unwritable, ?_⟩
      change (versionIssues c true >>= _) = _
      rw [versionIssues_of_not_isWritable hversion hlong]
      rfl

/-- The configurations that pass are those that comply and are of the supported version; they are
handed back in order. -/
theorem check_accepted_iff (hd : (Value.obj c).Distinct) {cfg : Members} :
    check (.obj c) = .ok (.accepted cfg) ↔
      (Complies c ∧ ∀ n, versionOf c = some (.int n) → n = version) ∧ cfg = ordered c := by
  constructor
  · intro h
    rw [check_obj] at h
    obtain ⟨b, hb, h⟩ := Answer.do_ok.mp h
    obtain ⟨later, hlater, h⟩ := Answer.do_ok.mp h
    have hresult := Except.ok.inj h
    split at hresult
    · rename_i hpass
      rw [Bool.and_eq_true, List.isEmpty_iff] at hpass
      obtain ⟨hnil, rfl⟩ := hpass
      obtain ⟨_, rfl⟩ := List.append_eq_nil_iff.mp hnil
      exact ⟨⟨(verdict_iff_complies hd hb).mp rfl, versionIssues_nil_iff.mp hlater⟩,
        (Outcome.accepted.inj hresult).symm⟩
    · cases hresult
  · intro h
    obtain ⟨⟨hcomplies, hversion⟩, rfl⟩ := h
    cases hcheck : check (.obj c) with
    | error f =>
      cases fails_of_check hd hcheck with
      | foreign h => exact absurd h (not_isForeign_of_complies hd hcomplies)
      | quoted h => exact absurd h (not_isQuoted_of_complies hd hcomplies)
      | @version n _ hn hlong =>
        rw [hversion n hn] at hlong
        exact absurd isWritable_version hlong
    | ok o =>
      rw [check_obj] at hcheck
      obtain ⟨b, hb, h⟩ := Answer.do_ok.mp hcheck
      obtain ⟨later, hlater, h⟩ := Answer.do_ok.mp h
      obtain rfl : b = true := (verdict_iff_complies hd hb).mpr hcomplies
      obtain rfl : later = [] :=
        Except.ok.inj (hlater.symm.trans (versionIssues_nil_iff.mpr hversion))
      -- whatever was found on the way to a yes is no error
      have hagrees := Setting.agrees_judge (e := setting) rfl (setting.fuelFor (rootSite c))
        (rootSite c)
      have hsuccess : issuesOf (Validator.resultOf ⟨schema, setting, ⟨"", .root⟩⟩ true
          (judged c).messages).report = [] := by
        have hlevel : Severity.error.reaches .info := by decide
        rw [issuesOf_eq_nil]
        refine Eq.trans ?_ (hagrees.verdict true hb).symm
        exact FaultReport.isSuccess_collect hlevel hagrees.grave
      rw [hsuccess] at h
      exact congrArg Except.ok (Except.ok.inj h).symm

end

end Conform.Config
