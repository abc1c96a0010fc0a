import Conform.Proofs.Whereabouts

/-!
The nodes that are judged. Whatever a keyword looks into was found to be a schema when the keyword
was built, so every child schema, alternative, part and dependency that comes up is an object. Main
statement: only the schema that validation begins with, and the target of a reference, can be
anything else, so only there is a node refused for its shape, and no node is asked for its keywords
without having any.
-/
namespace Conform

/-- What governs a child is an object where items are schemas, and members are mapped to schemas. -/
theorem Governs.isSchema {node : Members} {token : Token} {t : Value} (h : Governs node token t)
    (hitems : ∀ i, token = .index i → ∀ w, node.get? "items" = some w → w.IsSchemaList)
    (hmaps : ∀ name, token = .name name →
      (∀ w, node.get? "properties" = some w → w.IsSchemaMap) ∧
        ∀ w, node.get? "patternProperties" = some w → w.IsSchemaMap) : t.IsSchema := by
  have hmember {ps : Members} {m : String × Value} (hmap : (Value.obj ps).IsSchemaMap)
      (hm : m ∈ ps) : m.2.IsSchema := by
    obtain ⟨qs, hqs, hall⟩ := hmap
    obtain rfl := Value.obj.inj hqs
    exact hall m hm
  cases h with
  | everyItem | furtherItem | further => exact ⟨_, rfl⟩
  | item h hi =>
    rcases hitems _ rfl _ h with ⟨ms, hms⟩ | ⟨ys, hys, hall⟩
    · cases hms
    · obtain rfl := Value.arr.inj hys
      exact hall t (List.mem_of_getElem? hi)
  | property h ht => exact hmember ((hmaps _ rfl).1 _ h) (Value.mem_of_get? ht)
  | matched h =>
    obtain ⟨ps, hps, hm⟩ := h
    exact hmember ((hmaps _ rfl).2 _ hps) hm

namespace Site

/-- The same value against the target of the reference of the node. -/
inductive Refers (d : Documents) (s : Site) : Site → Prop
  | target {node : Members} {ref : String} {location : Location} {schema : Value}
      (hs : s.schema = .obj node) (hw : node.get? "$ref" = some (.str ref))
      (hr : d.resolve (.str ref) s.location = .ok (location, schema)) :
      Refers d s (s.follow schema location)

end Site

namespace Value

theorem isSchema_of_mem_schemas {v t : Value} (h : t ∈ v.schemas) : t.IsSchema := by
  have hobject := (List.mem_filter.mp h).2
  cases t with
  | obj ms => exact ⟨ms, rfl⟩
  | _ => cases hobject

theorem IsSchemaList.isSchema_of_mem_listed {v t : Value} (hv : v.IsSchemaList)
    (h : t ∈ v.listed) : t.IsSchema := by
  rcases hv with ⟨ms, rfl⟩ | ⟨xs, rfl, hall⟩
  · exact ⟨ms, List.mem_singleton.mp h⟩
  · exact hall t h

end Value

namespace Keyword

variable {e : Setting} {s t : Site} {node : Members}

/-- What the logic of a built keyword has judged is a schema, or the target of a reference. -/
theorem isSchema_or_refers_of_calls {l : Logic} (hs : s.schema = .obj node)
    (hl : Makes node (.logic l)) (ht : t ∈ l.calls e s) :
    t.schema.IsSchema ∨ s.Refers e.documents t := by
  cases hl with
  | test | unknownFormat => simp [Logic.calls] at ht
  | @types keyword w parts negated hw hparts =>
    obtain ⟨p, hp, rfl⟩ := List.mem_map.mp ht
    have hlisted : p.schema ∈ w.schemas := hparts ▸ List.mem_map_of_mem hp
    exact .inl (Value.isSchema_of_mem_schemas hlisted)
  | @extending w parts hw hparts =>
    obtain ⟨p, hp, rfl⟩ := List.mem_map.mp ht
    obtain ⟨hlist, hschemas⟩ := Expect.schemas_ok hparts
    have hlisted : p.schema ∈ w.listed := hschemas ▸ List.mem_map_of_mem hp
    exact .inl (hlist.isSchema_of_mem_listed hlisted)
  | dependencies hw hd =>
    simp only [Logic.calls] at ht
    split at ht
    · obtain ⟨m, hm, rfl⟩ := List.mem_map.mp ht
      exact .inl (((dependencyList_ok hd).schemas m).mp (List.mem_filter.mp hm).1).2
    · simp at ht
  | reference hw =>
    simp only [Logic.calls] at ht
    split at ht
    · rename_i location target hr
      split at ht
      · simp at ht
      · obtain rfl := List.mem_singleton.mp ht
        exact .inr (.target hs hw hr)
    · simp at ht

/-- A keyword of a node whose keywords can be built has a value of the right shape. -/
theorem accepts_of_built {kind : Kind} (hbuilt : ∀ k ∈ selected node kind, ∃ b, k.build node = .ok b)
    (k : Keyword) (hk : kind ∈ k.kinds) {w : Value} (hw : node.get? k.name = some w) :
    k.Accepts node w :=
  (build_isOk hw).mp (hbuilt k (mem_selected.mpr ⟨⟨w, hw⟩, hk⟩))

end Keyword

namespace Checker

variable {s t : Site} {node : Members} {kind : Kind}

/-- What the children of a node are judged by is a schema: the keywords that lay it out could be
built, so they have the shape that the lookup takes for granted. -/
theorem isSchema_of_childCalls (hs : s.schema = .obj node) (hk : s.kind = .ok kind)
    (hkind : kind = .array ∨ kind = .object)
    (hbuilt : ∀ k ∈ Keyword.selected node kind, ∃ b, k.build node = .ok b)
    (ht : t ∈ childCalls kind s) : t.schema.IsSchema := by
  unfold childCalls at ht
  split at ht
  · rename_i jobs hjobs
    obtain ⟨j, hj, rfl⟩ := List.mem_map.mp ht
    have hitems (harray : kind = .array) (w : Value) (hw : node.get? "items" = some w) :
        w.IsSchemaList := Keyword.isSchemaList_items (harray ▸ hbuilt) hw
    have hgoverns := (Job.mem_ofSite hs hk hkind hitems hjobs (c := (j.token, j.value))).mp
      ⟨j, hj, rfl, rfl⟩
    refine hgoverns.2.isSchema ?_ ?_
    · -- only elements are found by position
      intro i hi w hw
      refine hitems ?_ w hw
      rcases hkind with harray | rfl
      · exact harray
      · obtain ⟨ms, hv⟩ := Value.eq_obj_of_kind (Kind.classify_ok.mp hk)
        obtain ⟨name, hname, -⟩ := Value.name_of_mem_children (hv ▸ hgoverns.1)
        cases hname.symm.trans hi
    · -- only members are found by name
      intro name hname
      have hobject : kind = .object := by
        rcases hkind with rfl | hobject
        · obtain ⟨xs, hv⟩ := Value.eq_arr_of_kind (Kind.classify_ok.mp hk)
          obtain ⟨i, hi, -⟩ := Value.index_of_mem_children (hv ▸ hgoverns.1)
          cases hi.symm.trans hname
        · exact hobject
      subst hobject
      constructor
      · intro w hw
        exact (Keyword.accepts_of_built hbuilt .properties (by decide) hw).1
      · intro w hw
        exact (Keyword.accepts_of_built hbuilt .patternProperties (by decide) hw).1
  · simp at ht

/-- A checker of the known keywords is bound to the site that it was made for. -/
theorem eq_of_mem_sites_allOf {cs : List Checker} {u : Site}
    (hcs : ∀ c ∈ cs, ∀ v ∈ c.sites, v = s) (hu : u ∈ (allOf cs).sites) : u = s := by
  have hall : ∀ {ds : List Checker}, (∀ c ∈ ds, ∀ v ∈ c.sites, v = s) → u ∈ sitesAll ds → u = s := by
    intro ds hds hu
    induction ds with
    | nil => simp [sitesAll] at hu
    | cons d ds ih =>
      obtain ⟨hd, hds⟩ := List.forall_mem_cons.mp hds
      rcases List.mem_append.mp hu with hu | hu
      · exact hd u hu
      · exact ih hds hu
  cases cs with
  | nil => simp [allOf, sites] at hu
  | cons c cs =>
    -- a checker that is alone is not wrapped
    cases cs with
    | nil => exact hcs c List.mem_cons_self u hu
    | cons d cs => exact hall hcs hu

theorem eq_of_mem_sites_wrap {c : Checker} {u : Site} (hc : ∀ v ∈ c.sites, v = s)
    (hu : u ∈ (wrap s kind c).sites) : u = s := by
  have hcontainer {kind : Kind} (hu : u ∈ (container kind c s).sites) : u = s := by
    rcases List.mem_cons.mp hu with hu | hu
    · exact hu
    · exact hc u hu
  cases kind with
  | array => exact hcontainer hu
  | object => exact hcontainer hu
  | _ => exact hc u hu

end Checker

namespace Setting

variable {e : Setting} {s t : Site}

theorem isSchema_or_refers_of_calls (hv : e.vocabulary = .known) (ht : t ∈ e.calls s) :
    t.schema.IsSchema ∨ s.Refers e.documents t := by
  obtain ⟨node, hs, ⟨k, l, hl, ht⟩ | ⟨kind, hk, hkind, hbuilt, ht⟩⟩ := calls_cases hv ht
  · exact Keyword.isSchema_or_refers_of_calls hs (Keyword.makes_of_build hl) ht
  · exact .inl (Checker.isSchema_of_childCalls hs hk hkind hbuilt ht)

/-- An entry to the nodes that are judged from a site on: the site itself, or the target of a
reference that comes up. -/
def IsEntry (e : Setting) (s t : Site) : Prop :=
  t = s ∨ ∃ u, e.Reaches s u ∧ u.Refers e.documents t

/-- What is no schema is an entry. -/
theorem isSchema_or_isEntry_of_reaches (hv : e.vocabulary = .known) (h : e.Reaches s t) :
    t.schema.IsSchema ∨ e.IsEntry s t := by
  cases h with
  | refl => exact .inr (.inl rfl)
  | tail hsu hcall =>
    rcases isSchema_or_refers_of_calls hv hcall with hschema | hrefers
    · exact .inl hschema
    · exact .inr (.inr ⟨_, hsu, hrefers⟩)

/-- The sites that a checker of the known keywords is bound to have keywords. -/
theorem node_of_mem_sites (hv : e.vocabulary = .known) {notes : List Note} {c : Checker}
    (hc : Checker.forSite e.vocabulary s = (notes, .ok c)) {u : Site} (hu : u ∈ c.sites) :
    ∃ node, u.node = .ok node := by
  rcases forSite_known_cases hv hc with rfl | ⟨d, rfl⟩ | ⟨node, kind, hs, hk, hbuilt, rfl⟩
  · simp [Checker.sites] at hu
  · simp [Checker.sites] at hu
  · obtain rfl : u = s := by
      refine Checker.eq_of_mem_sites_wrap (fun v hv => Checker.eq_of_mem_sites_allOf ?_ hv) hu
      intro c hc v hv
      obtain ⟨k, -, rfl⟩ := List.mem_map.mp hc
      unfold Keyword.checker at hv
      split at hv
      · exact List.mem_singleton.mp hv
      · simp [Checker.sites] at hv
    exact ⟨node, by rw [Site.node, hs]⟩

end Setting

/-- Whatever vocabulary there is, none of its builders is asked about what is no schema. -/
theorem Checker.forSite_of_not_isSchema {s : Site} (h : ¬ s.schema.IsSchema) :
    ∃ d n, d.Refuses s none (.schemaShape none s.schema.typeName) ∧
      ∀ v : Vocabulary, forSite v s = ([n], .ok (.never (some d))) := by
  obtain ⟨d, n, hd, hrefuses⟩ :=
    unusable_refuses s none (.schemaShape none s.schema.typeName)
  refine ⟨d, n, hrefuses, fun v => ?_⟩
  unfold forSite
  split
  · rename_i hs
    exact absurd ⟨_, hs⟩ h
  · rename_i hs
    exact absurd ⟨_, hs⟩ h
  · simp only [hd]

namespace Validator

/-- Shapes are refused at entries only. From a site that comes up, judging goes on to schemas and
to the targets of references, and to nothing else. A site that comes up either has keywords, and
then nothing that its checker says is said without naming one; or it is the first one or the target
of a reference, and then it is refused at once, whatever vocabulary there is, so no builder is
asked. In neither case is a site without keywords bound to a checker. So whatever is found without
a keyword is said of an entry that is no schema. -/
theorem shapes_refused_at_entries (schema : Value) (d : Documents) (o : Options) (l : Location)
    (x : Value) :
    let v : Validator := ⟨schema, ⟨.known, d, o, .report⟩, l⟩
    (∀ s, v.setting.Reaches (v.site x) s →
      (∀ J K : Judge, (∀ t ∈ v.setting.calls s, J t = K t) →
        v.setting.round J s = v.setting.round K s) ∧
      (∀ t ∈ v.setting.calls s, t.schema.IsSchema ∨ s.Refers d t) ∧
      ((∃ node, s.node = .ok node ∧ ∀ notes c, Checker.forSite .known s = (notes, .ok c) →
          ∀ m, c.Says m → m.keyword ≠ none) ∨
        v.setting.IsEntry (v.site x) s ∧ ∃ m n, m.keyword = none ∧
          ∀ w : Vocabulary, Checker.forSite w s = ([n], .ok (.never (some m)))) ∧
      ∀ notes c, Checker.forSite .known s = (notes, .ok c) →
        ∀ t ∈ c.sites, ∃ node, t.node = .ok node) ∧
    ∀ m ∈ (v.findings x).1.report.messages, m.keyword = none →
      ∃ s, v.setting.Reaches (v.site x) s ∧ v.setting.IsEntry (v.site x) s ∧
        ¬ s.schema.IsSchema ∧ m.domain = .construction ∧ m.StandsAt s none := by
  intro v
  have hentry {s : Site} (hs : v.setting.Reaches (v.site x) s) (hshape : ¬ s.schema.IsSchema) :
      v.setting.IsEntry (v.site x) s :=
    (Setting.isSchema_or_isEntry_of_reaches rfl hs).resolve_left hshape
  constructor
  · intro s hs
    refine ⟨fun J K h => v.setting.round_congr h,
      fun t ht => Setting.isSchema_or_refers_of_calls rfl ht, ?_,
      fun notes c hc t ht => Setting.node_of_mem_sites (e := v.setting) rfl hc ht⟩
    by_cases hshape : s.schema.IsSchema
    · left
      obtain ⟨node, hnode⟩ := hshape
      refine ⟨node, by rw [Site.node, hnode], ?_⟩
      intro notes c hc m hm
      cases Checker.about_of_says hc hm with
      | keyword _ _ _ hstands =>
        rw [hstands.keyword]
        exact Option.some_ne_none _
      | shape hno => exact absurd ⟨node, hnode⟩ hno
    · right
      obtain ⟨m, n, hrefuses, hall⟩ := Checker.forSite_of_not_isSchema hshape
      exact ⟨hentry hs hshape, m, n, hrefuses.keyword, hall⟩
  · intro m hm hnone
    rw [findings_eq, Outcome.onto, Report.logAll_debug, List.nil_append] at hm
    obtain ⟨s, hs, habout⟩ := Setting.exists_about_of_mem_messages rfl hm
    cases habout with
    | keyword _ _ _ hstands =>
      rw [hstands.keyword] at hnone
      cases hnone
    | shape hshape hcomplains hstands =>
      exact ⟨s, hs, hentry hs hshape, hshape, hcomplains.domain, hstands⟩

end Validator

end Conform
