import Conform.Proofs.Collapse
import Conform.Proofs.Reordered

/-!
Validation does not see the order of members: rearranged values under rearranged schemas have the
same verdict, and a message in one report for each message in the other, of the same level, domain,
places and keyword. The order of a store shows in one way only. Where several of its uris have the
same address, the document of the last one stands there.
-/
namespace Conform

open Value Value.Rearranged

namespace Documents

/-- Whether the uri of a member of a store has an address. -/
def isAt (key : String) (m : String × Value) : Bool := (address m.1).toOption == some key

theorem isAt_iff {key : String} {m : String × Value} : isAt key m ↔ address m.1 = .ok key := by
  unfold isAt
  cases address m.1 <;> simp [Except.toOption]

/-- The last member of a store whose uri has an address. -/
def lastAt (store : Members) (key : String) : Option (String × Value) :=
  (store.filter (isAt key)).getLast?

variable {store store' entries entries' : Members} {key : String}

theorem mem_of_lastAt {m : String × Value} (h : lastAt store key = some m) :
    m ∈ store ∧ address m.1 = .ok key := by
  obtain ⟨hmem, hkey⟩ := List.mem_filter.mp (List.mem_of_getLast? h)
  exact ⟨hmem, isAt_iff.mp hkey⟩

theorem exists_lastAt {m : String × Value} (hm : m ∈ store) (hkey : address m.1 = .ok key) :
    ∃ n, lastAt store key = some n :=
  ⟨_, List.getLast?_eq_some_getLast
    (List.ne_nil_of_mem (List.mem_filter.mpr ⟨hm, isAt_iff.mpr hkey⟩))⟩

/-- What stands at an address is what the store has for it last, if it has anything. -/
theorem get?_storeAll (h : storeAll store entries = .ok entries') (key : String) :
    entries'.get? key = ((lastAt store key).map Prod.snd).or (entries.get? key) := by
  induction store generalizing entries with
  | nil =>
    obtain rfl := Except.ok.inj h
    rfl
  | cons m store ih =>
    obtain ⟨k, hk, h⟩ := Answer.do_ok.mp h
    rw [ih h, Members.get?_put_eq]
    unfold lastAt
    by_cases hkey : k = key
    · have hlast : isAt key m := isAt_iff.mpr (hkey ▸ hk)
      rw [if_pos hkey, List.filter_cons_of_pos hlast, List.getLast?_cons]
      cases (store.filter (isAt key)).getLast? <;> rfl
    · have hother : ¬ isAt key m := fun h => hkey (Except.ok.inj (hk.symm.trans (isAt_iff.mp h)))
      rw [if_neg hkey, List.filter_cons_of_neg hother]

/-- Uris of different addresses are each the last of their own. -/
theorem lastAt_of_injective (h : Matched store store')
    (hinj : ∀ u ∈ Members.keys store, ∀ u' ∈ Members.keys store, address u = address u' → u = u')
    (key : String) :
    (lastAt store key).map Prod.fst = (lastAt store' key).map Prod.fst := by
  have hsome {ms ns : Members} (hms : Matched ms ns) {m : String × Value}
      (hm : lastAt ms key = some m) : ∃ n, lastAt ns key = some n := by
    obtain ⟨hmem, hkey⟩ := mem_of_lastAt hm
    obtain ⟨y, hy⟩ := Members.has_iff.mp
      (Members.has_iff_mem.mpr (hms.keys.mem_iff.mp (List.mem_map_of_mem hmem)))
    have hmem' : (m.1, y) ∈ ns := mem_of_get? hy
    exact exists_lastAt hmem' hkey
  cases hm : lastAt store key with
  | none =>
    cases hn : lastAt store' key with
    | none => rfl
    | some n =>
      obtain ⟨m, hm'⟩ := hsome h.symm hn
      rw [hm] at hm'
      cases hm'
  | some m =>
    obtain ⟨n, hn⟩ := hsome h hm
    obtain ⟨hmem, hkey⟩ := mem_of_lastAt hm
    obtain ⟨hmem', hkey'⟩ := mem_of_lastAt hn
    rw [hn]
    exact congrArg some (hinj _ (List.mem_map_of_mem hmem) _
      (h.keys.mem_iff.mpr (List.mem_map_of_mem hmem')) (hkey.trans hkey'.symm))

/-- Rearranged stores make rearranged documents if the same uri comes last at every address but
that of the root. -/
theorem make_rearranged {root root' : Value} {baseUri : String} {d d' : Documents}
    (hroot : root.Rearranged root') (hstore : (Value.obj store).Rearranged (.obj store'))
    (hlast : ∀ key, address baseUri ≠ .ok key →
      (lastAt store key).map Prod.fst = (lastAt store' key).map Prod.fst)
    (h : make root baseUri store = .ok d) (h' : make root' baseUri store' = .ok d') :
    d.baseUri = d'.baseUri ∧ d.Rearranged d' := by
  simp only [make, Answer.do_ok] at h h'
  obtain ⟨entries, hentries, base, hbase, h⟩ := h
  obtain ⟨entries', hentries', base', hbase', h'⟩ := h'
  obtain rfl := Except.ok.inj (hbase.symm.trans hbase')
  obtain rfl := Except.ok.inj h
  obtain rfl := Except.ok.inj h'
  have hms : Matched store store' := obj_obj.mp hstore
  refine ⟨rfl, ?_⟩
  intro uri
  dsimp only
  rw [Members.get?_put_eq, Members.get?_put_eq]
  by_cases huri : base = uri
  · rw [if_pos huri, if_pos huri]
    exact .some hroot
  · rw [if_neg huri, if_neg huri, get?_storeAll hentries, get?_storeAll hentries']
    have hsame := hlast uri fun h => huri (Except.ok.inj (hbase.symm.trans h))
    cases hm : lastAt store uri with
    | none =>
      rw [hm] at hsame
      rw [Option.map_eq_none_iff.mp hsame.symm]
      exact .none
    | some m =>
      rw [hm] at hsame
      obtain ⟨n, hn, hname⟩ := Option.map_eq_some_iff.mp hsame.symm
      rw [hn]
      have hx := get?_of_mem hms.nodup (mem_of_lastAt hm).1
      have hy := get?_of_mem hms.symm.nodup (mem_of_lastAt hn).1
      obtain ⟨y, hy', hxy⟩ := some_of_rel (hms.get? m.1) hx
      rw [← hname, hy] at hy'
      obtain rfl := Option.some.inj hy'
      exact .some hxy

end Documents

namespace Validator

variable {schema schema' x x' : Value} {o : Options} {baseUri : String}
  {store store' : Members} {v v' : Validator} {r r' : Result}

theorem gists_resultOf (hcollapse : v.setting.options.collapseRepeats = false) (b : Bool)
    (found : List Diagnostic) : (v.resultOf b found).report.messages.map Diagnostic.gist =
      (found.map Diagnostic.gist).filter fun g =>
        g.level.reaches v.setting.options.reportLevel := by
  have hreport : (v.resultOf b found).report =
      (⟨v.setting.options.reportLevel, []⟩ : Report).logAll found := by
    rw [← FaultReport.collect_all, ← hcollapse]
    rfl
  rw [hreport, Report.logAll_eq, List.nil_append, List.filter_map]
  rfl

/-- Permuting the members of objects in the schema, the store and the value, at any depth, changes
neither the verdict nor, up to wording and order, what is reported. Only among uris of one address
the last has to stay last. -/
theorem validation_ignores_member_order (hschema : schema.Rearranged schema')
    (hstore : (Value.obj store).Rearranged (.obj store')) (hx : x.Rearranged x')
    (hlast : ∀ key, Documents.address baseUri ≠ .ok key →
      (Documents.lastAt store key).map Prod.fst = (Documents.lastAt store' key).map Prod.fst)
    (hcollapse : o.collapseRepeats = false)
    (hmake : make schema .known o none baseUri store = .ok v)
    (hmake' : make schema' .known o none baseUri store' = .ok v')
    (h : (v.validate x).2 = .ok r) (h' : (v'.validate x').2 = .ok r') :
    r.isValid = r'.isValid ∧
      (r.report.messages.map Diagnostic.gist).Perm (r'.report.messages.map Diagnostic.gist) := by
  rw [make_none] at hmake hmake'
  obtain ⟨d, hd, rfl⟩ := Answer.map_ok.mp hmake
  obtain ⟨d', hd', rfl⟩ := Answer.map_ok.mp hmake'
  obtain ⟨hbase, hdocuments⟩ := Documents.make_rearranged hschema hstore hlast hd hd'
  obtain ⟨b, hb, rfl⟩ := validate_ok h
  obtain ⟨c, hc, rfl⟩ := validate_ok h'
  let w : Validator := ⟨schema, ⟨.known, d, o, .report⟩, ⟨d.baseUri, .root⟩⟩
  let w' : Validator := ⟨schema', ⟨.known, d', o, .report⟩, ⟨d'.baseUri, .root⟩⟩
  have hsite : (w.site x).Rearranged (w'.site x') :=
    ⟨hschema, hx, rfl, congrArg (Location.mk · .root) hbase, rfl⟩
  have hmatches : (w.setting.judgeSite (w.site x)).outcome.Matches
      (w'.setting.judgeSite (w'.site x')).outcome :=
    Setting.judgeSite_matches rfl rfl rfl hdocuments hsite
  obtain ⟨hverdict, hgists⟩ := hmatches b c hb hc
  refine ⟨hverdict, ?_⟩
  rw [gists_resultOf hcollapse, gists_resultOf hcollapse]
  exact hgists.filter _

theorem rearranged_swap {m n : String × Value} (hne : m.1 ≠ n.1) (hm : m.2.Distinct)
    (hn : n.2.Distinct) : (Value.obj [m, n]).Rearranged (.obj [n, m]) := by
  have hnodup : (Members.keys [m, n]).Nodup := by simp [Members.keys, hne]
  have hd : (Value.obj [m, n]).Distinct := .object hnodup (by simp [hm, hn])
  refine .object hnodup (.swap _ _ _) ?_
  intro k x y hx hy
  rw [← Members.get?_perm hnodup (.swap _ _ _), hx] at hy
  obtain rfl := Option.some.inj hy
  exact (hd.of_get? hx).rearranged

/-- Members of an object, of the schema and of the store change places. -/
theorem validation_ignores_member_order_properties :
    let text : String × Value := ("a", .obj [("type", .str "string")])
    let other : String × Value := ("b", .obj [("$ref", .str "http://x/d")])
    let low : String × Value := ("http://x/d", .obj [("maximum", .int 1)])
    let any : String × Value := ("http://x/e", .obj [])
    let one : String × Value := ("a", .int 1)
    let two : String × Value := ("b", .int 2)
    let schema (ps : Members) : Value := .obj [("properties", .obj ps)]
    ∃ v v' r r', make (schema [text, other]) .known {} none "" [low, any] = .ok v ∧
      make (schema [other, text]) .known {} none "" [any, low] = .ok v' ∧
      (v.validate (.obj [one, two])).2 = .ok r ∧ (v'.validate (.obj [two, one])).2 = .ok r' ∧
      r.report.messages.length = 2 ∧ r.isValid = r'.isValid ∧
      (r.report.messages.map Diagnostic.gist).Perm
        (r'.report.messages.map Diagnostic.gist) := by
  intro text other low any one two schema
  have hmake : make (schema [text, other]) .known {} none "" [low, any] = .ok _ := rfl
  have hmake' : make (schema [other, text]) .known {} none "" [any, low] = .ok _ := rfl
  refine ⟨_, _, _, _, hmake, hmake', rfl, rfl, rfl, ?_⟩
  have hleaf {k : String} {y : Value} (hy : y.isLeaf) : (Value.obj [(k, y)]).Distinct :=
    .of_leaves (List.nodup_singleton k) (by simp [hy])
  have hprops : (Value.obj [text, other]).Rearranged (.obj [other, text]) :=
    rearranged_swap (by decide) (hleaf rfl) (hleaf rfl)
  have hschema : (schema [text, other]).Rearranged (schema [other, text]) := by
    refine .object (by decide) (.refl _) ?_
    intro k x y hx hy
    obtain ⟨_, rfl⟩ := Prod.mk.inj (List.mem_singleton.mp (mem_of_get? hx))
    obtain ⟨_, rfl⟩ := Prod.mk.inj (List.mem_singleton.mp (mem_of_get? hy))
    exact hprops
  have hstore : (Value.obj [low, any]).Rearranged (.obj [any, low]) :=
    rearranged_swap (by decide) (hleaf rfl) .empty
  have hmark : ∀ u ∈ Members.keys [low, any], '#' ∉ u.toList := by decide +kernel
  have hplain : ∀ u ∈ Members.keys [low, any], Documents.address u = .ok u :=
    fun u hu => Documents.address_of_not_mem (hmark u hu)
  have hinj : ∀ u ∈ Members.keys [low, any], ∀ u' ∈ Members.keys [low, any],
      Documents.address u = Documents.address u' → u = u' := by
    intro u hu u' hu' h
    rw [hplain u hu, hplain u' hu'] at h
    exact Except.ok.inj h
  have hx : (Value.obj [one, two]).Rearranged (.obj [two, one]) :=
    rearranged_swap (by decide) (.leaf rfl) (.leaf rfl)
  exact validation_ignores_member_order hschema hstore hx
    (fun key _ => Documents.lastAt_of_injective (obj_obj.mp hstore) hinj key) rfl hmake hmake'
    rfl rfl

/-- Of two uris with one address the last one decides, so there the order of a store shows. -/
theorem store_order_shows :
    let any : String × Value := ("http://x/d", .obj [])
    let text : String × Value := ("http://x/d#", .obj [("type", .str "string")])
    let schema : Value := .obj [("$ref", .str "http://x/d")]
    (Value.obj [any, text]).Rearranged (.obj [text, any]) ∧
      ∃ v v' r r', make schema .known {} none "" [any, text] = .ok v ∧
        make schema .known {} none "" [text, any] = .ok v' ∧ (v.validate (.int 1)).2 = .ok r ∧
        (v'.validate (.int 1)).2 = .ok r' ∧ r.isValid = false ∧ r'.isValid = true := by
  intro any text schema
  let verdict (store : Members) : Except Fault Bool :=
    (make schema .known {} none "" store).bind fun v =>
      (v.validate (.int 1)).2.map Result.isValid
  have hrun {store : Members} {b : Bool} (h : (verdict store).toOption = some b) :
      ∃ v r, make schema .known {} none "" store = .ok v ∧ (v.validate (.int 1)).2 = .ok r ∧
        r.isValid = b := by
    have hok : verdict store = .ok b := by
      cases hv : verdict store with
      | error f => simp [hv, Except.toOption] at h
      | ok b => simpa [hv, Except.toOption] using h
    obtain ⟨v, hmake, hr⟩ := Answer.bind_ok.mp hok
    obtain ⟨r, hr, hb⟩ := Answer.map_ok.mp hr
    exact ⟨v, r, hmake, hr, hb⟩
  have hno : (verdict [any, text]).toOption = some false := by decide +kernel
  have hyes : (verdict [text, any]).toOption = some true := by decide +kernel
  obtain ⟨v, r, hmake, hr, hfails⟩ := hrun hno
  obtain ⟨v', r', hmake', hr', hholds⟩ := hrun hyes
  have htext : text.2.Distinct := .of_leaves (by decide) (by simp [isLeaf])
  exact ⟨rearranged_swap (by decide) .empty htext, v, v', r, r', hmake, hmake', hr, hr', hfails,
    hholds⟩

end Validator

end Conform
