import Conform.Proofs.Answer
import Conform.Vocabulary.Registry
import Mathlib.Data.List.Induction
import Mathlib.Data.List.Nodup

/-!
Rolls after any requests. A request is granted exactly if it is well formed, and one that is
refused leaves the roll as it was. The roll keeps one entry for each name that was granted, numbered
in the order in which the names first were, with what was granted last.
-/
namespace Conform

section
variable {α : Type} [BEq α] [LawfulBEq α]

theorem eraseDups_concat (xs : List α) (x : α) :
    (xs ++ [x]).eraseDups = if x ∈ xs then xs.eraseDups else xs.eraseDups ++ [x] := by
  rw [List.eraseDups_append]
  by_cases h : x ∈ xs <;> simp [List.removeAll, h, List.eraseDups_cons]

theorem nodup_eraseDups (xs : List α) : xs.eraseDups.Nodup := by
  induction xs using List.reverseRecOn with
  | nil => simp
  | append_singleton xs x ih =>
    rw [eraseDups_concat]
    split
    · exact ih
    · rename_i h
      have hfresh : x ∉ xs.eraseDups := mt List.mem_eraseDups.mp h
      rw [← List.concat_eq_append]
      exact ih.concat hfresh

end

theorem eraseDups_of_nodup {names : List String} (h : names.Nodup) : names.eraseDups = names := by
  induction names using List.reverseRecOn with
  | nil => rfl
  | append_singleton names name ih =>
    rw [← List.concat_eq_append, List.nodup_concat] at h
    rw [eraseDups_concat, if_neg h.1, ih h.2]

theorem Kind.parse_ok {v : Value} {k : Kind} : parse v = .ok k ↔ v = .str k.name := by
  constructor
  · intro h
    cases v with
    | str s =>
      simp only [parse, ofName?] at h
      split at h
      · rename_i found hfound
        obtain rfl := Except.ok.inj h
        have hname := List.find?_some hfound
        rw [beq_iff_eq.mp hname]
      · cases h
    | _ => cases h
  · rintro rfl
    cases k <;> rfl

namespace Vocabulary

theorem keywordName_ok {v : Value} {name : String} :
    keywordName v = .ok name ↔ v = .str name ∧ name ≠ "" := by
  cases v with
  | str s =>
    by_cases hs : s = ""
    · subst hs
      simp [keywordName]
    · simp only [keywordName, String.isEmpty_iff, hs, if_false, Except.ok.injEq, Value.str.injEq]
      exact ⟨fun h => ⟨h, h ▸ hs⟩, And.left⟩
  | _ => simp [keywordName]

theorem kindsOf_ok {vs : List Value} {ks : List Kind} :
    kindsOf vs = .ok ks ↔ vs = ks.map fun k => .str k.name := by
  induction vs generalizing ks with
  | nil => simp [kindsOf]
  | cons v vs ih =>
    simp only [kindsOf, Answer.do_ok, Answer.pure_eq_ok, Kind.parse_ok, ih, Except.ok.injEq]
    constructor
    · rintro ⟨k, rfl, ks', rfl, rfl⟩
      rfl
    · intro h
      obtain ⟨k, ks', rfl, hv, hvs⟩ := List.map_eq_cons_iff.mp h.symm
      exact ⟨k, hv.symm, ks', hvs.symm, rfl⟩

theorem applicableKinds_ok {name : String} {types : Value} {ks : List Kind} :
    applicableKinds name types = .ok ks ↔
      typeNames types = .ok (ks.map fun k => .str k.name) ∧ ks ≠ [] := by
  simp only [applicableKinds, Answer.do_ok, kindsOf_ok]
  constructor
  · rintro ⟨vs, hvs, found, rfl, h⟩
    cases found with
    | nil => cases h
    | cons k found =>
      obtain rfl := Except.ok.inj h
      exact ⟨hvs, List.cons_ne_nil k found⟩
  · rintro ⟨hnames, hne⟩
    refine ⟨_, hnames, ks, rfl, ?_⟩
    rw [if_neg (mt List.isEmpty_iff.mp hne)]
    rfl

variable {es : List Entry} {name : String} {kinds : List Kind} {b : Builder} {i : Nat}

theorem put_of_fresh (h : ∀ x ∈ es, x.name ≠ name) :
    put es name kinds b i = es ++ [⟨name, kinds, b, i⟩] := by
  induction es with
  | nil => rfl
  | cons x es ih =>
    rw [put, if_neg (h x List.mem_cons_self), ih fun y hy => h y (List.mem_cons_of_mem x hy)]
    rfl

theorem put_of_first {pre post : List Entry} {x : Entry} (hpre : ∀ y ∈ pre, y.name ≠ name)
    (hx : x.name = name) :
    put (pre ++ x :: post) name kinds b i = pre ++ ⟨name, kinds, b, x.order⟩ :: post := by
  induction pre with
  | nil => rw [List.nil_append, put, if_pos hx, List.nil_append]
  | cons y pre ih =>
    have hrest := ih fun z hz => hpre z (List.mem_cons_of_mem y hz)
    rw [List.cons_append, put, if_neg (hpre y List.mem_cons_self), hrest, List.cons_append]

end Vocabulary

namespace Request

/-- What a well-formed request asks for: a name that is not empty, type names of which each stands
for a kind, at least one of them, and a builder. -/
structure Asks (q : Request) (g : Registration) : Prop where
  name : q.name = .str g.name
  named : g.name ≠ ""
  types : Vocabulary.typeNames q.types = .ok (g.kinds.map fun k => .str k.name)
  typed : g.kinds ≠ []
  builder : q.builder = some g.builder

theorem read_ok {q : Request} {g : Registration} : q.read = .ok g ↔ q.Asks g := by
  simp only [read, Answer.do_ok, Vocabulary.keywordName_ok, Vocabulary.applicableKinds_ok]
  constructor
  · rintro ⟨name, ⟨hname, hne⟩, kinds, ⟨htypes, hkinds⟩, h⟩
    cases hb : q.builder with
    | none =>
      rw [hb] at h
      cases h
    | some b =>
      rw [hb] at h
      obtain rfl := Except.ok.inj h
      exact ⟨hname, hne, htypes, hkinds, hb⟩
  · rintro ⟨hname, hne, htypes, hkinds, hb⟩
    refine ⟨g.name, ⟨hname, hne⟩, g.kinds, ⟨htypes, hkinds⟩, ?_⟩
    rw [hb]
    rfl

/-- A request is answered with an entry for what it asks, or refused because it asks for nothing. -/
def Answered (q : Request) : Except Fault Entry → Prop
  | .ok e => q.Asks e.registration
  | .error _ => ∀ g, ¬ q.Asks g

end Request

namespace Entry

theorem request_asks {e : Entry} (hname : e.name ≠ "") (hkinds : e.kinds ≠ []) :
    e.request.Asks e.registration :=
  ⟨rfl, hname, rfl, hkinds, rfl⟩

/-- Where names are distinct, the entry of a name is found wherever it stands. -/
theorem find?_name {es : List Entry} (h : (es.map (·.name)).Nodup) {name : String} {e : Entry} :
    es.find? (·.name == name) = some e ↔ e ∈ es ∧ e.name = name := by
  constructor
  · intro hfound
    have hname := List.find?_some hfound
    exact ⟨List.mem_of_find?_eq_some hfound, beq_iff_eq.mp hname⟩
  · rintro ⟨he, rfl⟩
    have hsome : (es.find? (·.name == e.name)).isSome :=
      List.find?_isSome.mpr ⟨e, he, beq_self_eq_true e.name⟩
    obtain ⟨x, hx⟩ := Option.isSome_iff_exists.mp hsome
    have hname := List.find?_some hx
    have hsame : x = e :=
      List.inj_on_of_nodup_map h (List.mem_of_find?_eq_some hx) he (beq_iff_eq.mp hname)
    rw [hx, hsame]

end Entry

namespace Roll

variable {r : Roll} {g : Registration} {q : Request}

theorem enter_of_place {i : Nat} {s : Roll} (h : (place g.name).run r = (i, s)) :
    (enter g).run r = (⟨g.name, g.kinds, g.builder, i⟩,
      { s with entries := Vocabulary.put s.entries g.name g.kinds g.builder i }) := by
  simp only [enter, StateT.run_bind, h]
  rfl

/-- A new name is entered at the end, under the next number. -/
theorem enter_of_new (h : r.lookup g.name = none) :
    let e : Entry := ⟨g.name, g.kinds, g.builder, r.next⟩
    (enter g).run r = (e, ⟨r.entries ++ [e], r.next + 1⟩) := by
  have hfresh : ∀ x ∈ r.entries, x.name ≠ g.name := by
    simpa [lookup] using h
  have hplace : (place g.name).run r = (r.next, { r with next := r.next + 1 }) := by
    simp only [place, StateT.run_bind, StateT.run_get, h, pure_bind]
    rfl
  rw [enter_of_place hplace, Vocabulary.put_of_fresh hfresh]

/-- A name that has an entry is entered in the place of that entry, under its number. -/
theorem enter_of_known {x : Entry} (h : r.lookup g.name = some x) :
    let e : Entry := ⟨g.name, g.kinds, g.builder, x.order⟩
    ∃ pre post, r.entries = pre ++ x :: post ∧ x.name = g.name ∧ (∀ y ∈ pre, y.name ≠ g.name) ∧
      (enter g).run r = (e, ⟨pre ++ e :: post, r.next⟩) := by
  obtain ⟨hx, pre, post, hentries, hpre⟩ := List.find?_eq_some_iff_append.mp h
  have hname : x.name = g.name := beq_iff_eq.mp hx
  have hfirst : ∀ y ∈ pre, y.name ≠ g.name := by simpa using hpre
  have hplace : (place g.name).run r = (x.order, r) := by
    simp only [place, StateT.run_bind, StateT.run_get, h, pure_bind]
    rfl
  refine ⟨pre, post, hentries, hname, hfirst, ?_⟩
  rw [enter_of_place hplace, hentries, Vocabulary.put_of_first hfirst hname]

theorem submit_of_ok (h : q.read = .ok g) :
    r.submit q = (((enter g).run r).2, .ok ((enter g).run r).1) := by
  unfold submit register
  rw [h]
  rfl

theorem submit_of_error {f : Fault} (h : q.read = .error f) : r.submit q = (r, .error f) := by
  unfold submit register
  rw [h]
  rfl

/-- What a roll holds after some entries were granted, the last of them last: each name once, from
the first time on, under the number of its place, with what was granted under it last. -/
structure Records (granted : List Entry) (r : Roll) : Prop where
  names : r.entries.map (·.name) = (granted.map (·.name)).eraseDups
  orders : r.entries.map (·.order) = List.range r.next
  latest : ∀ name, r.lookup name = granted.reverse.find? (·.name == name)

theorem records_nil : Records [] {} := ⟨rfl, rfl, fun _ => rfl⟩

/-- Whatever is entered under a name is found there, and nothing else is found anew. -/
theorem lookup_enter (r : Roll) (g : Registration) (name : String) :
    ((enter g).run r).2.lookup name =
      if g.name = name then some ((enter g).run r).1 else r.lookup name := by
  cases h : r.lookup g.name with
  | none =>
    rw [enter_of_new h, lookup, List.find?_append, List.find?_singleton]
    by_cases hname : g.name = name
    · subst hname
      have hnone : r.entries.find? (·.name == g.name) = none := h
      simp [hnone]
    · simp [hname, lookup]
  | some x =>
    obtain ⟨pre, post, hentries, hx, hpre, hrun⟩ := enter_of_known h
    rw [hrun, lookup, lookup, hentries, List.find?_append, List.find?_append, List.find?_cons,
      List.find?_cons]
    by_cases hname : g.name = name
    · subst hname
      have hnone : pre.find? (·.name == g.name) = none := by simpa using hpre
      simp [hnone]
    · have hother : (g.name == name) = false := beq_false_of_ne hname
      simp [hname, hx, hother]

theorem registration_enter (r : Roll) (g : Registration) :
    ((enter g).run r).1.registration = g := by
  cases h : r.lookup g.name with
  | none =>
    rw [enter_of_new h]
    rfl
  | some x =>
    obtain ⟨_, _, _, _, _, hrun⟩ := enter_of_known h
    rw [hrun]
    rfl

/-- One registration adds what it entered to what was granted. -/
theorem records_enter {granted : List Entry} (hr : r.Records granted) (g : Registration) :
    ((enter g).run r).2.Records (granted ++ [((enter g).run r).1]) := by
  have hentered : ((enter g).run r).1.name = g.name :=
    congrArg Registration.name (registration_enter r g)
  -- what is entered is granted last, so that it hides what was granted under the name before
  have hlatest (name : String) : ((enter g).run r).2.lookup name =
      (granted ++ [((enter g).run r).1]).reverse.find? (·.name == name) := by
    rw [lookup_enter, List.reverse_concat, List.find?_cons, hentered, ← hr.latest name]
    by_cases h : g.name = name
    · rw [if_pos h, beq_iff_eq.mpr h]
    · rw [if_neg h, beq_false_of_ne h]
  have hnames : ((granted ++ [((enter g).run r).1]).map (·.name)).eraseDups =
      if g.name ∈ r.entries.map (·.name) then r.entries.map (·.name)
      else r.entries.map (·.name) ++ [g.name] := by
    have hmem : g.name ∈ granted.map (·.name) ↔ g.name ∈ r.entries.map (·.name) := by
      rw [hr.names, List.mem_eraseDups]
    rw [List.map_append, List.map_singleton, hentered, eraseDups_concat, hr.names]
    exact if_congr (hmem.trans (by rw [hr.names])) rfl rfl
  cases h : r.lookup g.name with
  | none =>
    have hnew : g.name ∉ r.entries.map (·.name) := by
      intro hmem
      obtain ⟨x, hx, hname⟩ := List.mem_map.mp hmem
      exact List.find?_eq_none.mp h x hx (beq_iff_eq.mpr hname)
    rw [if_neg hnew] at hnames
    refine ⟨?_, ?_, hlatest⟩
    · rw [hnames, enter_of_new h, List.map_append, List.map_singleton]
    · rw [enter_of_new h, List.map_append, hr.orders]
      exact List.range_succ.symm
  | some x =>
    obtain ⟨pre, post, hentries, hx, hpre, hrun⟩ := enter_of_known h
    have hknown : g.name ∈ r.entries.map (·.name) :=
      List.mem_map.mpr ⟨x, List.mem_of_find?_eq_some h, hx⟩
    rw [if_pos hknown] at hnames
    refine ⟨?_, ?_, hlatest⟩
    · rw [hnames, hrun, hentries]
      simp [hx]
    · rw [hrun, ← hr.orders, hentries]
      simp

theorem run_cons (r : Roll) (q : Request) (qs : List Request) :
    r.run (q :: qs) =
      (((r.submit q).1.run qs).1, (r.submit q).2 :: ((r.submit q).1.run qs).2) :=
  rfl

theorem answered_submit (r : Roll) (q : Request) : q.Answered (r.submit q).2 := by
  cases h : q.read with
  | error f =>
    rw [submit_of_error h]
    intro g hg
    rw [Request.read_ok.mpr hg] at h
    cases h
  | ok g =>
    rw [submit_of_ok h]
    change q.Asks ((enter g).run r).1.registration
    rw [registration_enter]
    exact Request.read_ok.mp h

/-- A request that is refused leaves the roll as it was. -/
theorem submit_refused {f : Fault} (h : (r.submit q).2 = .error f) : (r.submit q).1 = r := by
  cases hread : q.read with
  | error f => rw [submit_of_error hread]
  | ok g =>
    rw [submit_of_ok hread] at h
    cases h

/-- The entries that were granted, in the order of the answers. -/
def successes (answers : List (Except Fault Entry)) : List Entry :=
  answers.filterMap Except.toOption

theorem records_submit {granted : List Entry} (hr : r.Records granted) (q : Request) :
    (r.submit q).1.Records (granted ++ successes [(r.submit q).2]) := by
  cases h : q.read with
  | error f =>
    have hnothing : successes [(Except.error f : Except Fault Entry)] = [] := rfl
    rw [submit_of_error h, hnothing, List.append_nil]
    exact hr
  | ok g =>
    rw [submit_of_ok h]
    exact records_enter hr g

/-- By induction on the requests: what a run leaves records what was granted before and in it. -/
theorem records_run {granted : List Entry} (hr : r.Records granted) (qs : List Request) :
    (r.run qs).1.Records (granted ++ successes (r.run qs).2) := by
  induction qs generalizing r granted with
  | nil => simpa [run, successes] using hr
  | cons q qs ih =>
    have hrest := ih (records_submit hr q)
    rw [List.append_assoc, successes, successes, ← List.filterMap_append] at hrest
    rw [run_cons]
    exact hrest

theorem answered_run (r : Roll) (qs : List Request) :
    List.Forall₂ Request.Answered qs (r.run qs).2 := by
  induction qs generalizing r with
  | nil => exact .nil
  | cons q qs ih => exact .cons (answered_submit r q) (ih (r.submit q).1)

/-- What was granted can be asked for again. -/
theorem request_asks_of_granted {qs : List Request} {e : Entry}
    (h : e ∈ successes (r.run qs).2) : e.request.Asks e.registration := by
  induction qs generalizing r with
  | nil => cases h
  | cons q qs ih =>
    obtain ⟨answer, hanswer, hok⟩ := List.mem_filterMap.mp h
    rcases List.mem_cons.mp hanswer with hfirst | hlater
    · have hanswered : q.Answered answer := hfirst ▸ answered_submit r q
      cases answer with
      | error f => cases hok
      | ok found =>
        obtain rfl := Option.some.inj hok
        exact Entry.request_asks hanswered.named hanswered.typed
    · exact ih (List.mem_filterMap.mpr ⟨answer, hlater, hok⟩)

namespace Records

variable {granted : List Entry}

theorem nodup (h : r.Records granted) : (r.entries.map (·.name)).Nodup := by
  rw [h.names]
  exact nodup_eraseDups _

theorem next_eq (h : r.Records granted) : r.next = r.entries.length := by
  have hlength := congrArg List.length h.orders
  rw [List.length_map, List.length_range] at hlength
  exact hlength.symm

theorem found (h : r.Records granted) : ∀ e ∈ r.entries, r.lookup e.name = some e :=
  fun _ he => (Entry.find?_name h.nodup).mpr ⟨he, rfl⟩

/-- What is kept was granted. -/
theorem subset (h : r.Records granted) : r.entries ⊆ granted := by
  intro e he
  have hfound := h.found e he
  rw [h.latest] at hfound
  exact List.mem_reverse.mp (List.mem_of_find?_eq_some hfound)

end Records

/-- The requests of some entries, made after others, enter these entries. -/
theorem run_requests (pre : List Entry) {es : List Entry}
    (hnames : ((pre ++ es).map (·.name)).Nodup)
    (horders : es.map (·.order) = List.range' pre.length es.length)
    (hasks : ∀ e ∈ es, e.request.Asks e.registration) :
    run ⟨pre, pre.length⟩ (es.map Entry.request) =
      (⟨pre ++ es, (pre ++ es).length⟩, es.map .ok) := by
  -- each step moves the first of the entries to the end of those that are entered
  induction es generalizing pre with
  | nil => simp [run]
  | cons e es ih =>
    rw [List.map_cons, List.length_cons, List.range'_succ] at horders
    obtain ⟨horder, horders⟩ := List.cons.inj horders
    have hread : e.request.read = .ok e.registration :=
      Request.read_ok.mpr (hasks e List.mem_cons_self)
    have hnew : lookup ⟨pre, pre.length⟩ e.registration.name = none := by
      rw [List.map_append, List.nodup_append] at hnames
      apply List.find?_eq_none.mpr
      intro x hx hname
      exact hnames.2.2 x.name (List.mem_map_of_mem hx) e.name (by simp) (beq_iff_eq.mp hname)
    have hsubmit : submit ⟨pre, pre.length⟩ e.request =
        (⟨pre ++ [e], (pre ++ [e]).length⟩, .ok e) := by
      rw [submit_of_ok hread, enter_of_new hnew, List.length_append, ← horder]
      rfl
    have hrest : run ⟨pre ++ [e], (pre ++ [e]).length⟩ (es.map Entry.request) =
        (⟨pre ++ [e] ++ es, (pre ++ [e] ++ es).length⟩, es.map .ok) := by
      apply ih
      · rw [List.append_assoc]
        exact hnames
      · rw [horders, List.length_append, List.length_singleton]
      · exact fun x hx => hasks x (List.mem_cons_of_mem e hx)
    rw [List.map_cons, run_cons, hsubmit, hrest, List.append_assoc]
    rfl

end Roll

namespace Vocabulary

/-- Every known keyword can be asked for. -/
theorem asks_insertKnown (only : Option (List String)) :
    ∀ e ∈ (insertKnown {} only).entries, e.request.Asks e.registration := by
  apply forall_insertKnown
  intro k _ place
  have hname : k.name ≠ "" := by cases k <;> decide
  have hkinds : k.kinds ≠ [] := by cases k <;> decide
  exact Entry.request_asks hname hkinds

end Vocabulary

namespace Roll

/-- A roll as some requests leave it that were made since it was empty. -/
def Reached (r : Roll) : Prop := ∃ qs, r = (run {} qs).1

variable {r : Roll}

theorem Reached.records (h : r.Reached) : ∃ granted, r.Records granted := by
  obtain ⟨qs, rfl⟩ := h
  exact ⟨successes (run {} qs).2, records_run records_nil qs⟩

/-- The entries of a reached roll can be asked for again. -/
theorem Reached.asks (h : r.Reached) : ∀ e ∈ r.entries, e.request.Asks e.registration := by
  obtain ⟨qs, rfl⟩ := h
  intro e he
  have hgranted := (records_run records_nil qs).subset he
  rw [List.nil_append] at hgranted
  exact request_asks_of_granted hgranted

/-- Made to an empty roll, the requests of all its entries give a reached roll again. -/
theorem Reached.run_requests (h : r.Reached) :
    run {} (r.entries.map Entry.request) = (r, r.entries.map .ok) := by
  obtain ⟨granted, hr⟩ := h.records
  have horders : r.entries.map (·.order) = List.range' 0 r.entries.length := by
    rw [hr.orders, hr.next_eq, List.range_eq_range']
  have hrun := Roll.run_requests [] hr.nodup horders h.asks
  rw [List.nil_append, ← hr.next_eq] at hrun
  exact hrun

theorem foldl_enter {es : List Entry} (h : ∀ e ∈ es, e.request.Asks e.registration) (r : Roll) :
    es.foldl (fun r e => ((enter e.registration).run r).2) r =
      (r.run (es.map Entry.request)).1 := by
  induction es generalizing r with
  | nil => rfl
  | cons e es ih =>
    have hread : e.request.read = .ok e.registration :=
      Request.read_ok.mpr (h e List.mem_cons_self)
    have hsubmit : (r.submit e.request).1 = ((enter e.registration).run r).2 := by
      rw [submit_of_ok hread]
    rw [List.foldl_cons, List.map_cons, run_cons, hsubmit]
    exact ih (fun x hx => h x (List.mem_cons_of_mem e hx)) _

/-- Inserting the known keywords is making the request of each. -/
theorem insertKnown_eq_run (r : Roll) (only : Option (List String)) :
    r.insertKnown only =
      (r.run ((Vocabulary.insertKnown {} only).entries.map Entry.request)).1 :=
  foldl_enter (Vocabulary.asks_insertKnown only) r

/-- The known keywords make the same roll as their vocabulary. -/
theorem known_eq : known = (Vocabulary.known : Roll) := by
  have hnames : (Vocabulary.known.entries.map (·.name)).Nodup := by decide
  have horders : Vocabulary.known.entries.map (·.order) =
      List.range' 0 Vocabulary.known.entries.length := by decide
  have hrun := Roll.run_requests [] hnames horders (Vocabulary.asks_insertKnown none)
  exact (insertKnown_eq_run {} none).trans (congrArg Prod.fst hrun)

theorem run_append (r : Roll) (qs ps : List Request) :
    (r.run (qs ++ ps)).1 = ((r.run qs).1.run ps).1 := by
  induction qs generalizing r with
  | nil => rfl
  | cons q qs ih => exact ih (r.submit q).1

theorem Reached.run (h : r.Reached) (qs : List Request) : (r.run qs).1.Reached := by
  obtain ⟨ps, rfl⟩ := h
  exact ⟨ps ++ qs, (run_append {} ps qs).symm⟩

end Roll

end Conform
