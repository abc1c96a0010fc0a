import Conform.Proofs.Composition
import Conform.Proofs.Correspondence
import Conform.Proofs.Rearranged
import Conform.Proofs.Unpooled

/-!
Judging elsewhere. A relocation says which paths of values and which places of nodes stand for each
other. Related sites ask for the same and find the same, up to where things stand: each test, each
logic, each checker and the dispatch of a site keep this, if the builders of the vocabulary do.
-/
namespace Conform

/-- Which paths and which places stand for each other. Going on from them by the same steps leads
to such again; paths are told apart on both sides alike; and places are in the same document, as
what a reference leads to is the same on both sides. -/
structure Relocation where
  path : Pointer → Pointer → Prop
  place : Location → Location → Prop
  path_append : ∀ {p q : Pointer}, path p q → ∀ ts, path (p.append ts) (q.append ts)
  path_unique : ∀ {p q p' q' : Pointer}, path p q → path p' q' → (p = p' ↔ q = q')
  place_append : ∀ {l m : Location}, place l m → ∀ ts, place (l.append ts) (m.append ts)
  place_refl : ∀ l, place l l
  place_uri : ∀ {l m : Location}, place l m → l.uri = m.uri

variable {T : Relocation}

/-- Sites that differ in where they are, and in where references were followed. -/
inductive Site.Moved (T : Relocation) : Site → Site → Prop
  | mk {schema value : Value} {p q : Pointer} {l m : Location}
      {trail trail' : List (Location × Pointer)} {pooled : Bool} (hpath : T.path p q)
      (hplace : T.place l m)
      (htrail : List.Forall₂ (fun a b => a.1 = b.1 ∧ T.path a.2 b.2) trail trail') :
      Moved T ⟨schema, value, p, l, trail, pooled⟩ ⟨schema, value, q, m, trail', pooled⟩

/-- Diagnostics that differ in where they stand. -/
inductive Diagnostic.Moved (T : Relocation) : Diagnostic → Diagnostic → Prop
  | mk {level : Severity} {message : String} {p q : Pointer} {keyword : Option String}
      {l m : Option Location} {domain : Domain} {details : Members} (hpath : T.path p q)
      (hplace : Option.Rel T.place l m) :
      Moved T ⟨level, message, p, keyword, l, domain, details⟩
        ⟨level, message, q, keyword, m, domain, details⟩

/-- The same messages in the same order up to where they stand, and the same verdict. -/
structure Outcome.Moved (T : Relocation) (a b : Outcome) : Prop where
  messages : List.Forall₂ (Diagnostic.Moved T) a.messages b.messages
  verdict : a.verdict = b.verdict

def Judge.Moves (T : Relocation) (J : Judge) : Prop :=
  ∀ s t, Site.Moved T s t → (J s).outcome.Moved T (J t).outcome

namespace Site.Moved

variable {s t : Site} (h : s.Moved T t)

include h

theorem schema : s.schema = t.schema := by
  cases h
  rfl

theorem value : s.value = t.value := by
  cases h
  rfl

theorem kind : s.kind = t.kind := by
  cases h
  rfl

theorem pooled : s.pooled = t.pooled := by
  cases h
  rfl

theorem node (hs : s.schema.IsSchema) : s.node = t.node := by
  cases h
  obtain ⟨ms, hms⟩ := hs
  obtain rfl := hms
  rfl

theorem diagnostic (message : String) (keyword : Option String) (details : Members)
    (level : Severity) (domain : Domain) :
    (s.diagnostic message keyword details level domain).Moved T
      (t.diagnostic message keyword details level domain) := by
  cases h with
  | mk hpath hplace _ => exact .mk hpath (.some hplace)

theorem child (schema value : Value) (token : Token) (steps : List Token) :
    (s.child schema value token steps).Moved T (t.child schema value token steps) := by
  cases h with
  | mk hpath hplace _ => exact .mk (T.path_append hpath _) (T.place_append hplace _) .nil

theorem under (schema : Value) (steps : List Token) :
    (s.under schema (s.location.append steps)).Moved T
      (t.under schema (t.location.append steps)) := by
  cases h with
  | mk hpath hplace htrail => exact .mk hpath (T.place_append hplace _) htrail

/-- Following a reference leads to the same place on both sides. -/
theorem follow (schema : Value) (l : Location) :
    (s.follow schema l).Moved T (t.follow schema l) := by
  cases h with
  | mk hpath _ htrail =>
    exact .mk hpath (T.place_refl l) (List.rel_append htrail (.cons ⟨rfl, hpath⟩ .nil))

theorem scratch (schema : Value) {l m : Location} (hlm : T.place l m) :
    (s.scratch schema l).Moved T (t.scratch schema m) := by
  cases h with
  | mk hpath _ htrail => exact .mk hpath hlm htrail

theorem partLocation (keyword : String) (p : Part) :
    T.place (Logic.partLocation s keyword p) (Logic.partLocation t keyword p) := by
  cases h with
  | mk _ hplace _ => exact T.place_append hplace _

/-- The same references were followed on both sides, and at the same value alike. -/
theorem trail_here :
    s.trail.map (fun r => (r.1, r.2 == s.path)) = t.trail.map fun r => (r.1, r.2 == t.path) := by
  cases h with
  | @mk _ _ p q _ _ _ _ _ hpath _ htrail =>
    rw [← List.forall₂_eq_eq_eq, List.forall₂_map_left_iff, List.forall₂_map_right_iff]
    refine htrail.imp fun a b hab => ?_
    have hsame : (a.2 == p) = (b.2 == q) := by
      rw [Bool.eq_iff_iff, beq_iff_eq, beq_iff_eq, T.path_unique hab.2 hpath]
    exact Prod.ext hab.1 hsame

/-- A reference returns on one side exactly if it does on the other one. -/
theorem contains_trail (l : Location) :
    s.trail.contains (l, s.path) = t.trail.contains (l, t.path) := by
  have hhere (s : Site) : s.trail.contains (l, s.path) =
      (s.trail.map fun r => (r.1, r.2 == s.path)).contains (l, true) := by
    rw [Bool.eq_iff_iff]
    simp
  rw [hhere s, h.trail_here, ← hhere t]

/-- The references followed at the value are the same. -/
theorem visited :
    (s.trail.filter (·.2 == s.path)).map (fun r => Value.str r.1.text) =
      (t.trail.filter (·.2 == t.path)).map fun r => Value.str r.1.text := by
  have hhere (s : Site) : (s.trail.filter (·.2 == s.path)).map (fun r => Value.str r.1.text) =
      ((s.trail.map fun r => (r.1, r.2 == s.path)).filter (·.2)).map fun r => .str r.1.text := by
    rw [List.filter_map, List.map_map]
    rfl
  rw [hhere s, h.trail_here, ← hhere t]

end Site.Moved

/-- Things that move correspond. -/
theorem Site.Moved.corresponds {s t : Site} (h : s.Moved T t) :
    s.Corresponds (Diagnostic.Moved T) t :=
  ⟨h.value, h.diagnostic⟩

theorem Outcome.moved_iff {a b : Outcome} : a.Moved T b ↔ a.Corresponds (Diagnostic.Moved T) b :=
  ⟨fun h => ⟨h.messages, h.verdict⟩, fun h => ⟨h.messages, h.verdict⟩⟩

/-- What a site is told and answered is the same up to where things stand. -/
def TellsMoved (T : Relocation) (answer answer' : Site → List Diagnostic × Except Fault Value) :
    Prop :=
  ∀ s t, Site.Moved T s t →
    List.Forall₂ (Diagnostic.Moved T) (answer s).1 (answer' t).1 ∧ (answer s).2 = (answer' t).2

/-- The same logic, or two that tell related sites the same. -/
inductive Logic.Moved (T : Relocation) : Logic → Logic → Prop
  | same {l : Logic} (h : ∀ answer, l ≠ .told answer) : Moved T l l
  | told {answer answer' : Site → List Diagnostic × Except Fault Value}
      (h : TellsMoved T answer answer') : Moved T (.told answer) (.told answer')

mutual

/-- Checkers that ask the same of related sites. -/
inductive Checker.Moved (T : Relocation) : Checker → Checker → Prop
  | always : Checker.Moved T .always .always
  | never {d d' : Option Diagnostic} (h : Option.Rel (Diagnostic.Moved T) d d') :
      Checker.Moved T (.never d) (.never d')
  | single {keyword : String} {l l' : Logic} {s t : Site} (hl : l.Moved T l') (hs : s.Moved T t) :
      Checker.Moved T (.single keyword l s) (.single keyword l' t)
  | all {cs ds : List Checker} (h : Checker.AllMoved T cs ds) : Checker.Moved T (.all cs) (.all ds)
  | container {kind : Kind} {c d : Checker} {s t : Site} (h : Checker.Moved T c d)
      (hs : s.Moved T t) (hnode : s.schema.IsSchema) :
      Checker.Moved T (.container kind c s) (.container kind d t)
  | stray {typeName : String} : Checker.Moved T (.stray typeName) (.stray typeName)

inductive Checker.AllMoved (T : Relocation) : List Checker → List Checker → Prop
  | nil : Checker.AllMoved T [] []
  | cons {c d : Checker} {cs ds : List Checker} (h : Checker.Moved T c d)
      (hs : Checker.AllMoved T cs ds) : Checker.AllMoved T (c :: cs) (d :: ds)

end

inductive Built.Moved (T : Relocation) : Built → Built → Prop
  | checker {c d : Checker} (h : c.Moved T d) : Moved T (.checker c) (.checker d)
  | logic {l l' : Logic} (h : l.Moved T l') : Moved T (.logic l) (.logic l')
  | plain {typeName : String} : Moved T (.plain typeName) (.plain typeName)

/-- A builder that makes the same of a node wherever it stands. -/
def Builder.Moves (T : Relocation) (b : Builder) : Prop :=
  ∀ s t, Site.Moved T s t → s.schema.IsSchema → Answer.Rel (Built.Moved T) (b s).2 (b t).2

namespace Logic

variable {e : Setting} {J : Judge} {s t : Site}

variable (hJ : J.Uniform) (hmoves : J.Moves T) (h : s.Moved T t)

include hJ hmoves h

theorem moved_types (keyword : String) (names : List String) (parts : List Part)
    (negated : Bool) : (judgeTypes J keyword names parts negated s).outcome.Moved T
      (judgeTypes J keyword names parts negated t).outcome := by
  apply Outcome.moved_iff.mpr
  apply corresponds_types h.corresponds hJ
  intro p _
  exact Outcome.moved_iff.mp (hmoves _ _ (h.scratch p.schema (h.partLocation keyword p)))

theorem moved_parts (keyword : String) (parts : List Part) :
    (judgeParts J keyword parts s).outcome.Moved T (judgeParts J keyword parts t).outcome := by
  apply Outcome.moved_iff.mpr
  apply corresponds_parts hJ
  intro p _
  exact Outcome.moved_iff.mp (hmoves _ _ (h.under p.schema _))

theorem moved_dependencies (required : List (String × List String))
    (schemas : List (String × Value)) :
    (judgeDependencies J required schemas s).outcome.Moved T
      (judgeDependencies J required schemas t).outcome := by
  apply Outcome.moved_iff.mpr
  apply corresponds_dependencies h.corresponds hJ
  intro d _
  exact Outcome.moved_iff.mp (hmoves _ _ (h.under d.2 _))

omit hJ hmoves in
theorem looping_moved (ref : String) : (looping s ref).Moved T (looping t ref) := by
  unfold looping
  rw [h.visited]
  exact h.diagnostic ..

omit hJ in
theorem moved_reference (ref : String) :
    (judgeReference e J ref s).outcome.Moved T (judgeReference e J ref t).outcome := by
  have hresolve : e.documents.resolve (.str ref) s.location =
      e.documents.resolve (.str ref) t.location := by
    cases h with
    | mk _ hplace _ => rw [resolve_uri, T.place_uri hplace, ← resolve_uri]
  apply Outcome.moved_iff.mpr
  apply corresponds_reference h.corresponds hresolve h.contains_trail (looping_moved h ref)
  intro l target _
  exact Outcome.moved_iff.mp (hmoves _ _ (h.follow target l))

omit hJ hmoves h in
theorem exists_told_onto (keyword : String) (x : Except Fault Value) : ∃ verdict, ∀ ms j,
    judgeTold keyword (ms, x) j = Outcome.onto ⟨[], ms, verdict⟩ j := by
  cases x with
  | error f => exact ⟨.error f, fun _ _ => rfl⟩
  | ok v => cases v with
    | bool b => exact ⟨.ok b, fun _ _ => rfl⟩
    | _ => exact ⟨.error (.notVerdict keyword _), fun _ _ => rfl⟩

omit hJ hmoves in
theorem moved_told (keyword : String) {answer answer' : Site → List Diagnostic × Except Fault Value}
    (ha : TellsMoved T answer answer') :
    (judgeTold keyword (answer s)).outcome.Moved T (judgeTold keyword (answer' t)).outcome := by
  obtain ⟨hmessages, hanswer⟩ := ha s t h
  -- what is no truth value is a fault of the keyword, whatever was said beside it
  obtain ⟨verdict, htold⟩ := exists_told_onto keyword (answer s).2
  have hs := Step.outcome_eq (htold (answer s).1)
  have ht := Step.outcome_eq (htold (answer' t).1)
  rw [hanswer] at ht
  rw [hs, ht]
  exact ⟨hmessages, rfl⟩

theorem moved_run {keyword : String} {l l' : Logic} (hl : l.Moved T l') :
    (l.run e J keyword s).outcome.Moved T (l'.run e J keyword t).outcome := by
  cases hl with
  | told ha => exact moved_told h keyword ha
  | same hl =>
    cases l with
    | test test => exact Outcome.moved_iff.mpr (corresponds_test h.corresponds test)
    | unknownFormat name =>
      exact Outcome.moved_iff.mpr (corresponds_unknownFormat h.corresponds keyword name)
    | types keyword names parts negated =>
      exact moved_types hJ hmoves h keyword names parts negated
    | extending parts => exact moved_parts hJ hmoves h "extends" parts
    | dependencies required schemas => exact moved_dependencies hJ hmoves h required schemas
    | reference ref => exact moved_reference hmoves h ref
    | told answer => exact absurd rfl (hl answer)

end Logic

namespace Checker

variable {e : Setting} {J : Judge} {s t : Site}

theorem moved_children (hJ : J.Uniform) (hmoves : J.Moves T) (h : s.Moved T t)
    (hs : s.schema.IsSchema) (kind : Kind) :
    (runChildren e J kind s).outcome.Moved T (runChildren e J kind t).outcome := by
  have hsame : Job.ofSite kind s = Job.ofSite kind t := by
    rw [Job.ofSite, Job.ofSite, h.node hs, h.value]
  apply Outcome.moved_iff.mpr
  apply corresponds_children hJ hsame h.pooled
  intro jobs _ j _
  exact Outcome.moved_iff.mp (hmoves _ _ (h.child ..))

mutual

theorem corresponds_run (hJ : J.Uniform) (hmoves : J.Moves T) : ∀ {c d : Checker}, c.Moved T d →
    (run e J c).outcome.Corresponds (Diagnostic.Moved T) (run e J d).outcome
  | _, _, .always => Step.corresponds_same (by simp [run])
  | _, _, .never .none => Step.corresponds_same (by simp [run])
  | _, _, .never (.some hd) => Step.corresponds_fail hd
  | _, _, .single hl hs => Outcome.moved_iff.mp (Logic.moved_run hJ hmoves hs hl)
  | _, _, .all h => corresponds_runAll hJ hmoves h
  | _, _, @Moved.container _ _ c d _ _ h hs hnode => by
    rw [run, run, Step.outcome_both (uniform_run e hJ c) (uniform_runChildren e hJ _ _),
      Step.outcome_both (uniform_run e hJ d) (uniform_runChildren e hJ _ _)]
    exact (corresponds_run hJ hmoves h).andThen
      (Outcome.moved_iff.mp (moved_children hJ hmoves hs hnode _))
  | _, _, .stray => Step.corresponds_same (by simp [run])

theorem corresponds_runAll (hJ : J.Uniform) (hmoves : J.Moves T) : ∀ {cs ds : List Checker},
    AllMoved T cs ds →
      (runAll e J cs).outcome.Corresponds (Diagnostic.Moved T) (runAll e J ds).outcome
  | _, _, .nil => Step.corresponds_same (by simp [runAll])
  | _, _, @AllMoved.cons _ c d cs ds h hs => by
    rw [runAll, runAll, Step.outcome_both (uniform_run e hJ c) (uniform_runAll e hJ cs),
      Step.outcome_both (uniform_run e hJ d) (uniform_runAll e hJ ds)]
    exact (corresponds_run hJ hmoves h).andThen (corresponds_runAll hJ hmoves hs)

end

theorem moved_ofBuilt (hst : s.Moved T t) {b b' : Built} (h : b.Moved T b') (keyword : String) :
    Answer.Rel (Checker.Moved T) (ofBuilt keyword s b) (ofBuilt keyword t b') := by
  cases h with
  | checker h => cases h with
    | stray => exact .error _
    | always => exact .ok .always
    | never h => exact .ok (.never h)
    | single hl hs => exact .ok (.single hl hs)
    | all h => exact .ok (.all h)
    | container h hs hnode => exact .ok (.container h hs hnode)
  | logic hl => exact .ok (.single hl hst)
  | plain => exact .error _

theorem allMoved_iff {cs ds : List Checker} :
    AllMoved T cs ds ↔ List.Forall₂ (Checker.Moved T) cs ds := by
  constructor
  · intro h
    induction cs generalizing ds with
    | nil => cases h; exact .nil
    | cons c cs ih => cases h with
      | cons h hs => exact .cons h (ih hs)
  · intro h
    induction h with
    | nil => exact .nil
    | cons h _ ih => exact .cons h ih

theorem moved_allOf {cs ds : List Checker} (h : List.Forall₂ (Checker.Moved T) cs ds) :
    (allOf cs).Moved T (allOf ds) := by
  match h with
  | .nil => exact .always
  | .cons h .nil => exact h
  | .cons h (.cons h' hs) => exact .all (allMoved_iff.mpr (.cons h (.cons h' hs)))

theorem moved_wrap (hst : s.Moved T t) (hs : s.schema.IsSchema) {c d : Checker} (h : c.Moved T d)
    (kind : Kind) : (wrap s kind c).Moved T (wrap t kind d) := by
  cases kind with
  | array | object => exact .container h hst hs
  | _ => exact h

theorem moved_unusable (hst : s.Moved T t) (keyword : Option String) (f : Fault) :
    (unusable s keyword f).1.Moved T (unusable t keyword f).1 :=
  .never (.some (hst.diagnostic ..))

/-- Builders that make the same wherever a node stands fail at the same keyword, or all succeed. -/
theorem moved_build {es : List Entry} (h : ∀ x ∈ es, x.builder.Moves T) (hst : s.Moved T t)
    (hs : s.schema.IsSchema) :
    Answer.Rel (List.Forall₂ (Checker.Moved T)) (build s es).2 (build t es).2 := by
  apply build_rel
  intro x hx
  exact (h x hx s t hst hs).bind fun b b' hb => moved_ofBuilt hst hb x.name

theorem moved_forSite {v : Vocabulary} (hv : ∀ x ∈ v.entries, x.builder.Moves T)
    (hst : s.Moved T t) : Answer.Rel (Checker.Moved T) (forSite v s).2 (forSite v t).2 := by
  by_cases hnode : ∃ node kind, s.schema = .obj node ∧ node ≠ [] ∧ s.kind = .ok kind
  · obtain ⟨node, kind, hs, hne, hk⟩ := hnode
    have hentries : ∀ x ∈ v.applicable (Members.keys node) kind, x.builder.Moves T :=
      fun x hx => hv x (List.mem_filter.mp hx).1
    have hbuild := moved_build hentries hst ⟨node, hs⟩
    rw [forSite_snd v hs hne hk, forSite_snd v (hst.schema ▸ hs) hne (hst.kind ▸ hk)]
    generalize (build s (v.applicable (Members.keys node) kind)).2 = x,
      (build t (v.applicable (Members.keys node) kind)).2 = y at hbuild
    cases hbuild with
    | error p => exact .ok (moved_unusable hst ..)
    | ok h => exact .ok (moved_wrap hst ⟨node, hs⟩ (moved_allOf h) kind)
  · -- nothing is built: there is nothing to ask, or no node, or no kind
    unfold forSite
    rw [← hst.schema, ← hst.kind]
    split
    · exact .ok .always
    · rename_i node hne hs
      cases hk : s.kind with
      | error f => exact .error f
      | ok kind => exact absurd ⟨node, kind, hs, hne, hk⟩ hnode
    · exact .ok (moved_unusable hst ..)

end Checker

/-- The known keywords make the same of a node wherever it stands. -/
theorem Keyword.builder_moves (k : Keyword) : k.builder.Moves T := by
  intro s t hst hs
  rw [builder_snd, builder_snd, hst.node hs]
  cases hb : t.node.bind k.build with
  | error f => exact .error f
  | ok b =>
    obtain ⟨node, _, hb⟩ := Answer.bind_ok.mp hb
    cases makes_of_build hb with
    | always => exact .ok (.checker .always)
    | _ => exact .ok (.logic (.same fun _ h => nomatch h))

/-- A keyword of one's own whose logic tells related sites the same. -/
theorem Builder.moves_told {notes : List Note} {answer : Site → List Diagnostic × Except Fault Value}
    (h : TellsMoved T answer answer) :
    Builder.Moves T fun _ => (notes, .ok (.logic (.told answer))) :=
  fun _ _ _ _ => .ok (.logic (.told h))

/-- The known vocabulary, with any further builders that make the same wherever a node stands. -/
theorem Vocabulary.moves_of_known {v : Vocabulary}
    (h : ∀ x ∈ v.entries, x ∈ known.entries ∨ x.builder.Moves T) :
    ∀ x ∈ v.entries, x.builder.Moves T := by
  intro x hx
  rcases h x hx with hknown | hmoves
  · rw [Keyword.known_entries] at hknown
    obtain ⟨⟨k, i⟩, _, rfl⟩ := List.mem_map.mp hknown
    exact k.builder_moves
  · exact hmoves

namespace Setting

variable {e : Setting}

theorem moves_round (hv : ∀ x ∈ e.vocabulary.entries, x.builder.Moves T) {J : Judge}
    (hJ : J.Uniform) (hmoves : J.Moves T) : Judge.Moves T (e.round J) := by
  intro s t hst
  apply Outcome.moved_iff.mpr
  apply corresponds_round hJ
  exact (Checker.moved_forSite hv hst).imp fun c d h => Checker.corresponds_run hJ hmoves h

/-- Judging comes to the same at related sites, however deep it may go. -/
theorem moves_judge (hv : ∀ x ∈ e.vocabulary.entries, x.builder.Moves T) (fuel : Nat) :
    Judge.Moves T (e.judge fuel) := by
  -- on the fuel: a round keeps what its judge keeps
  induction fuel with
  | zero => exact fun _ _ _ => Outcome.moved_iff.mpr (Step.corresponds_same (by simp [judge]))
  | succ fuel ih => exact moves_round hv (uniform_judge e fuel) ih

theorem moves_judgeSite (hv : ∀ x ∈ e.vocabulary.entries, x.builder.Moves T) :
    Judge.Moves T e.judgeSite := by
  intro s t hst
  -- the fuel is reckoned from the sizes of schema and value, not from where they stand
  have hfuel : e.fuelFor s = e.fuelFor t := by
    cases hst
    rfl
  unfold judgeSite
  rw [hfuel]
  exact moves_judge hv _ s t hst

end Setting

end Conform
