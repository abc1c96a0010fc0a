import Conform.Log.Setup
import Conform.Proofs.Checking

/-!
The intended configurations. The check accepts a configuration exactly if it has just the leaves
that are wanted of it, each with a value that is fit; then the engine takes its options from it as
they stand, and logging can be set up as it says.
-/
namespace Conform

/-- A value of a document, with integers that are short enough to be written. -/
inductive Value.IsDocument : Value → Prop
  | null : IsDocument .null
  | bool (b : Bool) : IsDocument (.bool b)
  | int {n : Int} (h : (Value.int n).isWritable) : IsDocument (.int n)
  | real {x : Real} (h : x.isFinite) : IsDocument (.real x)
  | str (s : String) : IsDocument (.str s)
  | list {xs : List Value} (h : ∀ x ∈ xs, IsDocument x) : IsDocument (.arr xs)
  | object {ms : Members} (hn : (Members.keys ms).Nodup) (h : ∀ m ∈ ms, IsDocument m.2) :
      IsDocument (.obj ms)

namespace Value.IsDocument

variable {v : Value}

theorem distinct (h : v.IsDocument) : v.Distinct := by
  induction h with
  | list _ ih => exact .list ih
  | object hn _ ih => exact .object hn ih
  | _ => exact .leaf rfl

theorem exists_kind (h : v.IsDocument) : ∃ kind, Kind.of? v = some kind := by
  cases h with
  | real h => exact ⟨.number, if_pos h⟩
  | _ => exact ⟨_, rfl⟩

theorem isWritable (h : v.IsDocument) : v.isWritable := by
  induction h with
  | int h => exact h
  | list _ ih => exact isWritable_arr.mpr ih
  | object _ _ ih => exact isWritable_obj.mpr ih
  | _ => rfl

/-- What a name finds in a document is a document. -/
theorem of_get? {ms : Members} (h : (Value.obj ms).IsDocument) {k : String}
    (hv : ms.get? k = some v) : v.IsDocument := by
  cases h with
  | object _ h => exact h _ (mem_of_get? hv)

end Value.IsDocument

namespace Config

/-- The leaves of a configuration. -/
structure Leaves where
  version : Int
  options : Options
  logLevel : String
  logFormat : String
  logFile : String
  logToStderr : Bool

namespace Leaves

/-- The configuration with some leaves. -/
def members (l : Leaves) : Members :=
  [("meta", .obj [("schema_version", .int l.version)]),
    ("engine", .obj [("max_workers", .int l.options.maxWorkers),
      ("parallel_min_children", .int l.options.parallelMinChildren),
      ("suppress_repeated_schema_faults", .bool l.options.collapseRepeats),
      ("report_log_level", .str l.options.reportLevel.name)]),
    ("observability", .obj [("log_level", .str l.logLevel), ("log_format", .str l.logFormat),
      ("log_file", .str l.logFile), ("log_to_stderr", .bool l.logToStderr)])]

/-- Whether every leaf has a value that is fit for it. -/
structure Fit (l : Leaves) : Prop where
  version : 1 ≤ l.version
  maxWorkers : 1 ≤ l.options.maxWorkers ∧ l.options.maxWorkers ≤ Options.workerLimit
  parallelMinChildren : 1 ≤ l.options.parallelMinChildren
  logLevel : l.logLevel ∈ ["DEBUG", "INFO", "WARNING", "ERROR", "CRITICAL"]
  logFormat : l.logFormat ∈ ["json", "text"]

end Leaves

/-- Whether a configuration of the supported version has just these leaves, in any order. -/
structure Leaves.Describes (l : Leaves) (c : Members) : Prop where
  fit : l.Fit
  version : l.version = Config.version
  members : (Value.obj l.members).Rearranged (.obj c)

/-- Whether a configuration has just the sections and leaves that are wanted of it, all fit. -/
def Intended (c : Members) : Prop := ∃ l : Leaves, l.Describes c

section
variable {c : Members} {l : Leaves}

theorem exists_severity {word : String} (h : word ∈ Severity.all.map Severity.name) :
    ∃ level : Severity, word = level.name := by
  obtain ⟨level, _, rfl⟩ := List.mem_map.mp h
  exact ⟨level, rfl⟩

/-- The members of some fields, given by the fields in their order. -/
theorem rearranged_of_forall₂ {ms ns ns' : Members} (hn : (Members.keys ms).Nodup)
    (hperm : ns.Perm ns')
    (h : List.Forall₂ (fun a b => a.1 = b.1 ∧ Value.Rearranged a.2 b.2) ms ns') :
    (Value.obj ms).Rearranged (.obj ns) :=
  Members.rearranged_iff_fills.mpr ⟨hn, ns', hperm, h⟩

/-- The first of some members that stand in the order of their names. -/
theorem forall₂_named {α : Type} {P : α → Value → Prop} {k : String} {a : α}
    {fields : List (String × α)} {ns : Members}
    (h : List.Forall₂ (fun (f : String × α) (m : String × Value) => f.1 = m.1 ∧ P f.2 m.2)
      ((k, a) :: fields) ns) :
    ∃ x ns', ns = (k, x) :: ns' ∧ P a x ∧
      List.Forall₂ (fun (f : String × α) (m : String × Value) => f.1 = m.1 ∧ P f.2 m.2)
        fields ns' := by
  cases h with
  | @cons _ m _ ns' hm h =>
    obtain ⟨name, x⟩ := m
    obtain ⟨rfl, hx⟩ := hm
    exact ⟨x, ns', rfl, hx, h⟩

/-- Whatever complies has leaves that are fit. -/
theorem exists_leaves (h : Complies c) :
    ∃ l : Leaves, l.Fit ∧ (Value.obj l.members).Rearranged (.obj c) := by
  obtain ⟨ns, hperm, hmeta⟩ := h
  -- the three sections
  obtain ⟨_, _, rfl, ⟨ms₁, rfl, ns₁, hperm₁, hversion⟩, hengine⟩ := forall₂_named hmeta
  obtain ⟨_, _, rfl, ⟨ms₂, rfl, ns₂, hperm₂, hworkers⟩, hlogging⟩ := forall₂_named hengine
  obtain ⟨_, _, rfl, ⟨ms₃, rfl, ns₃, hperm₃, hlevel⟩, hend⟩ := forall₂_named hlogging
  cases hend
  -- the leaves of each
  obtain ⟨_, _, rfl, ⟨v, rfl, hv, _⟩, hend₁⟩ := forall₂_named hversion
  cases hend₁
  obtain ⟨_, _, rfl, ⟨w, rfl, hw, hlimit⟩, hchildren⟩ := forall₂_named hworkers
  obtain ⟨_, _, rfl, ⟨p, rfl, hp, _⟩, hcollapse⟩ := forall₂_named hchildren
  obtain ⟨_, _, rfl, ⟨b, rfl⟩, hreport⟩ := forall₂_named hcollapse
  obtain ⟨_, _, rfl, ⟨word, hword, rfl⟩, hend₂⟩ := forall₂_named hreport
  cases hend₂
  obtain ⟨_, _, rfl, ⟨level, hlog, rfl⟩, hformat⟩ := forall₂_named hlevel
  obtain ⟨_, _, rfl, ⟨format, hform, rfl⟩, hfile⟩ := forall₂_named hformat
  obtain ⟨_, _, rfl, ⟨file, rfl⟩, hstderr⟩ := forall₂_named hfile
  obtain ⟨_, _, rfl, ⟨toStderr, rfl⟩, hend₃⟩ := forall₂_named hstderr
  cases hend₃
  obtain ⟨severity, rfl⟩ := exists_severity hword
  have hnat : ((w.toNat : Nat) : Int) = w := Int.toNat_of_nonneg (by omega)
  have hnat' : ((p.toNat : Nat) : Int) = p := Int.toNat_of_nonneg (by omega)
  have hw' := hlimit _ rfl
  have hleaf {x : Value} (hx : x.isLeaf) : x.Rearranged x := .leaf hx
  refine ⟨⟨v, ⟨w.toNat, p.toNat, b, severity⟩, level, format, file, toStderr⟩,
    ⟨hv, ⟨?_, ?_⟩, ?_, hlog, hform⟩, ?_⟩
  · simp only
    omega
  · simp only
    omega
  · simp only
    omega
  · refine rearranged_of_forall₂ nodup_declared hperm (.cons ⟨rfl, ?_⟩ (.cons ⟨rfl, ?_⟩
      (.cons ⟨rfl, ?_⟩ .nil)))
    · exact rearranged_of_forall₂ (nodup_leaves (s := "meta") rfl) hperm₁
        (.cons ⟨rfl, hleaf rfl⟩ .nil)
    · rw [hnat, hnat']
      exact rearranged_of_forall₂ (nodup_leaves (s := "engine") rfl) hperm₂
        (.cons ⟨rfl, hleaf rfl⟩ (.cons ⟨rfl, hleaf rfl⟩ (.cons ⟨rfl, hleaf rfl⟩
          (.cons ⟨rfl, hleaf rfl⟩ .nil))))
    · exact rearranged_of_forall₂ (nodup_leaves (s := "observability") rfl) hperm₃
        (.cons ⟨rfl, hleaf rfl⟩ (.cons ⟨rfl, hleaf rfl⟩ (.cons ⟨rfl, hleaf rfl⟩
          (.cons ⟨rfl, hleaf rfl⟩ .nil))))

/-- A rearranged section fills the same leaves. -/
theorem isSection_of_rearranged {ms : Members} {fs : List (String × Range)} {x : Value}
    (hfits : List.Forall₂ (fun f m => f.1 = m.1 ∧ f.2.Admits m.2) fs ms)
    (hleaves : ∀ m ∈ ms, m.2.isLeaf) (h : (Value.obj ms).Rearranged x) : IsSection fs x := by
  obtain ⟨ns, rfl, -⟩ := h.of_obj
  obtain ⟨-, ns', hperm, hns⟩ := Members.rearranged_iff_fills.mp h
  refine ⟨ns, rfl, ns', hperm, ?_⟩
  -- leaves are rearranged only into themselves
  have heq : ms = ns' := by
    clear hfits hperm h
    induction hns with
    | nil => rfl
    | @cons m n ms ns' hmn _ ih =>
      obtain ⟨hm, hms⟩ := List.forall_mem_cons.mp hleaves
      rw [ih hms, ← Prod.ext hmn.1 (hmn.2.of_leaf hm).symm]
  rwa [← heq]

/-- Leaves that are fit comply, in any order. -/
theorem complies_of_fit (hfit : l.Fit) (h : (Value.obj l.members).Rearranged (.obj c)) :
    Complies c := by
  obtain ⟨_, ns, hperm, hns⟩ := Members.rearranged_iff_fills.mp h
  obtain ⟨x₁, _, rfl, h₁, hengine⟩ := forall₂_named hns
  obtain ⟨x₂, _, rfl, h₂, hlogging⟩ := forall₂_named hengine
  obtain ⟨x₃, _, rfl, h₃, hend⟩ := forall₂_named hlogging
  cases hend
  have hworkers : Range.Admits (.integer 1 (some Options.workerLimit))
      (.int l.options.maxWorkers) := by
    refine ⟨_, rfl, ?_, ?_⟩
    · exact_mod_cast hfit.maxWorkers.1
    · intro m hm
      obtain rfl := Option.some.inj hm
      exact_mod_cast hfit.maxWorkers.2
  have hnatural {n : Int} (hn : 1 ≤ n) : Range.Admits (.integer 1 none) (.int n) :=
    ⟨n, rfl, hn, by simp⟩
  have hchildren : (1 : Int) ≤ l.options.parallelMinChildren := by
    exact_mod_cast hfit.parallelMinChildren
  have hreport : l.options.reportLevel.name ∈ Severity.all.map Severity.name := by
    cases l.options.reportLevel <;> decide
  refine ⟨_, hperm, .cons ⟨rfl, ?_⟩ (.cons ⟨rfl, ?_⟩ (.cons ⟨rfl, ?_⟩ .nil))⟩
  · refine isSection_of_rearranged (.cons ⟨rfl, hnatural hfit.version⟩ .nil) ?_ h₁
    simp [Value.isLeaf]
  · refine isSection_of_rearranged (.cons ⟨rfl, hworkers⟩ (.cons ⟨rfl, hnatural hchildren⟩
      (.cons ⟨rfl, _, rfl⟩ (.cons ⟨rfl, _, hreport, rfl⟩ .nil)))) ?_ h₂
    simp [Value.isLeaf]
  · refine isSection_of_rearranged (.cons ⟨rfl, _, hfit.logLevel, rfl⟩
      (.cons ⟨rfl, _, hfit.logFormat, rfl⟩ (.cons ⟨rfl, _, rfl⟩ (.cons ⟨rfl, _, rfl⟩ .nil)))) ?_ h₃
    simp [Value.isLeaf]

theorem complies_of_rearranged {c' : Members} (h : Complies c)
    (hrearranged : (Value.obj c).Rearranged (.obj c')) : Complies c' := by
  obtain ⟨l, hfit, hmembers⟩ := exists_leaves h
  exact complies_of_fit hfit (hmembers.trans hrearranged)

/-- What a name finds in leaves that stand in any order. -/
theorem section_of_rearranged (h : (Value.obj l.members).Rearranged (.obj c)) {s : String}
    {ms : Members} (hs : l.members.get? s = some (.obj ms)) :
    ∃ ns, c.get? s = some (.obj ns) ∧ Value.Rearranged.Matched ms ns := by
  obtain ⟨x, hx, hrearranged⟩ := some_of_rel ((Value.Rearranged.obj_obj.mp h).get? s) hs
  obtain ⟨ns, rfl, hmatched⟩ := hrearranged.of_obj
  exact ⟨ns, hx, hmatched⟩

theorem leaf_of_matched {ms ns : Members} (h : Value.Rearranged.Matched ms ns) {k : String}
    {x : Value} (hk : ms.get? k = some x) (hx : x.isLeaf) : ns.get? k = some x := by
  obtain ⟨y, hy, hrearranged⟩ := some_of_rel (h.get? k) hk
  rw [hy, hrearranged.of_leaf hx]

/-- The version of a configuration with some leaves. -/
theorem versionOf_of_rearranged (h : (Value.obj l.members).Rearranged (.obj c)) :
    versionOf c = some (.int l.version) := by
  obtain ⟨ns, hns, hmatched⟩ := section_of_rearranged h (s := "meta") rfl
  rw [versionOf, hns]
  exact leaf_of_matched hmatched rfl rfl

theorem ofValue_name (level : Severity) : Severity.ofValue (.str level.name) = .ok level := by
  cases level <;> rfl

/-- The engine takes its options from the leaves as they stand. -/
theorem ofConfig_of_fit (hfit : l.Fit) (h : (Value.obj l.members).Rearranged (.obj c)) :
    Options.ofConfig c = .ok l.options := by
  obtain ⟨ns, hns, hmatched⟩ := section_of_rearranged h (s := "engine") rfl
  have hworkers : Members.get? ns "max_workers" = _ := leaf_of_matched hmatched rfl rfl
  have hchildren : Members.get? ns "parallel_min_children" = _ := leaf_of_matched hmatched rfl rfl
  have hcollapse : Members.get? ns "suppress_repeated_schema_faults" = _ :=
    leaf_of_matched hmatched rfl rfl
  have hreport : Members.get? ns "report_log_level" = _ := leaf_of_matched hmatched rfl rfl
  have hnatural {path : String} {most : Option Nat} {n : Nat} (hn : 1 ≤ n)
      (hm : ∀ m, most = some m → n ≤ m) : Options.natural path most (.int n) = .ok n := by
    have hlow : ¬ ((n : Int) < 1) := by omega
    unfold Options.natural
    simp only [if_neg hlow]
    cases most with
    | none => simp
    | some m =>
      have hhigh : ¬ ((m : Int) < n) := by
        have hle := hm m rfl
        omega
      simp only [if_neg hhigh]
      simp
  have hmost : ∀ m, some Options.workerLimit = some m → l.options.maxWorkers ≤ m := by
    intro m hm
    rw [← Option.some.inj hm]
    exact hfit.maxWorkers.2
  have hnone : ∀ m, (none : Option Nat) = some m → l.options.parallelMinChildren ≤ m := by
    intro m hm
    cases hm
  simp only [Options.ofConfig, Options.field, hns, Option.getD_some, Options.ofMembers, hworkers,
    hchildren, hcollapse, hreport, ofValue_name, hnatural hfit.maxWorkers.1 hmost,
    hnatural hfit.parallelMinChildren hnone]
  rfl

/-- Logging can be set up as the leaves say. -/
theorem setup_of_fit (hfit : l.Fit) (h : (Value.obj l.members).Rearranged (.obj c)) :
    ∃ s checked, Log.Setup.ofConfig c = .ok s ∧ s.level = .str l.logLevel ∧
      s.format = .str l.logFormat ∧ s.check = .ok checked := by
  obtain ⟨ns, hns, hmatched⟩ := section_of_rearranged h (s := "observability") rfl
  have hlevel : Members.get? ns "log_level" = _ := leaf_of_matched hmatched rfl rfl
  have hformat : Members.get? ns "log_format" = _ := leaf_of_matched hmatched rfl rfl
  have hlevels : ∀ word ∈ ["DEBUG", "INFO", "WARNING", "ERROR", "CRITICAL"],
      ∃ level, Log.levelOf (.str word) = .ok level := by
    simp only [List.forall_mem_cons]
    exact ⟨⟨_, rfl⟩, ⟨_, rfl⟩, ⟨_, rfl⟩, ⟨_, rfl⟩, ⟨_, rfl⟩, by simp⟩
  have hformats : ∀ word ∈ ["json", "text"],
      ∃ format, Log.Setup.formatOf (.str word) = .ok format := by
    simp only [List.forall_mem_cons]
    exact ⟨⟨_, rfl⟩, ⟨_, rfl⟩, by simp⟩
  obtain ⟨level, hl⟩ := hlevels _ hfit.logLevel
  obtain ⟨format, hf⟩ := hformats _ hfit.logFormat
  simp only [Log.Setup.ofConfig, hns, Option.getD_some, hlevel, hformat]
  refine ⟨_, (level, format, 4096), rfl, rfl, rfl, ?_⟩
  simp only [Log.Setup.check, hl, hf]
  rfl

/-- Checking a document fails nowhere. -/
theorem not_fails_of_isDocument (hc : (Value.obj c).IsDocument) {f : Fault} : ¬ Fails c f := by
  intro hfails
  cases hfails with
  | foreign hforeign =>
    obtain ⟨s, fs, x, _, hx, hforeign⟩ := hforeign
    have hdocument := hc.of_get? hx
    -- the section or the leaf would have no kind
    have hclassified {y : Value} (hy : y.IsDocument) : Kind.classify y ≠ .error f := by
      intro herror
      obtain ⟨kind, hkind⟩ := hy.exists_kind
      cases herror.symm.trans (Kind.classify_ok.mpr hkind)
    rcases hforeign with hsection | ⟨ms, k, r, y, rfl, _, hy, hleaf⟩
    · exact hclassified hdocument hsection
    · exact hclassified (hdocument.of_get? hy) hleaf
  | quoted hquoted =>
    obtain ⟨s, fs, ms, k, r, y, _, hx, _, hy, _, hlong⟩ := hquoted
    exact hlong ((hc.of_get? hx).of_get? hy).isWritable
  | @version n hcomplies hversion hlong =>
    obtain ⟨l, _, hmembers⟩ := exists_leaves hcomplies
    rw [versionOf_of_rearranged hmembers] at hversion
    obtain rfl : l.version = n := Value.int.inj (Option.some.inj hversion)
    obtain ⟨ns, hns, hmatched⟩ := section_of_rearranged hmembers (s := "meta") rfl
    have hleaf := (hc.of_get? hns).of_get?
      (leaf_of_matched hmatched (k := "schema_version") rfl rfl)
    exact hlong hleaf.isWritable

/-- What is wanted of a configuration is what the schema asks for, in the supported version. -/
theorem intended_iff : Intended c ↔
    Complies c ∧ ∀ n, versionOf c = some (.int n) → n = version := by
  constructor
  · intro h
    obtain ⟨l, h⟩ := h
    refine ⟨complies_of_fit h.fit h.members, ?_⟩
    intro n hn
    rw [versionOf_of_rearranged h.members] at hn
    rw [← h.version, Value.int.inj (Option.some.inj hn)]
  · intro h
    obtain ⟨hcomplies, hversion⟩ := h
    obtain ⟨l, hfit, hmembers⟩ := exists_leaves hcomplies
    exact ⟨l, hfit, hversion _ (versionOf_of_rearranged hmembers), hmembers⟩

/-- A check accepts just the intended configurations and hands them back as they are but for the
order of members; it has an issue with every other one. Whatever it accepts is taken over by the
engine leaf by leaf, and passes the checks of the logging that it asks for. -/
theorem check_accepts_intended (hc : (Value.obj c).IsDocument) :
    ((∃ cfg, check (.obj c) = .ok (.accepted cfg)) ↔ Intended c) ∧
    (∀ cfg, check (.obj c) = .ok (.accepted cfg) → (Value.obj c).Rearranged (.obj cfg)) ∧
    (¬ Intended c → ∃ issues, check (.obj c) = .ok (.rejected issues) ∧ issues ≠ []) ∧
    ∀ l : Leaves, l.Describes c → Options.ofConfig c = .ok l.options ∧
      ∃ s checked, Log.Setup.ofConfig c = .ok s ∧ s.level = .str l.logLevel ∧
        s.format = .str l.logFormat ∧ s.check = .ok checked := by
  have haccepted (cfg : Members) : check (.obj c) = .ok (.accepted cfg) ↔
      (Complies c ∧ ∀ n, versionOf c = some (.int n) → n = version) ∧ cfg = ordered c :=
    check_accepted_iff hc.distinct
  refine ⟨?_, ?_, ?_, fun l h => ⟨ofConfig_of_fit h.fit h.members, setup_of_fit h.fit h.members⟩⟩
  · simp only [haccepted, intended_iff, exists_and_left, exists_eq, and_true]
  · intro cfg h
    rw [((haccepted cfg).mp h).2]
    exact rearranged_ordered hc.distinct
  · intro h
    cases hcheck : check (.obj c) with
    | error f => exact absurd (fails_of_check hc.distinct hcheck) (not_fails_of_isDocument hc)
    | ok o =>
      cases o with
      | accepted cfg => exact absurd (intended_iff.mpr ((haccepted cfg).mp hcheck).1) h
      | rejected issues => exact ⟨issues, rfl, issues_ne_nil hcheck⟩

/-- What the defaults come to when the engine may use two workers, and its leaves stand otherwise. -/
theorem check_accepts_intended_workers :
    let c : Members := defaults.put "engine" (.obj [("report_log_level", .str "INFO"),
      ("max_workers", .int 2), ("parallel_min_children", .int 8),
      ("suppress_repeated_schema_faults", .bool false)])
    let l : Leaves := ⟨1, { maxWorkers := 2 }, "WARNING", "json", "", true⟩
    (Value.obj c).IsDocument ∧ l.Describes c ∧ (∃ cfg, check (.obj c) = .ok (.accepted cfg)) ∧
      Options.ofConfig c = .ok { maxWorkers := 2 } := by
  intro c l
  have hint {n : Int} (h : (Value.int n).isWritable) : (Value.int n).IsDocument := .int h
  have hdocument : (Value.obj c).IsDocument := by
    refine .object (by decide) (List.forall_mem_cons.mpr ⟨?_, List.forall_mem_cons.mpr ⟨?_,
      List.forall_mem_cons.mpr ⟨?_, by simp⟩⟩⟩)
    · refine .object (by decide) ?_
      simp [hint (n := version) (by decide)]
    · refine .object (by decide) ?_
      simp [hint (n := 2) (by decide), hint (n := 8) (by decide), Value.IsDocument.str,
        Value.IsDocument.bool]
    · refine .object (by decide) ?_
      simp [Value.IsDocument.str, Value.IsDocument.bool]
  have hmembers : (Value.obj l.members).Rearranged (.obj c) := by
    refine rearranged_of_forall₂ (by decide) (.refl _) (.cons ⟨rfl, ?_⟩ (.cons ⟨rfl, ?_⟩
      (.cons ⟨rfl, ?_⟩ .nil)))
    · exact (hdocument.of_get? (k := "meta") rfl).distinct.rearranged
    · exact rearranged_of_forall₂ (by decide)
        (@List.perm_append_comm _ [("report_log_level", Value.str "INFO")] _)
        (.cons ⟨rfl, .leaf rfl⟩ (.cons ⟨rfl, .leaf rfl⟩ (.cons ⟨rfl, .leaf rfl⟩
          (.cons ⟨rfl, .leaf rfl⟩ .nil))))
    · exact (hdocument.of_get? (k := "observability") rfl).distinct.rearranged
  have hdescribes : l.Describes c := ⟨⟨by decide, by decide, by decide, by decide, by decide⟩, rfl,
    hmembers⟩
  obtain ⟨haccepted, _, _, hconsumed⟩ := check_accepts_intended hdocument
  exact ⟨hdocument, hdescribes, haccepted.mpr ⟨l, hdescribes⟩, (hconsumed l hdescribes).1⟩

end

end Config

end Conform
