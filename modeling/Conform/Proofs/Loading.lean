import Conform.Proofs.Checking
import Conform.Proofs.Layers
import Conform.Proofs.Tables

/-!
Loading a configuration. It ends with a configuration or with one of the two faults that are its
own, unless a path names a home that is not there, the file is no text, holds a number that is not
read or has too long a name, or one of the two checks fails.
-/
namespace Conform

/-- The faults that loading has of its own: what cannot be loaded, and what is not valid. -/
inductive Fault.IsOwn : Fault → Prop
  | load (message : String) : IsOwn (.configLoad message)
  | invalid (issues : List Issue) : IsOwn (.configInvalid issues)

namespace Surroundings

/-- Whether a path begins with a tilde that no directory stands for: none that a variable gives to a
bare one, and none in the password database. -/
def LosesHome (s : Surroundings) (p : Path) : Prop :=
  p.anchor = .working ∧ ∃ first rest, p.parts = first :: rest ∧ first.toList.head? = some '~' ∧
    (holdsNull first ∨ ∀ home, s.home? first = some home → home.toList.head? = some '~')

variable {s : Surroundings} {p : Path} {f : Fault}

theorem expandHome_error_iff : (∃ f, s.expandHome p = .error f) ↔ s.LosesHome p := by
  unfold expandHome LosesHome
  cases hparts : p.parts with
  | nil => simp
  | cons first rest =>
    dsimp only
    by_cases htilde : p.anchor = .working ∧ first.toList.head? = some '~'
    · rw [if_pos htilde]
      cases hnull : holdsNull first with
      | true => simp [htilde, hnull]
      | false =>
        cases hhome : s.home? first with
        | none => simp [htilde, hnull, hhome]
        | some home =>
          by_cases htwice : home.toList.head? = some '~' <;>
            simp [htilde, hnull, hhome, htwice]
    · rw [if_neg htilde]
      refine iff_of_false (by simp) ?_
      intro h
      obtain ⟨hanchor, _, _, hcons, hfirst, _⟩ := h
      obtain ⟨rfl, rfl⟩ := List.cons.inj hcons
      exact htilde ⟨hanchor, hfirst⟩

theorem not_isOwn_of_expandHome (h : s.expandHome p = .error f) : ¬ f.IsOwn := by
  unfold expandHome at h
  split at h
  · split at h
    · split at h
      · obtain rfl := Except.error.inj h
        nofun
      · split at h
        · obtain rfl := Except.error.inj h
          nofun
        · split at h
          · obtain rfl := Except.error.inj h
            nofun
          · cases h
    · cases h
  · cases h

end Surroundings

theorem Text.not_isOwn_of_undecodable? {lead : Option Text.Lead} {i : Nat} {os : List Nat}
    {f : Fault} (h : Text.undecodable? lead i os = some f) : ¬ f.IsOwn := by
  induction os generalizing lead i with
  | nil =>
    obtain ⟨l, _, rfl⟩ := Option.map_eq_some_iff.mp h
    nofun
  | cons o os ih =>
    unfold Text.undecodable? at h
    split at h
    · split at h
      · exact ih h
      · split at h
        · obtain rfl := Option.some.inj h
          nofun
        · exact ih h
    · split at h
      · split at h
        · exact ih h
        · exact ih h
      · obtain rfl := Option.some.inj h
        nofun

theorem Text.not_isOwn_of_ofUtf8 {os : List UInt8} {f : Fault} (h : Text.ofUtf8 os = .error f) :
    ¬ f.IsOwn := by
  unfold Text.ofUtf8 at h
  dsimp only at h
  split at h
  · rename_i hfault
    obtain rfl := Except.error.inj h
    exact not_isOwn_of_undecodable? hfault
  · cases h

namespace Config

section
variable {c : Members} {v : Value} {f : Fault}

theorem not_isOwn_of_fails (h : Fails c f) : ¬ f.IsOwn := by
  have hclassify {x : Value} (hx : Kind.classify x = .error f) : ¬ f.IsOwn := by
    unfold Kind.classify at hx
    split at hx
    · cases hx
    · split at hx
      · obtain rfl := Except.error.inj hx
        nofun
      · obtain rfl := Except.error.inj hx
        nofun
  cases h with
  | foreign hforeign =>
    obtain ⟨_, _, _, _, _, hx | ⟨_, _, _, _, _, _, _, hx⟩⟩ := hforeign
    · exact hclassify hx
    · exact hclassify hx
  | quoted => nofun
  | version => nofun

theorem require_ok {cfg : Members} : require v = .ok cfg ↔ check v = .ok (.accepted cfg) := by
  unfold require
  cases hcheck : check v with
  | error f => exact iff_of_false (by rintro ⟨⟩) (by simp)
  | ok o =>
    cases o with
    | accepted c => exact ⟨fun h => by rw [Except.ok.inj h], fun h => by cases h; rfl⟩
    | rejected issues => exact iff_of_false (by rintro ⟨⟩) (by simp)

theorem require_error : require v = .error f ↔
    check v = .error f ∨
      ∃ issues, check v = .ok (.rejected issues) ∧ f = .configInvalid issues := by
  unfold require
  cases hcheck : check v with
  | error g =>
    constructor
    · intro h
      obtain rfl := Except.error.inj h
      exact .inl rfl
    · rintro (⟨⟨⟩⟩ | ⟨_, ⟨⟩, _⟩)
      rfl
  | ok o =>
    cases o with
    | accepted c => exact iff_of_false (by rintro ⟨⟩) (by simp)
    | rejected issues =>
      refine ⟨fun h => .inr ⟨issues, rfl, (Except.error.inj h).symm⟩, ?_⟩
      rintro (⟨⟨⟩⟩ | ⟨_, hissues, rfl⟩)
      obtain rfl := Outcome.rejected.inj (Except.ok.inj hissues)
      rfl

/-- A configuration that is not valid is refused with its issues, unless checking it fails. -/
theorem require_fails_iff (hd : (Value.obj c).Distinct) :
    (∃ f, require (.obj c) = .error f ∧ ¬ f.IsOwn) ↔ ∃ f, Fails c f := by
  constructor
  · intro h
    obtain ⟨f, herror, hown⟩ := h
    rcases require_error.mp herror with hcheck | ⟨issues, _, rfl⟩
    · exact ⟨f, fails_of_check hd hcheck⟩
    · exact absurd (.invalid issues) hown
  · intro h
    obtain ⟨_, hfails⟩ := h
    obtain ⟨g, hcheck⟩ := check_of_fails hd hfails
    exact ⟨g, require_error.mpr (.inl hcheck), not_isOwn_of_fails (fails_of_check hd hcheck)⟩

theorem isOwn_of_variableLayer {vars : List (String × String)}
    (h : variableLayer c vars = .error f) : f.IsOwn := by
  refine Answer.foldlM_error (P := Fault.IsOwn) ?_ h
  intro layer leaf f hadd
  rw [addVariable_eq, Answer.map_error] at hadd
  unfold variableValue at hadd
  split at hadd
  · cases hadd
  · unfold coerced at hadd
    dsimp only at hadd
    split at hadd
    · cases hadd
    · split at hadd
      · cases hadd
      · obtain rfl := Except.error.inj hadd
        exact .load _
    · split at hadd
      · cases hadd
      · split at hadd
        · cases hadd
        · obtain rfl := Except.error.inj hadd
          exact .load _
    · cases hadd

theorem isOwn_of_overrideLayer {overrides : Members} (h : overrideLayer overrides = .error f) :
    f.IsOwn := by
  refine Answer.foldlM_error (P := Fault.IsOwn) ?_ h
  intro layer o f hadd
  unfold addOverride at hadd
  split at hadd
  · obtain rfl := Except.error.inj hadd
    exact .load _
  · cases hadd

end

section
variable {h : Host} {path : Option String} {file : Path} {isRequired : Bool} {f : Fault}

/-- Whether a file is there and its octets are a text. -/
def HoldsText (h : Host) (file : Path) (text : String) : Prop :=
  h.entry? file = some (.file text) ∨
    ∃ os, h.entry? file = some (.octets os) ∧ Text.ofUtf8 os = .ok text

theorem textLayer_ok {text : String} {layer : Members} :
    textLayer file text = .ok layer ↔ Toml.read text = .ok layer := by
  unfold textLayer
  cases Toml.read text with
  | ok ms => simp
  | error refusal => cases refusal <;> simp

theorem textLayer_fails_iff {text : String} :
    (∃ f, textLayer file text = .error f ∧ ¬ f.IsOwn) ↔
      ∃ n, Toml.read text = .error (.digitLimit n) := by
  unfold textLayer
  cases Toml.read text with
  | ok ms => simp
  | error refusal =>
    cases refusal with
    | invalid m =>
      refine iff_of_false ?_ (by simp)
      rintro ⟨_, ⟨rfl⟩, hown⟩
      exact hown (.load _)
    | digitLimit n => exact iff_of_true ⟨_, rfl, nofun⟩ ⟨n, rfl⟩

/-- Reading the file fails otherwise than by its own fault. -/
inductive Unread (h : Host) (file : Path) : Prop
  | name (hnone : h.entry? file = none) (hlong : h.isTooLong file)
  | octets {os : List UInt8} {f : Fault} (hentry : h.entry? file = some (.octets os))
      (htext : Text.ofUtf8 os = .error f)
  | digits {text : String} {n : Nat} (htext : HoldsText h file text)
      (hread : Toml.read text = .error (.digitLimit n))

theorem distinct_fileLayer {layer : Members} (hlayer : fileLayer h file isRequired = .ok layer) :
    (Value.obj layer).Distinct := by
  unfold fileLayer at hlayer
  split at hlayer
  · split at hlayer
    · cases hlayer
    · split at hlayer
      · cases hlayer
      · obtain rfl := Except.ok.inj hlayer
        exact .empty
  · cases hlayer
  · exact Toml.distinct_read (textLayer_ok.mp hlayer)
  · obtain ⟨_, _, hlayer⟩ := Answer.do_ok.mp hlayer
    exact Toml.distinct_read (textLayer_ok.mp hlayer)

theorem fileLayer_fails_iff :
    (∃ f, fileLayer h file isRequired = .error f ∧ ¬ f.IsOwn) ↔ Unread h file := by
  constructor
  · intro hfails
    obtain ⟨f, hlayer, hown⟩ := hfails
    unfold fileLayer at hlayer
    split at hlayer
    · rename_i hnone
      split at hlayer
      · rename_i hlong
        exact .name hnone hlong
      · split at hlayer
        · obtain rfl := Except.error.inj hlayer
          exact absurd (.load _) hown
        · cases hlayer
    · obtain rfl := Except.error.inj hlayer
      exact absurd (.load _) hown
    · rename_i text hentry
      obtain ⟨n, hread⟩ := textLayer_fails_iff.mp ⟨f, hlayer, hown⟩
      exact .digits (.inl hentry) hread
    · rename_i os hentry
      rcases Answer.do_error.mp hlayer with htext | ⟨text, htext, hlayer⟩
      · exact .octets hentry htext
      · obtain ⟨n, hread⟩ := textLayer_fails_iff.mp ⟨f, hlayer, hown⟩
        exact .digits (.inr ⟨os, hentry, htext⟩) hread
  · intro hunread
    unfold fileLayer
    cases hunread with
    | name hnone hlong =>
      rw [hnone]
      exact ⟨_, if_pos hlong, nofun⟩
    | @octets os f hentry htext =>
      rw [hentry]
      refine ⟨f, ?_, ?_⟩
      · simp only [htext]
        rfl
      · exact Text.not_isOwn_of_ofUtf8 htext
    | digits htext hread =>
      have hfails : ∃ f, textLayer file _ = .error f ∧ ¬ f.IsOwn :=
        textLayer_fails_iff.mpr ⟨_, hread⟩
      obtain ⟨f, hlayer, hown⟩ := hfails
      refine ⟨f, ?_, hown⟩
      rcases htext with hentry | ⟨os, hentry, htext⟩
      · rw [hentry]
        exact hlayer
      · rw [hentry]
        simp only [htext]
        exact hlayer

theorem filePath_some {s : Surroundings} {text : String} {p : Path}
    (hhome : s.expandHome (.parse text) = .ok p)
    (hnull : p.parts.any Surroundings.holdsNull = false) :
    filePath s (some text) = .ok (.resolved s.directory p) := by
  simp only [filePath, hhome, bind, Except.bind, hnull]
  rfl

/-- Whether the path that is asked for names a home that is not there, or what no path holds. -/
def LosesFile (s : Surroundings) (path : Option String) : Prop :=
  ∃ text, path = some text ∧ (s.LosesHome (.parse text) ∨
    ∃ p, s.expandHome (.parse text) = .ok p ∧ p.parts.any Surroundings.holdsNull)

theorem filePath_fails_iff {s : Surroundings} :
    (∃ f, filePath s path = .error f ∧ ¬ f.IsOwn) ↔ LosesFile s path := by
  unfold LosesFile
  cases path with
  | none => simp [filePath]
  | some text =>
    simp only [Option.some.injEq, exists_eq_left']
    rw [← Surroundings.expandHome_error_iff]
    cases hhome : s.expandHome (.parse text) with
    | error f =>
      refine iff_of_true ⟨f, ?_, Surroundings.not_isOwn_of_expandHome hhome⟩ (.inl ⟨f, rfl⟩)
      simp only [filePath, hhome, bind, Except.bind]
    | ok p =>
      cases hnull : p.parts.any Surroundings.holdsNull with
      | true =>
        refine iff_of_true ⟨Surroundings.nullFault, ?_, nofun⟩ (.inr ⟨p, rfl, hnull⟩)
        simp only [filePath, hhome, bind, Except.bind, hnull]
        rfl
      | false =>
        refine iff_of_false ?_ ?_
        · rintro ⟨f, hfails, _⟩
          cases hfails.symm.trans (filePath_some hhome hnull)
        · rintro (⟨_, ⟨⟩⟩ | ⟨_, ⟨rfl⟩, hp⟩)
          cases hnull.symm.trans hp

end

theorem distinct_defaults : (Value.obj defaults).Distinct := by
  refine .object (by decide) (List.forall_mem_cons.mpr ⟨?_, List.forall_mem_cons.mpr ⟨?_,
    List.forall_mem_cons.mpr ⟨?_, by simp⟩⟩⟩)
  all_goals exact .of_leaves (by decide) (by simp [Value.isLeaf])

/-- The configuration before the path of the log file is put in full, and what it is made of. -/
def Layered (h : Host) (path : Option String) (overrides : Members)
    (vars : Option (List (String × String))) (file : Path) (whole : Members) : Prop :=
  filePath h.surroundings path = .ok file ∧
    ∃ layer, fileLayer h file path.isSome = .ok layer ∧
    ∃ base, check (.obj (merge defaults layer)) = .ok (.accepted base) ∧
    ∃ fromVariables, variableLayer base (vars.getD h.surroundings.vars) = .ok fromVariables ∧
    ∃ fromOverrides, overrideLayer overrides = .ok fromOverrides ∧
      whole = merge (merge base fromVariables) fromOverrides

section
variable {h : Host} {path : Option String} {overrides : Members}
  {vars : Option (List (String × String))} {file : Path} {whole : Members}

theorem distinct_of_accepted {c cfg : Members} (hd : (Value.obj c).Distinct)
    (hcheck : check (.obj c) = .ok (.accepted cfg)) : (Value.obj cfg).Distinct := by
  rw [((check_accepted_iff hd).mp hcheck).2]
  exact distinct_ordered hd

theorem distinct_of_layered (ho : (Value.obj overrides).Distinct)
    (hwhole : Layered h path overrides vars file whole) : (Value.obj whole).Distinct := by
  obtain ⟨_, layer, hlayer, base, hbase, _, hvariables, _, hoverrides, rfl⟩ := hwhole
  have hfile := distinct_merge distinct_defaults (distinct_fileLayer hlayer)
  exact distinct_merge
    (distinct_merge (distinct_of_accepted hfile hbase) (distinct_variableLayer hvariables))
    (distinct_overrideLayer ho hoverrides)

/-- What is left to do once the layers are laid over each other. -/
theorem load_of_layered (hwhole : Layered h path overrides vars file whole) :
    load h path overrides vars =
      withLogPath h.surroundings file.parent whole >>= fun settled => require (.obj settled) := by
  obtain ⟨hfile, layer, hlayer, base, hbase, _, hvariables, _, hoverrides, rfl⟩ := hwhole
  simp only [load, hfile, hlayer, require_ok.mpr hbase, hvariables, hoverrides, bind, Except.bind]

theorem load_ok {cfg : Members} : load h path overrides vars = .ok cfg ↔
    ∃ file whole, Layered h path overrides vars file whole ∧
    ∃ settled, withLogPath h.surroundings file.parent whole = .ok settled ∧
      check (.obj settled) = .ok (.accepted cfg) := by
  constructor
  · intro hload
    simp only [load, Answer.do_ok, require_ok] at hload
    obtain ⟨file, hfile, layer, hlayer, base, hbase, fromVariables, hvariables, fromOverrides,
      hoverrides, settled, hsettled, hcheck⟩ := hload
    exact ⟨file, _, ⟨hfile, layer, hlayer, base, hbase, fromVariables, hvariables,
      fromOverrides, hoverrides, rfl⟩, settled, hsettled, hcheck⟩
  · intro h
    obtain ⟨file, whole, hwhole, settled, hsettled, hcheck⟩ := h
    rw [load_of_layered hwhole]
    exact Answer.do_ok.mpr ⟨settled, hsettled, require_ok.mpr hcheck⟩

/-- Loading ends otherwise than with a configuration or a fault of its own. -/
inductive Breaks (h : Host) (path : Option String) (overrides : Members)
    (vars : Option (List (String × String))) : Prop
  | path (hpath : LosesFile h.surroundings path)
  | file {file : Path} (hfile : filePath h.surroundings path = .ok file) (hread : Unread h file)
  | base {file : Path} {layer : Members} {f : Fault}
      (hfile : filePath h.surroundings path = .ok file)
      (hlayer : fileLayer h file path.isSome = .ok layer)
      (hfails : Fails (merge defaults layer) f)
  | logFile {file : Path} {whole : Members} {text : String}
      (hwhole : Layered h path overrides vars file whole)
      (htext : leafAt whole "observability" "log_file" = some (.str text))
      (hempty : text.isEmpty = false)
      (hhome : h.surroundings.LosesHome (.parse (h.surroundings.expandVariables text)))
  | whole {file : Path} {whole settled : Members} {f : Fault}
      (hwhole : Layered h path overrides vars file whole)
      (hsettled : withLogPath h.surroundings file.parent whole = .ok settled)
      (hfails : Fails settled f)

theorem logPath_error {s : Surroundings} {directory : Path} {text : String} {f : Fault} :
    logPath s directory text = .error f ↔
      s.expandHome (.parse (s.expandVariables text)) = .error f := by
  unfold logPath
  cases s.expandHome (.parse (s.expandVariables text)) with
  | error g => exact Iff.rfl
  | ok p => exact iff_of_false (by rintro ⟨⟩) (by simp)

/-- Putting the path of the log file in full fails with the home it names. -/
theorem withLogPath_error_iff {s : Surroundings} {directory : Path} {c : Members} {f : Fault} :
    withLogPath s directory c = .error f ↔
      ∃ text, leafAt c "observability" "log_file" = some (.str text) ∧ text.isEmpty = false ∧
        s.expandHome (.parse (s.expandVariables text)) = .error f := by
  rcases withLogPath_cases s directory c with ⟨hsame, hnone⟩ | ⟨ms, text, hs, hk, hempty, hput⟩
  · rw [hsame]
    refine iff_of_false (by simp) ?_
    rintro ⟨text, htext, hempty, _⟩
    rw [hnone text htext] at hempty
    cases hempty
  · rw [hput, Answer.map_error, logPath_error, leafAt_of_get? hs, hk]
    constructor
    · intro h
      exact ⟨text, rfl, hempty, h⟩
    · rintro ⟨_, htext, _, h⟩
      obtain rfl := Value.str.inj (Option.some.inj htext)
      exact h

theorem breaks_of_load (ho : (Value.obj overrides).Distinct) {f : Fault}
    (hload : load h path overrides vars = .error f) (hown : ¬ f.IsOwn) :
    Breaks h path overrides vars := by
  unfold load at hload
  rcases Answer.do_error.mp hload with hfile | ⟨file, hfile, hload⟩
  · exact .path (filePath_fails_iff.mp ⟨f, hfile, hown⟩)
  rcases Answer.do_error.mp hload with hlayer | ⟨layer, hlayer, hload⟩
  · exact .file hfile (fileLayer_fails_iff.mp ⟨f, hlayer, hown⟩)
  have hd := distinct_merge distinct_defaults (distinct_fileLayer hlayer)
  rcases Answer.do_error.mp hload with hbase | ⟨base, hbase, hload⟩
  · obtain ⟨g, hfails⟩ := (require_fails_iff hd).mp ⟨f, hbase, hown⟩
    exact .base hfile hlayer hfails
  -- variables and overrides end in no other faults
  rcases Answer.do_error.mp hload with hvariables | ⟨fromVariables, hvariables, hload⟩
  · exact absurd (isOwn_of_variableLayer hvariables) hown
  rcases Answer.do_error.mp hload with hoverrides | ⟨fromOverrides, hoverrides, hload⟩
  · exact absurd (isOwn_of_overrideLayer hoverrides) hown
  have hwhole : Layered h path overrides vars file _ := ⟨hfile, layer, hlayer, base,
    require_ok.mp hbase, fromVariables, hvariables, fromOverrides, hoverrides, rfl⟩
  rcases Answer.do_error.mp hload with hlog | ⟨settled, hsettled, hload⟩
  · obtain ⟨text, htext, hempty, hhome⟩ := withLogPath_error_iff.mp hlog
    exact .logFile hwhole htext hempty (Surroundings.expandHome_error_iff.mp ⟨f, hhome⟩)
  · have hd := distinct_withLogPath (distinct_of_layered ho hwhole) hsettled
    obtain ⟨g, hfails⟩ := (require_fails_iff hd).mp ⟨f, hload, hown⟩
    exact .whole hwhole hsettled hfails

theorem load_of_breaks (ho : (Value.obj overrides).Distinct)
    (hbreaks : Breaks h path overrides vars) :
    ∃ f, load h path overrides vars = .error f ∧ ¬ f.IsOwn := by
  cases hbreaks with
  | path hpath =>
    obtain ⟨f, hfile, hown⟩ := filePath_fails_iff.mpr hpath
    refine ⟨f, ?_, hown⟩
    simp only [load, hfile, bind, Except.bind]
  | file hfile hread =>
    have hfails : ∃ f, fileLayer h _ path.isSome = .error f ∧ ¬ f.IsOwn :=
      fileLayer_fails_iff.mpr hread
    obtain ⟨f, hlayer, hown⟩ := hfails
    refine ⟨f, ?_, hown⟩
    simp only [load, hfile, hlayer, bind, Except.bind]
  | base hfile hlayer hfails =>
    have hd := distinct_merge distinct_defaults (distinct_fileLayer hlayer)
    obtain ⟨f, hbase, hown⟩ := (require_fails_iff hd).mpr ⟨_, hfails⟩
    refine ⟨f, ?_, hown⟩
    simp only [load, hfile, hlayer, hbase, bind, Except.bind]
  | logFile hwhole htext hempty hhome =>
    obtain ⟨f, hhome⟩ := Surroundings.expandHome_error_iff.mpr hhome
    refine ⟨f, ?_, Surroundings.not_isOwn_of_expandHome hhome⟩
    rw [load_of_layered hwhole]
    exact Answer.do_error.mpr (.inl (withLogPath_error_iff.mpr ⟨_, htext, hempty, hhome⟩))
  | whole hwhole hsettled hfails =>
    have hd := distinct_withLogPath (distinct_of_layered ho hwhole) hsettled
    obtain ⟨f, hcheck, hown⟩ := (require_fails_iff hd).mpr ⟨_, hfails⟩
    refine ⟨f, ?_, hown⟩
    rw [load_of_layered hwhole]
    exact Answer.do_error.mpr (.inr ⟨_, hsettled, hcheck⟩)

end

/-- Loading ends with a configuration or one of its own faults except in the ways told, and so
does a check with a configuration or at least one issue. -/
theorem load_breaks_iff (h : Host) (path : Option String) {overrides : Members}
    (vars : Option (List (String × String))) (ho : (Value.obj overrides).Distinct) :
    ((∃ f, load h path overrides vars = .error f ∧ ¬ f.IsOwn) ↔ Breaks h path overrides vars) ∧
    ∀ c : Members, (Value.obj c).Distinct →
      ((∃ f, check (.obj c) = .error f) ↔ ∃ f, Fails c f) ∧
      ∀ issues, check (.obj c) = .ok (.rejected issues) → issues ≠ [] := by
  refine ⟨?_, ?_⟩
  · constructor
    · rintro ⟨f, hload, hown⟩
      exact breaks_of_load ho hload hown
    · exact load_of_breaks ho
  · intro c hd
    refine ⟨⟨?_, ?_⟩, fun issues => issues_ne_nil⟩
    · rintro ⟨f, hcheck⟩
      exact ⟨f, fails_of_check hd hcheck⟩
    · rintro ⟨f, hfails⟩
      exact check_of_fails hd hfails

/-- Where the files of the following host are. -/
def directory : Path := ⟨.root, ["w"]⟩

/-- A host with one file. -/
def hostOf (e : Entry) : Host := ⟨{ directory }, [(⟨.root, ["w", "c.toml"]⟩, e)]⟩

theorem filePath_hostOf (e : Entry) :
    filePath (hostOf e).surroundings (some "c.toml") = .ok ⟨.root, ["w", "c.toml"]⟩ := by
  have hparse : Path.parse "c.toml" = ⟨.working, ["c.toml"]⟩ := by decide +kernel
  have hresolved : Path.resolved directory ⟨.working, ["c.toml"]⟩ =
      ⟨.root, ["w", "c.toml"]⟩ := by decide +kernel
  rw [filePath_some (p := ⟨.working, ["c.toml"]⟩) ?_ rfl]
  · exact congrArg Except.ok hresolved
  · rw [hparse]
    rfl

theorem entry?_hostOf (e : Entry) :
    Host.entry? (hostOf e) ⟨.root, ["w", "c.toml"]⟩ = some e := rfl

/-- A file that is no text ends loading with another fault. -/
theorem load_breaks_iff_octets : (Value.obj []).Distinct ∧
    ∃ f, load (hostOf (.octets [255])) (some "c.toml") [] (some []) = .error f ∧ ¬ f.IsOwn := by
  have htext : Text.ofUtf8 [255] = .error (.undecodable 255 0 0 "invalid start byte") := rfl
  exact ⟨.empty, (load_breaks_iff _ (some "c.toml") (some []) .empty).1.mpr
    (.file (filePath_hostOf _) (.octets (entry?_hostOf _) htext))⟩

/-- Whether a text was read to a table that holds nothing but a worker count that is no number. -/
def readsForeignNumber : Except Toml.Refusal Members → Bool
  | .ok [(s, .obj [(k, .real .nan)])] => s == "engine" && k == "max_workers"
  | _ => false

theorem readsForeignNumber_iff {r : Except Toml.Refusal Members} :
    readsForeignNumber r ↔ r = .ok [("engine", .obj [("max_workers", .real .nan)])] := by
  unfold readsForeignNumber
  split <;> simp_all

/-- A number in the file that no document holds ends loading with a fault that is not its own. -/
theorem foreign_number_breaks : ∃ f, load (hostOf (.file "[engine]\nmax_workers = nan\n"))
    (some "c.toml") [] (some []) = .error f ∧ ¬ f.IsOwn := by
  have hread := readsForeignNumber_iff.mp
    (show readsForeignNumber (Toml.read "[engine]\nmax_workers = nan\n") by decide +kernel)
  have hlayer : fileLayer (hostOf (.file "[engine]\nmax_workers = nan\n"))
      ⟨.root, ["w", "c.toml"]⟩ true = .ok [("engine", .obj [("max_workers", .real .nan)])] := by
    rw [fileLayer, entry?_hostOf]
    exact textLayer_ok.mpr hread
  obtain ⟨ns, hs, hleaf⟩ := get?_merge_section (s := "engine") distinct_defaults
    (distinct_fileLayer hlayer) (.inl ⟨_, rfl⟩)
  refine load_of_breaks .empty (.base (filePath_hostOf _) hlayer
    (.foreign (f := .nonFinite .nan) ?_))
  exact ⟨"engine", _, _, rfl, hs, .inr ⟨ns, "max_workers", _, _, rfl, rfl, hleaf _, rfl⟩⟩

end Config

end Conform
