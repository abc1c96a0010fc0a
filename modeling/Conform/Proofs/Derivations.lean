import Conform.Proofs.Bound
import Conform.Proofs.Trail

/-!
Contexts derived from a first one, in any order. What a context is comes from the ways that led to
it: its path are the tokens of the child steps, its trail was left at that path, and it may judge
children side by side only where nothing but nodes of the same value was gone to. Main statement:
all of this of every context, and that an isolated child and a trial have a report that no context
before them writes to.
-/
namespace Conform

/-- How a context is derived from another: for a child, for the same value under a node of the
schema or under the target of a reference, each of which may be given a report, or for a trial. -/
inductive Way where
  | child (schema value : Value) (token : Token) (steps : List Token) (sink : Sink)
  | under (schema : Value) (location : Location) (given : Option Nat)
  | follow (schema : Value) (location : Location) (given : Option Nat)
  | scratch (schema : Value) (location : Location)

namespace Way

def site (s : Site) : Way → Site
  | child schema value token steps _ => s.child schema value token steps
  | under schema location _ => s.under schema location
  | follow schema location _ => s.follow schema location
  | scratch schema location => s.scratch schema location

def token? : Way → Option Token
  | child _ _ token _ _ => some token
  | _ => none

/-- Whether the value stays and what is found counts. -/
def keepsPool : Way → Bool
  | under .. | follow .. => true
  | child .. | scratch .. => false

/-- Whether the context gets a report of its own. -/
def isApart : Way → Bool
  | child _ _ _ _ .isolated | scratch .. => true
  | _ => false

/-- The report that the context is given. -/
def given : Way → Option Nat
  | child _ _ _ _ (.given report) => some report
  | under _ _ report | follow _ _ report => report
  | _ => none

/-- The site that ways lead to. -/
def sites (top : Site) (ws : List Way) : Site := ws.foldl site top

variable {top s : Site} {ws : List Way} {w : Way}

theorem sites_concat (top : Site) (ws : List Way) (w : Way) :
    sites top (ws ++ [w]) = w.site (sites top ws) := List.foldl_concat _ _ _ _

theorem path_site (s : Site) (w : Way) :
    (w.site s).path = s.path.append w.token?.toList := by
  cases w with
  | child => rfl
  | under | follow | scratch => exact congrArg Pointer.mk (List.append_nil _).symm

theorem atPath_site (h : s.AtPath) (w : Way) : (w.site s).AtPath := by
  cases w with
  | child => exact .of_trail_eq_nil rfl
  | follow schema location => exact h.follow schema location
  | under | scratch => exact h

theorem pooled_site (s : Site) (w : Way) : (w.site s).pooled = (s.pooled && w.keepsPool) := by
  cases w with
  | child | scratch => exact (Bool.and_false _).symm
  | under | follow => exact (Bool.and_true _).symm

/-- The path is made of the tokens of the child steps. -/
theorem path_sites (top : Site) (ws : List Way) :
    (sites top ws).path = top.path.append (ws.filterMap token?) := by
  induction ws using List.reverseRecOn with
  | nil => exact congrArg Pointer.mk (List.append_nil _).symm
  | append_singleton ws w ih =>
    have htokens : (ws ++ [w]).filterMap token? = ws.filterMap token? ++ w.token?.toList := by
      rw [List.filterMap_append]
      cases hw : w.token? <;> simp [hw]
    rw [sites_concat, path_site, ih, htokens]
    simp [Pointer.append]

theorem atPath_sites (h : top.AtPath) (ws : List Way) : (sites top ws).AtPath := by
  induction ws using List.reverseRecOn with
  | nil => exact h
  | append_singleton ws w ih =>
    rw [sites_concat]
    exact atPath_site ih w

theorem pooled_sites (top : Site) (ws : List Way) :
    (sites top ws).pooled = (top.pooled && ws.all keepsPool) := by
  induction ws using List.reverseRecOn with
  | nil => exact (Bool.and_true _).symm
  | append_singleton ws w ih =>
    rw [sites_concat, pooled_site, ih, List.all_append, Bool.and_assoc]
    simp

/-- Without a child step there is no token. -/
theorem filterMap_token?_eq_nil (h : ws.all keepsPool = true) : ws.filterMap token? = [] := by
  rw [List.filterMap_eq_nil_iff]
  intro w hw
  have hkeeps := List.all_eq_true.mp h w hw
  cases w with
  | child => cases hkeeps
  | _ => rfl

end Way

namespace Derivation

/-- Adds the context that a way leads to. -/
def derive (d : Derivation) (c : Context) : Way → Derivation
  | .child schema value token steps sink => d.child c schema value token steps sink
  | .under schema location none => d.under c schema location
  | .under schema location (some report) => d.bind (c.site.under schema location) report
  | .follow schema location none => d.follow c schema location
  | .follow schema location (some report) => d.bind (c.site.follow schema location) report
  | .scratch schema location => d.scratch c schema location

theorem derive_of_apart (d : Derivation) (c : Context) {w : Way} (h : w.isApart = true) :
    ∃ level, d.derive c w = d.bindNew (w.site c.site) level := by
  cases w with
  | child schema value token steps sink =>
    cases sink with
    | isolated => exact ⟨_, rfl⟩
    | _ => cases h
  | scratch => exact ⟨_, rfl⟩
  | _ => cases h

theorem derive_of_not_apart (d : Derivation) (c : Context) {w : Way} (h : w.isApart = false) :
    d.derive c w = d.bind (w.site c.site) (w.given.getD c.report) := by
  cases w with
  | child schema value token steps sink =>
    cases sink with
    | isolated => cases h
    | _ => rfl
  | under schema location given | follow schema location given => cases given <;> rfl
  | scratch => cases h

end Derivation

/-- A derivation with the ways that led to each of its contexts from the first. -/
structure History where
  derivation : Derivation
  ways : List (List Way)

namespace History

/-- What is done with contexts: one is derived from another, a report is made, or findings are
written to a report. -/
inductive Act where
  | derive (of : Nat) (w : Way)
  | report (level : Severity)
  | log (report : Nat) (m : Diagnostic)
  | absorb (of report : Nat)
  | judge (e : Setting) (of : Nat)

def start (top : Site) (level : Severity) : History := ⟨.start top level, [[]]⟩

/-- What comes of an act. A context that is not there, and a report that is not, are of no use. -/
def step (h : History) : Act → History
  | .derive of w =>
    match h.derivation.contexts[of]?, h.ways[of]? with
    | some c, some ws =>
      if w.given.all (· < h.derivation.desk.length) then
        ⟨h.derivation.derive c w, h.ways ++ [ws ++ [w]]⟩
      else h
    | _, _ => h
  | .report level =>
    { h with derivation := { h.derivation with desk := h.derivation.desk ++ [.plain ⟨level, []⟩] } }
  | .log report m => { h with derivation := h.derivation.log report m }
  | .absorb of report =>
    match h.derivation.contexts[of]? with
    | some c => { h with derivation := h.derivation.absorb c report }
    | none => h
  | .judge e of =>
    match h.derivation.contexts[of]? with
    | some c => { h with derivation := (h.derivation.judge e c).1 }
    | none => h

def run (h : History) (acts : List Act) : History := acts.foldl step h

/-- What holds of contexts however they were derived. -/
structure Sound (top : Site) (h : History) : Prop where
  length : h.ways.length = h.derivation.contexts.length
  site : ∀ (n : Nat) (c : Context) (ws : List Way), h.derivation.contexts[n]? = some c →
    h.ways[n]? = some ws → c.site = Way.sites top ws
  onDesk : ∀ c ∈ h.derivation.contexts, c.report < h.derivation.desk.length
  apart : ∀ (n : Nat) (c : Context) (ws : List Way) (w : Way),
    h.derivation.contexts[n]? = some c → h.ways[n]? = some (ws ++ [w]) → w.isApart = true →
    ∀ (m : Nat) (c' : Context), m < n → h.derivation.contexts[m]? = some c' →
    c'.report ≠ c.report

variable {top : Site} {h : History} {desk : Desk} {c : Context} {ws : List Way}

theorem sound_start (top : Site) (level : Severity) : (start top level).Sound top where
  length := rfl
  site n c ws hc hws := by
    obtain ⟨hn, rfl⟩ := List.getElem?_eq_some_iff.mp hc
    obtain rfl : n = 0 := Nat.lt_one_iff.mp hn
    obtain rfl : [] = ws := Option.some.inj hws
    rfl
  onDesk c hc := by
    rw [List.mem_singleton.mp hc]
    exact Nat.zero_lt_one
  apart n c ws w hc _ _ m c' hm := by
    have hn := (List.getElem?_eq_some_iff.mp hc).1
    rw [show n = 0 from Nat.lt_one_iff.mp hn] at hm
    exact absurd hm (Nat.not_lt_zero m)

/-- Nothing changes for the contexts while reports are written to and new ones are made. -/
theorem Sound.withDesk (hs : h.Sound top) (hdesk : h.derivation.desk.length ≤ desk.length) :
    Sound top ⟨⟨desk, h.derivation.contexts⟩, h.ways⟩ :=
  ⟨hs.length, hs.site, fun c hc => (hs.onDesk c hc).trans_le hdesk, hs.apart⟩

/-- A context at the end of a list is a former one or the last. -/
theorem getElem?_concat_cases {α : Type} {xs : List α} {x y : α} {n : Nat}
    (hy : (xs ++ [x])[n]? = some y) : xs[n]? = some y ∨ (n = xs.length ∧ x = y) := by
  obtain ⟨hlt, hy'⟩ := List.getElem?_eq_some_iff.mp hy
  rw [List.length_append, List.length_singleton] at hlt
  rcases Nat.lt_or_ge n xs.length with hn | hn
  · left
    rwa [List.getElem?_append_left hn] at hy
  · obtain rfl : n = xs.length := by omega
    right
    rw [List.getElem?_concat_length] at hy
    exact ⟨rfl, Option.some.inj hy⟩

/-- A context joins the others: it is what its ways lead to, its report is on the desk, and if it
is to have one of its own this is none of those that were there before. -/
theorem Sound.extend (hs : h.Sound top) (hdesk : h.derivation.desk.length ≤ desk.length)
    (hsite : c.site = Way.sites top ws) (hon : c.report < desk.length)
    (hnew : ∀ ws' w, ws = ws' ++ [w] → w.isApart = true → h.derivation.desk.length ≤ c.report) :
    Sound top ⟨⟨desk, h.derivation.contexts ++ [c]⟩, h.ways ++ [ws]⟩ where
  length := by
    have hlength := hs.length
    simp only [List.length_append, List.length_singleton]
    omega
  site n c' ws' hc hws := by
    have hlength := hs.length
    rcases getElem?_concat_cases hc with hc | ⟨hn, rfl⟩
    · rcases getElem?_concat_cases hws with hws | ⟨hn, rfl⟩
      · exact hs.site n c' ws' hc hws
      · have hlt := (List.getElem?_eq_some_iff.mp hc).1
        omega
    · rcases getElem?_concat_cases hws with hws | ⟨_, rfl⟩
      · have hlt := (List.getElem?_eq_some_iff.mp hws).1
        omega
      · exact hsite
  onDesk c' hc := by
    rcases List.mem_append.mp hc with hc | hc
    · exact (hs.onDesk c' hc).trans_le hdesk
    · rw [List.mem_singleton.mp hc]
      exact hon
  apart n c₁ ws₁ w hc hws hw m c₂ hm hc₂ := by
    have hlength := hs.length
    -- whatever stands before a context was there before it came
    have hold (hn : n ≤ h.derivation.contexts.length) :
        h.derivation.contexts[m]? = some c₂ := by
      rwa [List.getElem?_append_left (by omega)] at hc₂
    rcases getElem?_concat_cases hc with hc | ⟨hn, rfl⟩
    · have hlt := (List.getElem?_eq_some_iff.mp hc).1
      rcases getElem?_concat_cases hws with hws | ⟨hn, _⟩
      · exact hs.apart n c₁ ws₁ w hc hws hw m c₂ hm (hold hlt.le)
      · omega
    · rcases getElem?_concat_cases hws with hws | ⟨_, hlast⟩
      · have hlt := (List.getElem?_eq_some_iff.mp hws).1
        omega
      · have hbefore := hs.onDesk c₂ (List.mem_of_getElem? (hold hn.le))
        have hafter := hnew ws₁ w hlast hw
        omega

theorem sound_derive (hs : h.Sound top) {of : Nat} (hc : h.derivation.contexts[of]? = some c)
    (hws : h.ways[of]? = some ws) {w : Way}
    (hgiven : w.given.all (· < h.derivation.desk.length) = true) :
    Sound top ⟨h.derivation.derive c w, h.ways ++ [ws ++ [w]]⟩ := by
  have hsite : w.site c.site = Way.sites top (ws ++ [w]) := by
    rw [Way.sites_concat, hs.site of c ws hc hws]
  cases hw : w.isApart with
  | true =>
    obtain ⟨level, hderive⟩ := h.derivation.derive_of_apart c hw
    rw [hderive]
    refine hs.extend ?_ hsite ?_ fun _ _ _ _ => Nat.le_refl _ <;>
      simp only [List.length_append, List.length_singleton] <;> omega
  | false =>
    rw [h.derivation.derive_of_not_apart c hw]
    refine hs.extend (Nat.le_refl _) hsite ?_ ?_
    · cases hreport : w.given with
      | none => exact hs.onDesk c (List.mem_of_getElem? hc)
      | some report =>
        rw [hreport] at hgiven
        exact of_decide_eq_true hgiven
    · intro ws' w' heq hapart
      obtain ⟨-, heq⟩ := List.append_inj' heq rfl
      rw [List.singleton_inj] at heq
      rw [← heq, hw] at hapart
      cases hapart

theorem sound_step (hs : h.Sound top) (a : Act) : (h.step a).Sound top := by
  cases a with
  | derive of w =>
    simp only [step]
    split
    · rename_i c ws hc hws
      split
      · rename_i hgiven
        exact sound_derive hs hc hws hgiven
      · exact hs
    · exact hs
  | report level =>
    refine hs.withDesk ?_
    rw [List.length_append]
    exact Nat.le_add_right _ _
  | log report m => exact hs.withDesk (Desk.length_setReport _ _ _).ge
  | absorb of report =>
    simp only [step]
    split
    · exact hs.withDesk (Desk.length_setReport _ _ _).ge
    · exact hs
  | judge e of =>
    simp only [step]
    split
    · exact hs.withDesk (Desk.length_setReport _ _ _).ge
    · exact hs

theorem sound_run (hs : h.Sound top) (acts : List Act) : (h.run acts).Sound top := by
  induction acts generalizing h with
  | nil => exact hs
  | cons a acts ih => exact ih (sound_step hs a)

end History

namespace Derivation

/-- Every context derived from one at the root of a value with an empty trail, whatever is derived
and reported in between: it is what the ways to it make of the first one. Its trail was left at its
own path, which are the tokens of its child steps. It may judge children side by side just where
the first one may and no way to it was a child step or a trial, and then it is at the root. The
report of an isolated child or a trial is that of no context derived before it. -/
theorem contexts_derived (schema value : Value) (location : Location) (pooled : Bool)
    (level : Severity) (acts : List History.Act) :
    let top : Site := ⟨schema, value, .root, location, [], pooled⟩
    let h := (History.start top level).run acts
    h.ways.length = h.derivation.contexts.length ∧
    ∀ (n : Nat) (c : Context) (ws : List Way), h.derivation.contexts[n]? = some c →
      h.ways[n]? = some ws →
      c.site = Way.sites top ws ∧
      (∀ t ∈ c.site.trail, t.2 = c.site.path) ∧
      c.site.path.tokens = (ws.filterMap Way.token?).map Token.text ∧
      (c.site.pooled = true ↔ pooled = true ∧ ∀ w ∈ ws, w.keepsPool = true) ∧
      (c.site.pooled = true → c.site.path = .root) ∧
      ∀ ws' w, ws = ws' ++ [w] → w.isApart = true →
        ∀ (m : Nat) (c' : Context), m < n → h.derivation.contexts[m]? = some c' →
          c'.report ≠ c.report := by
  intro top h
  have hs : h.Sound top := History.sound_run (History.sound_start top level) acts
  refine ⟨hs.length, ?_⟩
  intro n c ws hc hws
  have hsite := hs.site n c ws hc hws
  have hpath : c.site.path.tokens = (ws.filterMap Way.token?).map Token.text := by
    rw [hsite, Way.path_sites]
    exact List.nil_append _
  have hpooled : c.site.pooled = true ↔ pooled = true ∧ ∀ w ∈ ws, w.keepsPool = true := by
    rw [hsite, Way.pooled_sites, Bool.and_eq_true, List.all_eq_true]
  refine ⟨hsite, ?_, hpath, hpooled, ?_, ?_⟩
  · rw [hsite]
    exact Way.atPath_sites (.of_trail_eq_nil rfl) ws
  · intro hc
    have hkeeps := List.all_eq_true.mpr (hpooled.mp hc).2
    rw [Way.filterMap_token?_eq_nil hkeeps] at hpath
    exact congrArg Pointer.mk hpath
  · rintro ws' w rfl hw
    exact hs.apart n c ws' w hc hws hw

end Derivation

end Conform
