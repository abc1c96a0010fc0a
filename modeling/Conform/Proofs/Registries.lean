import Conform.Proofs.Rolls
import Conform.Proofs.Verdict

/-!
Registries as maps in the order of insertion. What an open registry answers is determined by what
was granted since it was empty. A frozen copy answers as the registry did when it was made, whatever
is done to any registry later, and opening it again and freezing that gives the same copy.
-/
namespace Conform

namespace Registry

/-- What a registry answers after some entries were granted, the last of them last. -/
structure Lists (granted : List Entry) (r : Registry) : Prop where
  names : r.names = (granted.map (·.name)).eraseDups
  nodup : r.names.Nodup
  orders : r.ordered.map (·.order) = List.range r.names.length
  latest : ∀ name, r.lookup name = granted.reverse.find? (·.name == name)
  applicable : ∀ keys kind, r.applicable keys kind = r.names.filter fun name =>
    keys.contains name && (r.lookup name).any (·.kinds.contains kind)
  anyKeys : ∀ keys keys' kind, (∀ name, name ∈ keys ↔ name ∈ keys') →
    r.applicable keys kind = r.applicable keys' kind

/-- Every read of one registry is answered as by the other. -/
structure SameReads (r s : Registry) : Prop where
  ordered : r.ordered = s.ordered
  names : r.names = s.names
  size : r.size = s.size
  lookup : ∀ name, r.lookup name = s.lookup name
  contains : ∀ name, r.contains name = s.contains name
  applicable : ∀ keys kind, r.applicable keys kind = s.applicable keys kind

variable {x : Registry} {r : Roll} {granted : List Entry}

/-- A refused request leaves a registry as it was, open or frozen. -/
theorem submit_refused (x : Registry) {q : Request} {f : Fault} (h : (x.submit q).2 = .error f) :
    (x.submit q).1 = x := by
  cases x with
  | open_ roll => exact congrArg open_ (Roll.submit_refused h)
  | frozen v => rfl

/-- The entries stand in the order of their numbers already. -/
theorem ordered_of_records (h : r.Records granted) : (open_ r).ordered = r.entries := by
  apply List.mergeSort_of_pairwise
  have hrange : (r.entries.map (·.order)).Pairwise (· < ·) := by
    rw [h.orders]
    exact List.pairwise_lt_range
  exact (List.pairwise_map.mp hrange).imp fun hlt => decide_eq_true (Nat.le_of_lt hlt)

theorem names_of_records (h : r.Records granted) :
    (open_ r).names = r.entries.map (·.name) := by
  rw [names, ordered_of_records h]

theorem found_of_records (h : r.Records granted) :
    ∀ e ∈ (open_ r).ordered, (open_ r).lookup e.name = some e := by
  rw [ordered_of_records h]
  exact h.found

/-- Where each entry is found under its name, the applicable names can be told by looking up. -/
theorem applicable_eq (h : ∀ e ∈ x.ordered, x.lookup e.name = some e) (keys : List String)
    (kind : Kind) : x.applicable keys kind = x.names.filter fun name =>
      keys.contains name && (x.lookup name).any (·.kinds.contains kind) := by
  have hfilter : (x.ordered.filter fun e => keys.contains e.name && e.kinds.contains kind) =
      x.ordered.filter fun e =>
        keys.contains e.name && (x.lookup e.name).any (·.kinds.contains kind) := by
    apply List.filter_congr
    intro e he
    rw [h e he, Option.any_some]
  rw [names, List.filter_map]
  exact congrArg (List.map (·.name)) hfilter

theorem lists_of_records (h : r.Records granted) : (open_ r).Lists granted := by
  have hnames := names_of_records h
  have hfound := found_of_records h
  refine ⟨hnames.trans h.names, hnames ▸ h.nodup, ?_, h.latest, applicable_eq hfound, ?_⟩
  · rw [ordered_of_records h, h.orders, h.next_eq, hnames, List.length_map]
  · intro keys keys' kind hkeys
    have hsame (name : String) : keys.contains name = keys'.contains name := by
      rw [Bool.eq_iff_iff, List.contains_iff_mem, List.contains_iff_mem, hkeys]
    rw [applicable_eq hfound, applicable_eq hfound]
    simp only [hsame]

/-- Sorting the entries and finding the last of a name, instead of the first, changes no answer. -/
theorem sameReads_freeze (h : (r.entries.map (·.name)).Nodup) :
    (open_ r).freeze.SameReads (open_ r) := by
  have hperm : (open_ r).ordered.Perm r.entries := List.mergeSort_perm _ _
  have hnodup : ((open_ r).ordered.map (·.name)).Nodup :=
    (hperm.map _).nodup_iff.mpr h
  have hreverse : ((open_ r).ordered.reverse.map (·.name)).Nodup := by
    rw [List.map_reverse, List.nodup_reverse]
    exact hnodup
  have hlookup (name : String) : (open_ r).freeze.lookup name = (open_ r).lookup name := by
    apply Option.ext
    intro e
    apply (Entry.find?_name hreverse).trans
    apply Iff.trans _ (Entry.find?_name h).symm
    rw [List.mem_reverse, hperm.mem_iff]
  refine ⟨rfl, rfl, ?_, hlookup, fun name => ?_, fun _ _ => rfl⟩
  · change ((open_ r).ordered.map (·.name)).eraseDups.length = r.entries.length
    rw [eraseDups_of_nodup hnodup, List.length_map, hperm.length_eq]
  · rw [contains, contains, hlookup]

/-- A registry that was reached by requests, or a frozen copy of one. -/
def Reached (x : Registry) : Prop :=
  ∃ r : Roll, r.Reached ∧ (x = .open_ r ∨ x = (open_ r).freeze)

theorem Reached.ordered (h : x.Reached) :
    ∃ r : Roll, r.Reached ∧ x.ordered = r.entries := by
  obtain ⟨r, hr, hx⟩ := h
  obtain ⟨granted, hrecords⟩ := hr.records
  have hopen := ordered_of_records hrecords
  rcases hx with rfl | rfl
  · exact ⟨r, hr, hopen⟩
  · exact ⟨r, hr, hopen⟩

theorem Reached.sameReads (h : x.Reached) : x.freeze.SameReads x := by
  obtain ⟨r, hr, rfl | rfl⟩ := h
  · obtain ⟨granted, hrecords⟩ := hr.records
    exact sameReads_freeze hrecords.nodup
  · exact ⟨rfl, rfl, rfl, fun _ => rfl, fun _ => rfl, fun _ _ => rfl⟩

theorem Reached.found (h : x.Reached) : ∀ e ∈ x.ordered, x.lookup e.name = some e := by
  obtain ⟨r, hr, hx⟩ := h
  obtain ⟨granted, hrecords⟩ := hr.records
  have hopen := found_of_records hrecords
  rcases hx with rfl | rfl
  · exact hopen
  · intro e he
    exact ((sameReads_freeze hrecords.nodup).lookup e.name).trans (hopen e he)

/-- Judging by a vocabulary uses the entries that are looked up under the applicable names. -/
theorem Reached.applicable_lookup (h : x.Reached) (keys : List String) (kind : Kind) :
    (x.vocabulary.applicable keys kind).map some = (x.applicable keys kind).map x.lookup := by
  rw [Registry.applicable, List.map_map]
  apply List.map_congr_left
  intro e he
  exact (h.found e (List.mem_of_mem_filter he)).symm

theorem Reached.freeze (h : x.Reached) : x.freeze.Reached := by
  obtain ⟨r, hr, rfl | rfl⟩ := h
  · exact ⟨r, hr, .inr rfl⟩
  · exact ⟨r, hr, .inr rfl⟩

/-- Opening a copy enters each of its entries anew. -/
theorem Reached.granted_anew (h : x.Reached) :
    (Roll.run {} (x.ordered.map Entry.request)).2 = x.ordered.map .ok := by
  obtain ⟨r, hr, hordered⟩ := h.ordered
  rw [hordered, hr.run_requests]

theorem Reached.thaw (h : x.Reached) : x.thaw.Reached := by
  obtain ⟨r, hr, hordered⟩ := h.ordered
  refine ⟨r, hr, .inl ?_⟩
  rw [Registry.thaw, hordered, hr.run_requests]

theorem Reached.freeze_thaw_freeze (h : x.Reached) : x.freeze.thaw.freeze = x.freeze := by
  obtain ⟨r, hr, hordered⟩ := h.ordered
  obtain ⟨granted, hrecords⟩ := hr.records
  have hthaw : x.freeze.thaw = .open_ r := by
    change open_ (Roll.run {} (x.ordered.map Entry.request)).1 = _
    rw [hordered, hr.run_requests]
  rw [hthaw, Registry.freeze, Registry.freeze, vocabulary, vocabulary, hordered,
    ordered_of_records hrecords]

theorem Reached.submit (h : x.Reached) (q : Request) : (x.submit q).1.Reached := by
  obtain ⟨r, hr, rfl | rfl⟩ := h
  · exact ⟨_, hr.run [q], .inl rfl⟩
  · exact ⟨r, hr, .inr rfl⟩

theorem insertKnown_frozen (v : Vocabulary) (only : Option (List String)) :
    ((frozen v).insertKnown only).toOption.getD (frozen v) = frozen v := by
  rw [insertKnown]
  split <;> rfl

theorem Reached.insertKnown (h : x.Reached) (only : Option (List String)) :
    ((x.insertKnown only).toOption.getD x).Reached := by
  obtain ⟨r, hr, rfl | rfl⟩ := h
  · have hrun := hr.run ((Vocabulary.insertKnown {} only).entries.map Entry.request)
    rw [← Roll.insertKnown_eq_run] at hrun
    exact ⟨_, hrun, .inl rfl⟩
  · exact ⟨r, hr, .inr (insertKnown_frozen _ only)⟩

end Registry

/-- The registries and the validators of a process, each by the order in which it was made. -/
structure Shelf where
  registries : List Registry := []
  validators : List Validator := []

/-- What is done to a registry at a place: requests change it, freezing and thawing copy it, and
binding makes a validator of it. -/
inductive Act where
  | create
  | submit (i : Nat) (q : Request)
  | insertKnown (i : Nat) (only : Option (List String))
  | freeze (i : Nat)
  | thaw (i : Nat)
  | bind (i : Nat) (schema : Value) (options : Options) (documents : Option Documents)
      (baseUri : String) (store : Members)

namespace Shelf

def step (s : Shelf) : Act → Shelf
  | .create => { s with registries := s.registries ++ [.open_ {}] }
  | .submit i q => { s with registries := s.registries.modify i fun r => (r.submit q).1 }
  | .insertKnown i only =>
    { s with registries := s.registries.modify i fun r => (r.insertKnown only).toOption.getD r }
  | .freeze i =>
    { s with registries := s.registries ++ (s.registries[i]?.map Registry.freeze).toList }
  | .thaw i => { s with registries := s.registries ++ (s.registries[i]?.map Registry.thaw).toList }
  | .bind i schema options documents baseUri store =>
    let made := s.registries[i]?.bind fun r =>
      (Validator.make schema r.vocabulary options documents baseUri store).toOption
    { s with validators := s.validators ++ made.toList }

def run (s : Shelf) (acts : List Act) : Shelf := acts.foldl step s

/-- Whatever each act preserves, a run does. -/
theorem run_preserves {P : Shelf → Prop} (hstep : ∀ s a, P s → P (s.step a)) {s : Shelf} (hs : P s)
    (acts : List Act) : P (s.run acts) := by
  induction acts generalizing s with
  | nil => exact hs
  | cons a acts ih => exact ih (hstep s a hs)

/-- Registries that are only changed by requests stay reached. -/
theorem reached_step {s : Shelf} (h : ∀ r ∈ s.registries, r.Reached) (a : Act) :
    ∀ r ∈ (s.step a).registries, r.Reached := by
  have hadd (i : Nat) (f : Registry → Registry) (hf : ∀ r, r.Reached → (f r).Reached) :
      ∀ r ∈ s.registries ++ (s.registries[i]?.map f).toList, r.Reached := by
    intro r hr
    rcases List.mem_append.mp hr with hr | hr
    · exact h r hr
    · obtain ⟨x, hx, rfl⟩ := Option.map_eq_some_iff.mp (Option.mem_toList.mp hr)
      exact hf x (h x (List.mem_of_getElem? hx))
  have hmodify (i : Nat) (f : Registry → Registry) (hf : ∀ r, r.Reached → (f r).Reached) :
      ∀ r ∈ s.registries.modify i f, r.Reached := by
    intro r hr
    obtain ⟨j, hj⟩ := List.mem_iff_getElem?.mp hr
    rw [List.getElem?_modify] at hj
    obtain ⟨x, hx, rfl⟩ := Option.map_eq_some_iff.mp hj
    have hreached := h x (List.mem_of_getElem? hx)
    split
    · exact hf x hreached
    · exact hreached
  cases a with
  | create =>
    intro r hr
    rcases List.mem_append.mp hr with hr | hr
    · exact h r hr
    · exact ⟨{}, ⟨[], rfl⟩, .inl (List.mem_singleton.mp hr)⟩
  | submit i q => exact hmodify i _ fun r hr => hr.submit q
  | insertKnown i only => exact hmodify i _ fun r hr => hr.insertKnown only
  | freeze i => exact hadd i _ fun r hr => hr.freeze
  | thaw i => exact hadd i _ fun r hr => hr.thaw
  | bind i schema options documents baseUri store => exact h

theorem reached_run (acts : List Act) : ∀ r ∈ (run {} acts).registries, r.Reached :=
  run_preserves (P := fun s => ∀ r ∈ s.registries, r.Reached) (fun _ a h => reached_step h a)
    (List.forall_mem_nil _) acts

theorem getElem?_append_of_some {α : Type} {l : List α} {j : Nat} {x : α} (h : l[j]? = some x)
    (m : List α) : (l ++ m)[j]? = some x := by
  obtain ⟨hj, _⟩ := List.getElem?_eq_some_iff.mp h
  rw [List.getElem?_append_left hj, h]

/-- A frozen registry is never changed. -/
theorem frozen_step {j : Nat} {v : Vocabulary} (s : Shelf) (a : Act)
    (h : s.registries[j]? = some (.frozen v)) :
    (s.step a).registries[j]? = some (.frozen v) := by
  have hmodify (i : Nat) (f : Registry → Registry) (hf : f (.frozen v) = .frozen v) :
      (s.registries.modify i f)[j]? = some (.frozen v) := by
    rw [List.getElem?_modify, h]
    change some (if i = j then f (.frozen v) else .frozen v) = _
    rw [hf, ite_self]
  cases a with
  | submit i q => exact hmodify i _ rfl
  | insertKnown i only => exact hmodify i _ (Registry.insertKnown_frozen v only)
  | create | freeze i | thaw i => exact getElem?_append_of_some h _
  | bind i schema options documents baseUri store => exact h

/-- Neither is a validator. -/
theorem validator_step {j : Nat} {w : Validator} (s : Shelf) (a : Act)
    (h : s.validators[j]? = some w) : (s.step a).validators[j]? = some w := by
  cases a with
  | bind i schema options documents baseUri store => exact getElem?_append_of_some h _
  | _ => exact h

/-- Requests to one registry. -/
theorem run_submits (qs : List Request) (r : Roll) :
    run ⟨[.open_ r], []⟩ (qs.map (Act.submit 0)) = ⟨[.open_ (r.run qs).1], []⟩ := by
  induction qs generalizing r with
  | nil => rfl
  | cons q qs ih => exact ih (r.submit q).1

end Shelf

/-- Requests to an empty registry, one after the other, make a map in the order of insertion. Each
is granted exactly if it is well formed, and a refused one leaves any registry as it was. The names
are those that were granted, each once and where it first was, numbered without a gap; what is
looked up is what was granted under the name last; and the names that apply to a kind are picked
from all names, however the keys are listed.

Whatever was done to the registries of a process before, a frozen copy of any of them answers every
read as that registry did then, and it stays that copy whatever is done later; so does a validator
that is bound to the registry, and what it judges by is what those reads give. Opening the copy
enters each of its entries anew, and freezing the result gives the same copy. -/
theorem Registry.insertion_ordered (qs : List Request) :
    let r : Registry := .open_ (Roll.run {} qs).1
    let answers := (Roll.run {} qs).2
    List.Forall₂ Request.Answered qs answers ∧
    (∀ (x : Registry) (q : Request) (f : Fault), (x.submit q).2 = .error f → (x.submit q).1 = x) ∧
    r.Lists (Roll.successes answers) ∧
    (Shelf.run {} (.create :: qs.map (.submit 0))).registries = [r] ∧
    ∀ (before later : List Act) (i : Nat) (x : Registry),
      let s := Shelf.run {} before
      s.registries[i]? = some x →
      x.freeze.SameReads x ∧
      ((s.step (.freeze i)).run later).registries[s.registries.length]? = some x.freeze ∧
      (Roll.run {} (x.freeze.ordered.map Entry.request)).2 = x.freeze.ordered.map .ok ∧
      x.freeze.thaw.freeze = x.freeze ∧
      (∀ (keys : List String) (kind : Kind),
        (x.vocabulary.applicable keys kind).map some = (x.applicable keys kind).map x.lookup) ∧
      ∀ (schema : Value) (options : Options) (documents : Option Documents) (baseUri : String)
        (store : Members) (w : Validator),
        Validator.make schema x.vocabulary options documents baseUri store = .ok w →
        ((s.step (.bind i schema options documents baseUri store)).run later).validators[
            s.validators.length]? = some w ∧
          w.setting.vocabulary = x.vocabulary := by
  intro r answers
  have hrecords := Roll.records_run Roll.records_nil qs
  refine ⟨Roll.answered_run {} qs, submit_refused, lists_of_records hrecords, ?_, ?_⟩
  · exact congrArg Shelf.registries (Shelf.run_submits qs {})
  · intro before later i x s hx
    have hreached : x.Reached := Shelf.reached_run before x (List.mem_of_getElem? hx)
    have hcopy : (s.step (.freeze i)).registries[s.registries.length]? = some x.freeze := by
      change (s.registries ++ (s.registries[i]?.map Registry.freeze).toList)[_]? = _
      rw [hx, Option.map_some, Option.toList_some, List.getElem?_concat_length]
    refine ⟨hreached.sameReads, ?_, hreached.granted_anew, hreached.freeze_thaw_freeze,
      hreached.applicable_lookup, ?_⟩
    · exact Shelf.run_preserves (Shelf.frozen_step) hcopy later
    · intro schema options documents baseUri store w hw
      have hbound : (s.step (.bind i schema options documents baseUri store)).validators[
          s.validators.length]? = some w := by
        change (s.validators ++ (s.registries[i]?.bind fun r =>
          (Validator.make schema r.vocabulary options documents baseUri store).toOption).toList)[_]?
            = _
        rw [hx, Option.bind_some, hw]
        exact List.getElem?_concat_length
      obtain ⟨d, l, rfl⟩ := Validator.eq_of_make hw
      exact ⟨Shelf.run_preserves Shelf.validator_step hbound later, rfl⟩

/-- A name that is registered again keeps its place, and neither a frozen copy nor a validator sees
what is registered later. -/
theorem Registry.insertion_ordered_snapshot :
    let ask (name type : String) : Request :=
      ⟨.str name, .arr [.str type], some fun _ => ([], .ok (.plain "checker"))⟩
    let qs := [ask "b" "string", ask "a" "integer", ask "" "string", ask "b" "object"]
    let s := Shelf.run {} (.create :: qs.map (.submit 0))
    let r : Registry := .open_ (Roll.run {} qs).1
    let w : Validator := ⟨.obj [], ⟨r.vocabulary, {}, {}, .report⟩, ⟨"", .root⟩⟩
    let later : List Act := [.submit 0 (ask "c" "null")]
    s.registries[0]? = some r ∧ r.names = ["b", "a"] ∧
      (r.lookup "b").map (fun e => (e.kinds, e.order)) = some ([.object], 0) ∧
      ((s.step (.freeze 0)).run later).registries[1]? = some r.freeze ∧
      r.freeze.names = ["b", "a"] ∧
      ((s.step (.bind 0 (.obj []) {} (some {}) "" [])).run later).validators[0]? = some w := by
  intro ask qs s r w later
  obtain ⟨-, -, hlists, hshelf, hshelves⟩ := insertion_ordered qs
  have hr : s.registries[0]? = some r := congrArg (·[0]?) hshelf
  obtain ⟨hreads, hcopy, -, -, -, hbound⟩ :=
    hshelves (.create :: qs.map (.submit 0)) later 0 r hr
  have hnames : r.names = ["b", "a"] := hlists.names
  refine ⟨hr, hnames, ?_, hcopy, hreads.names.trans hnames, ?_⟩
  · rw [hlists.latest]
    rfl
  · exact (hbound (.obj []) {} (some {}) "" [] w rfl).1

end Conform
