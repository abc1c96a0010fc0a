import Conform.Proofs.Registries

/-!
The default vocabulary of a process over any calls. Until it is first used, it takes registrations as
an open registry does that begins with the known keywords. The first use settles it: every use gives
the vocabulary that this registry held then, and every later registration is refused. A refused
registration, early or late, is as if it had not been tried.
-/
namespace Conform

namespace Roll

variable {r : Roll}

theorem successes_ok (es : List Entry) : successes (es.map .ok) = es := by
  rw [successes, List.filterMap_map]
  exact List.filterMap_some

/-- A reached roll holds what it would if just its entries had been granted. -/
theorem Reached.records_entries (h : r.Reached) : r.Records r.entries := by
  have hrecords := records_run records_nil (r.entries.map Entry.request)
  rw [h.run_requests, successes_ok] at hrecords
  exact hrecords

theorem records_known : known.Records Vocabulary.known.entries := by
  have hreached : known.Reached := ⟨_, insertKnown_eq_run {} none⟩
  have hentries : known.entries = Vocabulary.known.entries := congrArg Roll.entries known_eq
  rw [← hentries]
  exact hreached.records_entries

end Roll

namespace Registry

/-- What holds of the answers of one registry holds of one that answers alike. -/
theorem Lists.of_sameReads {r s : Registry} {granted : List Entry} (h : r.SameReads s)
    (hs : s.Lists granted) : r.Lists granted := by
  have happlicable (keys : List String) (kind : Kind) :
      r.applicable keys kind = r.names.filter fun name =>
        keys.contains name && (r.lookup name).any (·.kinds.contains kind) := by
    rw [h.applicable, hs.applicable, h.names]
    simp only [h.lookup]
  refine ⟨?_, ?_, ?_, ?_, happlicable, ?_⟩
  · rw [h.names, hs.names]
  · rw [h.names]
    exact hs.nodup
  · rw [h.ordered, h.names]
    exact hs.orders
  · intro name
    rw [h.lookup, hs.latest]
  · intro keys keys' kind hkeys
    rw [h.applicable, h.applicable]
    exact hs.anyKeys keys keys' kind hkeys

end Registry

namespace DefaultVocabulary

/-- What is done to the default vocabulary: a registration, the decoration of a builder, which
registers it, or a use. -/
inductive Call where
  | register (q : Request)
  | decorate (name : Value) (types : List Value) (builder : Option Builder)
  | use

/-- What comes back: the entry that was made, the builder that was decorated, the vocabulary in use,
or a fault. -/
inductive Reply where
  | entered (e : Entry)
  | decorated (builder : Option Builder)
  | vocabulary (v : Vocabulary)
  | refused (f : Fault)

namespace Call

/-- The request that a call makes, unless it is a use. -/
def request? : Call → Option Request
  | .register q => some q
  | .decorate name types builder => some ⟨name, .arr types, builder⟩
  | .use => none

/-- What comes back from a call whose request is answered. -/
def reply : Call → Except Fault Entry → Reply
  | _, .error f => .refused f
  | .decorate _ _ builder, .ok _ => .decorated builder
  | _, .ok e => .entered e

/-- What comes back from a call when a vocabulary is in use. -/
def lateReply (v : Vocabulary) (c : Call) : Reply :=
  match c.request? with
  | some _ => .refused .vocabularyInUse
  | none => .vocabulary v

end Call

def Reply.isRefused : Reply → Bool
  | .refused _ => true
  | _ => false

def step (d : DefaultVocabulary) (c : Call) : DefaultVocabulary × Reply :=
  match c.request? with
  | some q =>
    let (left, answer) := d.register q.name q.types q.builder
    (left, c.reply answer)
  | none =>
    let (left, v) := d.use
    (left, .vocabulary v)

/-- What calls leave behind one after the other, and what came back from each. -/
def run (d : DefaultVocabulary) : List Call → DefaultVocabulary × List Reply
  | [] => (d, [])
  | c :: cs =>
    let (s, reply) := d.step c
    let (t, replies) := s.run cs
    (t, reply :: replies)

variable {d d' : DefaultVocabulary} {r : Roll} {v : Vocabulary} {c : Call} {q : Request}

theorem run_cons (d : DefaultVocabulary) (c : Call) (cs : List Call) :
    d.run (c :: cs) = (((d.step c).1.run cs).1, (d.step c).2 :: ((d.step c).1.run cs).2) :=
  rfl

/-- Before the first use, a call leaves and answers what the open registry does. -/
theorem step_open (hd : d.registry = .open_ r) (hc : c.request? = some q) :
    d.step c = (.building (r.submit q).1, c.reply (r.submit q).2) := by
  cases d with
  | unbuilt =>
    obtain rfl : Roll.known = r := Registry.open_.inj hd
    simp only [step, hc, register]
  | building s =>
    obtain rfl : s = r := Registry.open_.inj hd
    simp only [step, hc, register]
  | inUse v => cases hd

theorem step_frozen (hd : d.registry = .frozen v) (hc : c.request? = some q) :
    d.step c = (d, .refused .vocabularyInUse) := by
  cases d with
  | inUse w =>
    simp only [step, hc, register]
    cases c <;> rfl
  | _ => cases hd

theorem step_use (d : DefaultVocabulary) (hc : c.request? = none) :
    d.step c = (.inUse d.registry.vocabulary, .vocabulary d.registry.vocabulary) := by
  simp only [step, hc, use, current]

/-- All that a call can tell of what was done before is the registry that it goes to. -/
theorem step_congr (h : d'.registry = d.registry) (c : Call) :
    (d'.step c).2 = (d.step c).2 ∧ (d'.step c).1.registry = (d.step c).1.registry := by
  cases hc : c.request? with
  | none =>
    rw [step_use d' hc, step_use d hc, h]
    exact ⟨rfl, rfl⟩
  | some q =>
    cases hd : d.registry with
    | open_ r =>
      rw [step_open (h.trans hd) hc, step_open hd hc]
      exact ⟨rfl, rfl⟩
    | frozen v =>
      rw [step_frozen (h.trans hd) hc, step_frozen hd hc]
      exact ⟨rfl, h⟩

theorem Call.reply_isRefused {answer : Except Fault Entry} (h : (c.reply answer).isRefused) :
    ∃ f, answer = .error f := by
  cases answer with
  | error f => exact ⟨f, rfl⟩
  | ok e => cases c <;> cases h

theorem step_refused (h : (d.step c).2.isRefused) : (d.step c).1.registry = d.registry := by
  cases hc : c.request? with
  | none =>
    rw [step_use d hc] at h
    cases h
  | some q =>
    cases hd : d.registry with
    | open_ r =>
      rw [step_open hd hc] at h ⊢
      obtain ⟨f, hf⟩ := Call.reply_isRefused h
      exact congrArg Registry.open_ (Roll.submit_refused hf)
    | frozen v =>
      rw [step_frozen hd hc]
      exact hd

/-- By induction on the calls: without those that were refused, every other reply is the same, and so
is the registry in the end. -/
theorem run_kept (cs : List Call) (h : d'.registry = d.registry) :
    let kept := (cs.zip (d.run cs).2).filter fun x => !x.2.isRefused
    (d'.run (kept.map Prod.fst)).2 = kept.map Prod.snd ∧
      (d'.run (kept.map Prod.fst)).1.registry = (d.run cs).1.registry := by
  induction cs generalizing d d' with
  | nil => exact ⟨rfl, h⟩
  | cons c cs ih =>
    cases hrefused : (d.step c).2.isRefused with
    | true =>
      have hrest := ih (h.trans (step_refused hrefused).symm)
      simpa only [run_cons, List.zip_cons_cons, List.filter_cons, hrefused, Bool.not_true,
        Bool.false_eq_true, if_false] using hrest
    | false =>
      obtain ⟨hreply, hregistry⟩ := step_congr h c
      obtain ⟨hreplies, hlast⟩ := ih hregistry
      simp only [run_cons, List.zip_cons_cons, List.filter_cons, hrefused, Bool.not_false, if_true,
        List.map_cons]
      exact ⟨List.cons_eq_cons.mpr ⟨hreply, hreplies⟩, hlast⟩

/-- A vocabulary in use stays in use. -/
theorem run_frozen (cs : List Call) (hd : d.registry = .frozen v) :
    (d.run cs).2 = cs.map (Call.lateReply v) ∧ (d.run cs).1.registry = .frozen v := by
  induction cs generalizing d with
  | nil => exact ⟨rfl, hd⟩
  | cons c cs ih =>
    have hstep : (d.step c).2 = c.lateReply v ∧ (d.step c).1.registry = .frozen v := by
      cases hc : c.request? with
      | none =>
        rw [step_use d hc, hd, Call.lateReply, hc]
        exact ⟨rfl, rfl⟩
      | some q =>
        rw [step_frozen hd hc, Call.lateReply, hc]
        exact ⟨rfl, hd⟩
    obtain ⟨hreplies, hlast⟩ := ih hstep.2
    rw [run_cons, List.map_cons]
    exact ⟨List.cons_eq_cons.mpr ⟨hstep.1, hreplies⟩, hlast⟩

/-- By induction on the calls: while an open registry takes the requests, they are answered as it
answers them, and what it holds at the first use is in use from then on. -/
theorem run_split (calls : List Call) (hd : d.registry = .open_ r) :
    let early := calls.takeWhile (·.request?.isSome)
    let late := calls.dropWhile (·.request?.isSome)
    let roll := (r.run (early.filterMap Call.request?)).1
    let v := (Registry.open_ roll).vocabulary
    (d.run calls).2 = List.zipWith Call.reply early (r.run (early.filterMap Call.request?)).2 ++
        late.map (Call.lateReply v) ∧
      (d.run calls).1.registry = (if late = [] then .open_ roll else .frozen v) := by
  induction calls generalizing d r with
  | nil => exact ⟨rfl, hd⟩
  | cons c cs ih =>
    cases hc : c.request? with
    | none =>
      obtain ⟨hreplies, hlast⟩ := run_frozen cs (d := .inUse (Registry.open_ r).vocabulary) rfl
      simp only [List.takeWhile_cons, List.dropWhile_cons, hc, Option.isSome_none,
        Bool.false_eq_true, if_false, reduceCtorEq]
      rw [run_cons, step_use d hc, hd, List.map_cons, Call.lateReply, hc]
      exact ⟨congrArg (List.cons _) hreplies, hlast⟩
    | some q =>
      obtain ⟨hreplies, hlast⟩ := ih (d := .building (r.submit q).1) rfl
      simp only [List.takeWhile_cons, List.dropWhile_cons, hc, Option.isSome_some, if_true,
        List.filterMap_cons_some hc]
      rw [run_cons, step_open hd hc]
      exact ⟨congrArg (List.cons _) hreplies, hlast⟩

/-- Each call before the first use makes a request. -/
theorem requests_early (calls : List Call) :
    let early := calls.takeWhile (·.request?.isSome)
    early.map Call.request? = (early.filterMap Call.request?).map some := by
  induction calls with
  | nil => rfl
  | cons c cs ih =>
    cases hc : c.request? with
    | none => simp [hc]
    | some q =>
      simp only [List.takeWhile_cons, hc, Option.isSome_some, if_true, List.filterMap_cons_some hc,
        List.map_cons]
      exact congrArg (List.cons (some q)) ih

/-- The names of a registry that began with the known keywords: these, and behind them the others
that were granted, each where it first was. -/
theorem names_beyond_known {x : Registry} {granted : List Entry}
    (h : x.Lists (Vocabulary.known.entries ++ granted)) :
    x.names = Vocabulary.known.names ++
      ((granted.map (·.name)).filter (· ∉ Vocabulary.known.names)).eraseDups := by
  have hknown : Vocabulary.known.names.Nodup := by decide
  have hothers : (granted.map (·.name)).removeAll Vocabulary.known.names =
      (granted.map (·.name)).filter (· ∉ Vocabulary.known.names) := by
    apply List.filter_congr
    intro name _
    simp
  rw [h.names, List.map_append, List.eraseDups_append, ← hothers]
  exact congrArg (· ++ _) (eraseDups_of_nodup hknown)

/-- Any calls, beginning when nothing is built. Those before the first use are answered as an open
registry answers their requests that starts with the known keywords, so that a request is granted
exactly if it is well formed. From the first use on, every use gives the one vocabulary that this
registry then held, and every registration is refused because the vocabulary is in use.

That vocabulary lists the known keywords and then what was granted, where a name that was there keeps
its place and is looked up as what was granted last. Whatever was done, a refused call leaves the
registry as it was, and without the refused calls every other one has the same reply. -/
theorem settled_by_first_use (calls : List Call) :
    let early := calls.takeWhile (·.request?.isSome)
    let late := calls.dropWhile (·.request?.isSome)
    let asked := early.filterMap Call.request?
    let roll := (Roll.known.run asked).1
    let answers := (Roll.known.run asked).2
    let granted := Roll.successes answers
    let v := (Registry.open_ roll).vocabulary
    let kept := (calls.zip (run .unbuilt calls).2).filter fun x => !x.2.isRefused
    (run .unbuilt calls).2 = List.zipWith Call.reply early answers ++ late.map (Call.lateReply v) ∧
    (run .unbuilt calls).1.registry = (if late = [] then .open_ roll else .frozen v) ∧
    early.map Call.request? = asked.map some ∧
    List.Forall₂ Request.Answered asked answers ∧
    Fault.vocabularyInUse.label = "RegistryFrozenError" ∧
    (Registry.frozen v).SameReads (.open_ roll) ∧
    (Registry.frozen v).Lists (Vocabulary.known.entries ++ granted) ∧
    v.names = Vocabulary.known.names ++
      ((granted.map (·.name)).filter (· ∉ Vocabulary.known.names)).eraseDups ∧
    (∀ (d : DefaultVocabulary) (c : Call),
      (d.step c).2.isRefused → (d.step c).1.registry = d.registry) ∧
    (run .unbuilt (kept.map Prod.fst)).2 = kept.map Prod.snd ∧
    (run .unbuilt (kept.map Prod.fst)).1.registry = (run .unbuilt calls).1.registry := by
  intro early late asked roll answers granted v kept
  obtain ⟨hreplies, hregistry⟩ := run_split calls (d := .unbuilt) (r := .known) rfl
  have hrecords : roll.Records (Vocabulary.known.entries ++ granted) :=
    Roll.records_run Roll.records_known asked
  have hreads : (Registry.frozen v).SameReads (.open_ roll) :=
    Registry.sameReads_freeze hrecords.nodup
  have hlists : (Registry.frozen v).Lists (Vocabulary.known.entries ++ granted) :=
    (Registry.lists_of_records hrecords).of_sameReads hreads
  have hsame : DefaultVocabulary.unbuilt.registry = DefaultVocabulary.unbuilt.registry := rfl
  obtain ⟨hkept, hlast⟩ := run_kept calls hsame
  exact ⟨hreplies, hregistry, requests_early calls, Roll.answered_run _ _, rfl, hreads, hlists,
    names_beyond_known hlists, fun d c => step_refused, hkept, hlast⟩

end DefaultVocabulary

end Conform
