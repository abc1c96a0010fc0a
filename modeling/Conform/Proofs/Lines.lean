import Conform.Log.Session
import Conform.Proofs.Answer
import Conform.Proofs.PlainValues

/-!
Log records as lines of JSON. A line reads back as one object in which each name stands for what
was put there last: the extra fields, the error and the stack come after the correlation fields,
and these after the time, the level, the logger and the message. So the line tells the record and
its correlation fields exactly where none of these is named like another part of the line.
-/
namespace Conform.Log

namespace Correlation

variable {c c' : Correlation} {name text : String}

/-- Whether fields are in force somewhere inside scopes that were entered one in another. -/
def Established (c : Correlation) : Prop :=
  ∃ scopes : List Members, scopes.foldlM enter [] = .ok c

theorem mem_names_put {k : String} (h : k ∈ (c.put name text).map Prod.fst) :
    k = name ∨ k ∈ c.map Prod.fst := by
  induction c with
  | nil => exact .inl (by simpa [put] using h)
  | cons f c ih =>
    obtain ⟨k', s'⟩ := f
    rw [put] at h
    split at h
    · rcases List.mem_cons.mp h with rfl | h
      · exact .inl rfl
      · exact .inr (List.mem_cons_of_mem _ h)
    · rcases List.mem_cons.mp h with rfl | h
      · exact .inr List.mem_cons_self
      · exact (ih h).imp_right (List.mem_cons_of_mem _)

theorem nodup_put (h : (c.map Prod.fst).Nodup) : ((c.put name text).map Prod.fst).Nodup := by
  induction c with
  | nil => exact List.nodup_singleton name
  | cons f c ih =>
    obtain ⟨k', s'⟩ := f
    obtain ⟨hfresh, hrest⟩ := List.nodup_cons.mp h
    rw [put]
    split
    · rename_i hk
      obtain rfl : k' = name := hk
      exact List.nodup_cons.mpr ⟨hfresh, hrest⟩
    · rename_i hk
      refine List.nodup_cons.mpr ⟨fun hmem => ?_, ih hrest⟩
      exact (mem_names_put hmem).elim hk hfresh

theorem nodup_bind {field : String × Value} (h : (c.map Prod.fst).Nodup)
    (hbind : c.bind field = .ok c') : (c'.map Prod.fst).Nodup := by
  unfold bind at hbind
  simp only at hbind
  split at hbind
  · cases hbind
  · split at hbind
    · obtain rfl := Except.ok.inj hbind
      exact h.sublist (List.filter_sublist.map Prod.fst)
    · split at hbind
      · cases hbind
      · obtain rfl := Except.ok.inj hbind
        exact nodup_put h
    · cases hbind

/-- The fields in force have different names. -/
theorem Established.nodup (h : c.Established) : (c.map Prod.fst).Nodup := by
  obtain ⟨scopes, hscopes⟩ := h
  refine Answer.foldlM_ok (P := fun c => (c.map Prod.fst).Nodup) ?_ List.nodup_nil hscopes
  intro c fields c' hc _ henter
  refine Answer.foldlM_ok (P := fun c => (c.map Prod.fst).Nodup) ?_ hc henter
  intro c field c' hc _ hbind
  exact nodup_bind hc hbind

theorem keys_members (c : Correlation) : Members.keys c.members = c.map Prod.fst := by
  rw [Members.keys, members, List.map_map]
  rfl

theorem get?_members (c : Correlation) (name : String) :
    c.members.get? name = (c.lookup name).map Value.str := by
  induction c with
  | nil => rfl
  | cons f c ih =>
    have hcons : members (f :: c) = (f.1, .str f.2) :: members c := rfl
    rw [hcons, Members.get?_cons, Members.lookup_cons, ih]
    split <;> rfl

end Correlation

namespace Record

variable {r : Record} {c : Correlation} {ms ns : Members} {time text name : String}

/-- What a record itself tells in a line. -/
def own (r : Record) (time text : String) : Members :=
  [("timestamp", .str time), ("level", .str (levelName r.level)), ("logger", .str r.logger),
    ("message", .str text)]

/-- What is put into a line after the correlation fields. -/
def later (r : Record) : Members :=
  (if r.fields.isEmpty then [] else [("fields", .obj r.fields)]) ++
    (r.exception.map fun e => ("exception", Value.str e)).toList ++ optionalMember "stack" r.stack

/-- What a name stands for in a line. -/
def told (r : Record) (c : Correlation) (time text name : String) : Option Value :=
  (r.later.get? name).or (((c.lookup name).map Value.str).or ((r.own time text).get? name))

/-- What a record knows itself is not among the extra fields that it is logged with. -/
theorem get?_of_clash (h : Session.clash r = none)
    (hname : (ownNames.contains name || writtenNames.contains name) = true) :
    r.extra.get? name = none := by
  rw [Session.clash, Option.map_eq_none_iff, List.find?_eq_none] at h
  rw [Members.get?_eq_none_iff]
  intro hmem
  obtain ⟨f, hf, rfl⟩ := List.mem_map.mp hmem
  exact h f hf hname

theorem shown_of_clash (h : Session.clash r = none)
    (hname : (ownNames.contains name || writtenNames.contains name) = true) (v : Value) :
    r.shown name v = v := by
  rw [shown, get?_of_clash h hname]
  rfl

/-- Texts are written as they are. -/
theorem mapM_written {ms : Members} (h : ∀ m ∈ ms, ∃ s, m.2 = .str s) :
    (ms.mapM fun m => m.2.written.map fun shown => (m.1, Value.str shown)) = .ok ms := by
  induction ms with
  | nil => rfl
  | cons m ms ih =>
    obtain ⟨⟨s, hs⟩, hrest⟩ := List.forall_mem_cons.mp h
    obtain ⟨k, v⟩ := m
    obtain rfl : v = .str s := hs
    rw [List.mapM_cons, ih hrest]
    rfl

theorem event_eq (hr : r.correlationMembers = c.members) (h : Session.clash r = none) :
    r.event = (do
      let time ← stamp r.created
      let text ← r.text
      return (c.members.sorted ++ r.later).foldl (fun e m => e.put m.1 m.2) (r.own time text)) := by
  have hlevel : r.levelShown = .str (levelName r.level) := shown_of_clash h (by decide) _
  have hsource : r.source = .str r.logger := shown_of_clash h (by decide) _
  have hstack : r.stackText = r.stack := by
    rw [stackText, get?_of_clash h (by decide)]
  have htexts : ∀ m ∈ c.members.sorted, ∃ s, m.2 = .str s := by
    intro m hm
    have hmem := (Members.sorted_perm _).mem_iff.mp hm
    obtain ⟨f, -, rfl⟩ := List.mem_map.mp hmem
    exact ⟨f.2, rfl⟩
  simp only [event, hlevel, hsource, hstack, hr, mapM_written htexts]
  rfl

/-- Of members that are set one after the other the last of a name counts. -/
theorem get?_foldl_put (ns ms : Members) (name : String) :
    (ns.foldl (fun e m => e.put m.1 m.2) ms).get? name =
      (Members.get? ns.reverse name).or (ms.get? name) := by
  induction ns generalizing ms with
  | nil => rfl
  | cons n ns ih =>
    rw [List.foldl_cons, ih, Members.get?_put_eq, List.reverse_cons]
    have happend : Members.get? (ns.reverse ++ [n]) name =
        (Members.get? ns.reverse name).or (if n.1 = name then some n.2 else none) := by
      rw [Members.get?, List.lookup_append, ← Members.get?, ← Members.get?, Members.get?_cons]
      rcases eq_or_ne n.1 name with rfl | hne
      · simp
      · rw [if_neg hne, if_neg hne.symm]
        rfl
    rw [happend, Option.or_assoc]
    congr 1
    split <;> rfl

theorem nodup_foldl_put (hn : (Members.keys ms).Nodup) :
    (Members.keys (ns.foldl (fun e m => e.put m.1 m.2) ms)).Nodup := by
  induction ns generalizing ms with
  | nil => exact hn
  | cons n ns ih => exact ih (Members.nodup_put n.2 hn)

theorem mem_foldl_put {m : String × Value} (h : m ∈ ns.foldl (fun e m => e.put m.1 m.2) ms) :
    m ∈ ms ∨ m ∈ ns := by
  induction ns generalizing ms with
  | nil => exact .inl h
  | cons n ns ih =>
    rcases ih h with h | h
    · rcases Members.mem_put h with rfl | h
      · exact .inr List.mem_cons_self
      · exact .inl h
    · exact .inr (List.mem_cons_of_mem _ h)

theorem get?_reverse (hn : (Members.keys ms).Nodup) (name : String) :
    Members.get? ms.reverse name = ms.get? name :=
  (Members.get?_perm hn (List.reverse_perm ms).symm name).symm

theorem nodup_later (r : Record) : (Members.keys r.later).Nodup := by
  have hstack : optionalMember "stack" r.stack = [] ∨
      ∃ s, optionalMember "stack" r.stack = [("stack", .str s)] := by
    cases r.stack with
    | none => exact .inl rfl
    | some s =>
      rw [optionalMember]
      split
      · exact .inl rfl
      · exact .inr ⟨s, rfl⟩
  rw [later]
  rcases hstack with hstack | ⟨s, hstack⟩ <;> rw [hstack] <;> cases r.exception <;> split <;>
    simp [Members.keys]

theorem nodup_own (r : Record) (time text : String) : (Members.keys (r.own time text)).Nodup := by
  have hkeys : Members.keys (r.own time text) = ["timestamp", "level", "logger", "message"] := rfl
  rw [hkeys]
  decide

/-- The members of a line. -/
def lineMembers (r : Record) (c : Correlation) (time text : String) : Members :=
  (c.members.sorted ++ r.later).foldl (fun e m => e.put m.1 m.2) (r.own time text)

theorem get?_lineMembers (hc : (c.map Prod.fst).Nodup) (r : Record) (time text name : String) :
    (r.lineMembers c time text).get? name = r.told c time text name := by
  have hmembers : (Members.keys c.members).Nodup := by
    rw [Correlation.keys_members]
    exact hc
  rw [lineMembers, get?_foldl_put, List.reverse_append, Members.get?, List.lookup_append,
    Option.or_assoc]
  have hlater := get?_reverse r.nodup_later name
  have hmarks := (get?_reverse (Members.nodup_sorted hmembers) name).trans
    ((Members.get?_sorted hmembers name).trans (c.get?_members name))
  rw [told, ← hlater, ← hmarks]
  rfl

theorem fields_eq (r : Record) :
    r.fields = (r.extra.filter fun f => isField f.1).map fun f => (f.1, f.2.plain) := rfl

theorem nodup_fields (h : (Value.obj r.extra).Held) : (Members.keys r.fields).Nodup := by
  have hkeys : Members.keys r.fields = (r.extra.filter fun f => isField f.1).map Prod.fst := by
    rw [fields_eq, Members.keys, List.map_map]
    rfl
  rw [hkeys]
  exact h.nodup.sublist (List.filter_sublist.map Prod.fst)

theorem held_of_mem_fields (h : (Value.obj r.extra).Held) {m : String × Value} (hm : m ∈ r.fields) :
    ∃ v : Value, v.Held ∧ m.2 = v.plain := by
  obtain ⟨f, hf, rfl⟩ := List.mem_map.mp hm
  exact ⟨f.2, h.of_mem (List.mem_of_mem_filter hf), rfl⟩

theorem isJson_fields (h : (Value.obj r.extra).Held) : (Value.obj r.fields).IsJson := by
  refine .obj ?_
  intro m hm
  obtain ⟨v, hv, hplain⟩ := held_of_mem_fields h hm
  rw [hplain]
  exact hv.isJson_plain

theorem distinct_fields (h : (Value.obj r.extra).Held) : (Value.obj r.fields).Distinct := by
  refine .object (nodup_fields h) ?_
  intro m hm
  obtain ⟨v, hv, hplain⟩ := held_of_mem_fields h hm
  rw [hplain]
  exact hv.distinct_plain

/-- What stands in a line: texts, and the extra fields. -/
theorem of_mem_lineMembers {m : String × Value} (h : m ∈ r.lineMembers c time text) :
    (∃ s, m.2 = .str s) ∨ m.2 = .obj r.fields := by
  rcases mem_foldl_put h with h | h
  · have hown : ∀ m ∈ r.own time text, ∃ s, m.2 = .str s := by simp [own]
    exact .inl (hown m h)
  · rcases List.mem_append.mp h with h | h
    · obtain ⟨f, -, rfl⟩ := List.mem_map.mp ((Members.sorted_perm _).mem_iff.mp h)
      exact .inl ⟨f.2, rfl⟩
    · rcases List.mem_append.mp h with h | h
      · rcases List.mem_append.mp h with h | h
        · split at h
          · cases h
          · rw [List.mem_singleton.mp h]
            exact .inr rfl
        · rw [Option.mem_toList, Option.map_eq_some_iff] at h
          obtain ⟨e, -, rfl⟩ := h
          exact .inl ⟨e, rfl⟩
      · unfold optionalMember at h
        split at h
        · split at h
          · cases h
          · rw [List.mem_singleton.mp h]
            exact .inl ⟨_, rfl⟩
        · cases h

theorem isJson_lineMembers (h : (Value.obj r.extra).Held) :
    (Value.obj (r.lineMembers c time text)).IsJson := by
  refine .obj ?_
  intro m hm
  rcases of_mem_lineMembers hm with ⟨s, hs⟩ | hs
  · rw [hs]
    exact .str s
  · rw [hs]
    exact isJson_fields h

theorem distinct_lineMembers (h : (Value.obj r.extra).Held) :
    (Value.obj (r.lineMembers c time text)).Distinct := by
  refine .object (nodup_foldl_put (r.nodup_own time text)) ?_
  intro m hm
  rcases of_mem_lineMembers hm with ⟨s, hs⟩ | hs
  · rw [hs]
    exact .leaf rfl
  · rw [hs]
    exact distinct_fields h

/-- What is put last into a line: the extra fields if there are any, the error if there is one,
and the stack if it is not empty. -/
theorem get?_later (r : Record) (name : String) : r.later.get? name =
    if name = "fields" then (if r.fields.isEmpty then none else some (.obj r.fields))
    else if name = "exception" then r.exception.map Value.str
    else if name = "stack" then (r.stack.filter fun s => !s.isEmpty).map Value.str
    else none := by
  have hone (k : String) (v : Value) :
      Members.get? [(k, v)] name = if name = k then some v else none := by
    rw [Members.get?_cons]
    rfl
  have hfields : Members.get? (if r.fields.isEmpty then [] else [("fields", Value.obj r.fields)])
      name = if name = "fields" then (if r.fields.isEmpty then none else some (.obj r.fields))
        else none := by
    split
    · simp [Members.get?]
    · exact hone _ _
  have hexception : Members.get? (r.exception.map fun e => ("exception", Value.str e)).toList name =
      if name = "exception" then r.exception.map Value.str else none := by
    cases r.exception with
    | none => simp [Members.get?]
    | some e => exact hone _ _
  have hstack : Members.get? (optionalMember "stack" r.stack) name =
      if name = "stack" then (r.stack.filter fun s => !s.isEmpty).map Value.str else none := by
    cases r.stack with
    | none => simp [Members.get?, optionalMember]
    | some s =>
      rw [optionalMember, Option.filter_some]
      cases s.isEmpty with
      | true => simp [Members.get?]
      | false => exact hone _ _
  rw [later, Members.get?, List.lookup_append, List.lookup_append, ← Members.get?, ← Members.get?,
    ← Members.get?, hfields, hexception, hstack]
  by_cases h : name = "fields"
  · subst h
    simp
  · by_cases h' : name = "exception"
    · subst h'
      simp
    · simp [h, h']

theorem refusal_lineMembers (hc : (c.map Prod.fst).Nodup) :
    Json.refusal (.obj (r.lineMembers c time text)) = none ↔
      Json.refusal (.obj r.fields) = none := by
  rw [Json.refusal_obj_eq_none]
  constructor
  · intro h
    cases hempty : r.fields.isEmpty with
    | true =>
      rw [List.isEmpty_iff.mp hempty, Json.refusal_obj_eq_none]
      simp
    | false =>
      have hget : (r.lineMembers c time text).get? "fields" = some (.obj r.fields) := by
        rw [get?_lineMembers hc, told, get?_later, if_pos rfl, hempty]
        rfl
      exact h _ (Value.mem_of_get? hget)
  · intro h m hm
    rcases of_mem_lineMembers hm with ⟨s, hs⟩ | hs
    · rw [hs]
      rfl
    · rw [hs]
      exact h

/-- What a line is made of, where there is one. -/
theorem jsonLine_eq_ok (hr : r.correlationMembers = c.members) (h : Session.clash r = none)
    {line : String} : r.jsonLine = .ok line ↔ ∃ time text, stamp r.created = .ok time ∧
      r.text = .ok text ∧ Json.refusal (.obj (r.lineMembers c time text)) = none ∧
        line = Json.compact (.obj (r.lineMembers c time text)) := by
  simp only [jsonLine, event_eq hr h, Answer.do_ok, Answer.pure_eq_ok, Json.text_eq_ok,
    Except.ok.injEq]
  constructor
  · rintro ⟨_, ⟨time, htime, text, htext, rfl⟩, hrefusal, hline⟩
    exact ⟨time, text, htime, htext, hrefusal, hline⟩
  · rintro ⟨time, text, htime, htext, hrefusal, hline⟩
    exact ⟨_, ⟨time, htime, text, htext, rfl⟩, hrefusal, hline⟩

/-- There is a line unless the time or the text cannot be written, or an extra integer is too
long. -/
theorem exists_jsonLine (hc : (c.map Prod.fst).Nodup) (hr : r.correlationMembers = c.members)
    (h : Session.clash r = none) : (∃ line, r.jsonLine = .ok line) ↔
      (∃ time, stamp r.created = .ok time) ∧ (∃ text, r.text = .ok text) ∧
        Json.refusal (.obj r.fields) = none := by
  simp only [jsonLine_eq_ok hr h, refusal_lineMembers hc]
  constructor
  · rintro ⟨_, time, text, htime, htext, hrefusal, -⟩
    exact ⟨⟨time, htime⟩, ⟨text, htext⟩, hrefusal⟩
  · rintro ⟨⟨time, htime⟩, ⟨text, htext⟩, hrefusal⟩
    exact ⟨_, time, text, htime, htext, hrefusal, rfl⟩

/-- A line reads back as one object, and each name finds what it stands for. -/
theorem read?_jsonLine (hc : (c.map Prod.fst).Nodup) (hr : r.correlationMembers = c.members)
    (h : Session.clash r = none) (hextra : (Value.obj r.extra).Held) {line : String}
    (hline : r.jsonLine = .ok line) : ∃ time text ms, stamp r.created = .ok time ∧
      r.text = .ok text ∧ Json.read? line = some (.obj ms) ∧ (Members.keys ms).Nodup ∧
      ∀ name, Option.Rel Value.Rearranged (r.told c time text name) (Members.get? ms name) := by
  obtain ⟨time, text, htime, htext, -, rfl⟩ := (jsonLine_eq_ok hr h).mp hline
  have hjson : (Value.obj (r.lineMembers c time text)).IsJson := isJson_lineMembers hextra
  obtain ⟨w, hread, hw⟩ := Json.read?_compact hjson (distinct_lineMembers hextra)
  obtain ⟨ms, rfl, hmatched⟩ := hw.of_obj
  refine ⟨time, text, ms, htime, htext, hread, hmatched.keys.nodup_iff.mp hmatched.nodup, ?_⟩
  intro name
  rw [← get?_lineMembers hc]
  exact hmatched.get? name

theorem visible_jsonLine (hr : r.correlationMembers = c.members) (h : Session.clash r = none)
    (hextra : (Value.obj r.extra).Held) {line : String} (hline : r.jsonLine = .ok line) :
    Json.Visible line.toList := by
  obtain ⟨time, text, -, -, -, rfl⟩ := (jsonLine_eq_ok hr h).mp hline
  exact Json.visible_compact (isJson_lineMembers hextra)

/-- Whether what a line reads back as tells a record and its correlation fields. -/
structure IsTold (r : Record) (c : Correlation) (text : String) (ms : Members) : Prop where
  level : ms.get? "level" = some (.str (levelName r.level))
  logger : ms.get? "logger" = some (.str r.logger)
  message : ms.get? "message" = some (.str text)
  correlation : ∀ name s, c.lookup name = some s → ms.get? name = some (.str s)
  fields : Option.Rel Value.Rearranged
    (if r.fields.isEmpty then none else some (.obj r.fields)) (ms.get? "fields")

/-- The text that a record itself gives for a name. -/
def ownText (r : Record) (text name : String) : Option String :=
  if name = "level" then some (levelName r.level)
  else if name = "logger" then some r.logger
  else if name = "message" then some text
  else if name = "exception" then r.exception
  else if name = "stack" then r.stack.filter fun s => !s.isEmpty
  else none

/-- Whether no correlation field is named like another part of the line, or at least none that says
something else. -/
def Apart (r : Record) (c : Correlation) (text : String) : Prop :=
  ∀ name s, c.lookup name = some s → name ≠ "fields" ∧ ∀ t, r.ownText text name = some t → t = s

theorem told_fields (r : Record) (c : Correlation) (time text : String) :
    r.told c time text "fields" = if r.fields.isEmpty then (c.lookup "fields").map .str
      else some (.obj r.fields) := by
  have hown : (r.own time text).get? "fields" = none := rfl
  rw [told, get?_later, if_pos rfl, hown, Option.or_none]
  split <;> rfl

/-- Among the members that are texts the record's error and stack come first, then the correlation
fields, then the rest of the record. -/
theorem told_of_ne (hname : name ≠ "fields") : r.told c time text name =
    if name = "exception" ∨ name = "stack" then
      ((r.ownText text name).or (c.lookup name)).map .str
    else ((c.lookup name).map .str).or ((r.own time text).get? name) := by
  rw [told, get?_later, if_neg hname]
  by_cases h : name = "exception"
  · subst h
    have hown : (r.own time text).get? "exception" = none := rfl
    have htext : r.ownText text "exception" = r.exception := rfl
    rw [if_pos rfl, if_pos (.inl rfl), hown, htext, Option.or_none, Option.map_or]
  · by_cases h' : name = "stack"
    · subst h'
      have hown : (r.own time text).get? "stack" = none := rfl
      have htext : r.ownText text "stack" = r.stack.filter fun s => !s.isEmpty := rfl
      rw [if_neg h, if_pos rfl, if_pos (.inr rfl), hown, htext, Option.or_none, Option.map_or]
    · rw [if_neg h, if_neg h', if_neg (not_or.mpr ⟨h, h'⟩), Option.none_or]

theorem rel_str {o o' : Option Value} (h : Option.Rel Value.Rearranged o o') (s : String) :
    o' = some (.str s) ↔ o = some (.str s) := by
  constructor
  · intro ho'
    obtain ⟨v, hv, hrel⟩ := some_of_rel_right h ho'
    rw [hv, hrel.symm.of_leaf rfl]
  · intro ho
    obtain ⟨v, hv, hrel⟩ := some_of_rel h ho
    rw [hv, hrel.of_leaf rfl]

section Told

variable (hms : ∀ name, Option.Rel Value.Rearranged (r.told c time text name) (ms.get? name))

include hms

/-- A name that a record gives a text for itself has one text in a line. -/
theorem IsTold.eq_of_ownText (h : r.IsTold c text ms) {s t : String} (hname : name ≠ "fields")
    (hs : c.lookup name = some s) (ht : r.ownText text name = some t) : t = s := by
  have htold := h.correlation name s hs
  -- the error and the stack come before the correlation fields
  have hlater (hn : name = "exception" ∨ name = "stack") : t = s := by
    rw [rel_str (hms name), told_of_ne hname, if_pos hn, ht, Option.some_or, Option.map_some]
      at htold
    exact Value.str.inj (Option.some.inj htold)
  have hsame {u : String} (hu : ms.get? name = some (.str u)) : u = s :=
    Value.str.inj (Option.some.inj (hu.symm.trans htold))
  unfold ownText at ht
  split at ht
  · rename_i hn
    rw [← Option.some.inj ht]
    exact hsame (hn ▸ h.level)
  · split at ht
    · rename_i hn
      rw [← Option.some.inj ht]
      exact hsame (hn ▸ h.logger)
    · split at ht
      · rename_i hn
        rw [← Option.some.inj ht]
        exact hsame (hn ▸ h.message)
      · split at ht
        · rename_i hn
          exact hlater (.inl hn)
        · split at ht
          · rename_i hn
            exact hlater (.inr hn)
          · cases ht

theorem IsTold.apart (h : r.IsTold c text ms) : r.Apart c text := by
  intro name s hs
  have hname : name ≠ "fields" := by
    rintro rfl
    have htold := h.correlation "fields" s hs
    have hfields := h.fields
    rw [htold] at hfields
    rw [rel_str (hms "fields"), told_fields] at htold
    split at hfields
    · cases hfields
    · rename_i hempty
      rw [if_neg hempty] at htold
      cases htold
  exact ⟨hname, fun t ht => h.eq_of_ownText hms hname hs ht⟩

theorem Apart.isTold (h : r.Apart c text) : r.IsTold c text ms := by
  -- what the record itself gives for a name is what stands there
  have hown {name t : String} (hn : name ≠ "fields")
      (hn' : ¬(name = "exception" ∨ name = "stack")) (ht : r.ownText text name = some t)
      (hget : (r.own time text).get? name = some (.str t)) : ms.get? name = some (.str t) := by
    rw [rel_str (hms name), told_of_ne hn, if_neg hn', hget]
    cases hs : c.lookup name with
    | none => rfl
    | some s =>
      rw [(h name s hs).2 t ht]
      rfl
  have hcorrelation (name s : String) (hs : c.lookup name = some s) :
      ms.get? name = some (.str s) := by
    obtain ⟨hname, hsame⟩ := h name s hs
    rw [rel_str (hms name), told_of_ne hname]
    split
    · cases ht : r.ownText text name with
      | none => rw [hs, Option.none_or, Option.map_some]
      | some t => rw [hsame t ht, Option.some_or, Option.map_some]
    · rw [hs]
      rfl
  have hnone : c.lookup "fields" = none := by
    cases hs : c.lookup "fields" with
    | none => rfl
    | some s => exact absurd rfl (h "fields" s hs).1
  have hfields := hms "fields"
  rw [told_fields, hnone] at hfields
  exact ⟨hown (by decide) (by decide) rfl rfl, hown (by decide) (by decide) rfl rfl,
    hown (by decide) (by decide) rfl rfl, hcorrelation, hfields⟩

/-- A line tells a record and its correlation fields exactly if their names keep apart. -/
theorem isTold_iff : r.IsTold c text ms ↔ r.Apart c text :=
  ⟨fun h => h.apart hms, fun h => h.isTold hms⟩

end Told

/-- Lines of records that are logged inside scopes. There is a line unless the time is out of
range, the arguments do not fit the text, or an extra field holds an integer too long to be
written. A line has no line break nor any other control character, and reads back as one object in
which the extra fields, the error and the stack stand before the correlation fields and these
before the record's own members of the same name. So it tells the level, the logger, the text, the
correlation fields and the extra fields exactly if no correlation field is named like another part
of the line and says something else. -/
theorem json_line_tells_iff_apart (hc : c.Established) (hr : r.correlationMembers = c.members)
    (h : Session.clash r = none) (hextra : (Value.obj r.extra).Held) :
    ((∃ line, r.jsonLine = .ok line) ↔ (∃ time, stamp r.created = .ok time) ∧
      (∃ text, r.text = .ok text) ∧ Json.refusal (.obj r.fields) = none) ∧
    ∀ line, r.jsonLine = .ok line → (∀ k ∈ line.toList, 32 ≤ k.toNat) ∧
      ∃ time text ms, stamp r.created = .ok time ∧ r.text = .ok text ∧
        Json.read? line = some (.obj ms) ∧ (Members.keys ms).Nodup ∧
        (∀ name, Option.Rel Value.Rearranged (r.told c time text name) (Members.get? ms name)) ∧
        (r.IsTold c text ms ↔ r.Apart c text) := by
  refine ⟨exists_jsonLine hc.nodup hr h, ?_⟩
  intro line hline
  obtain ⟨time, text, ms, htime, htext, hread, hnodup, hms⟩ :=
    read?_jsonLine hc.nodup hr h hextra hline
  exact ⟨visible_jsonLine hr h hextra hline,
    time, text, ms, htime, htext, hread, hnodup, hms, isTold_iff hms⟩

/-- The beginning of time, at which the records below are made. -/
theorem stamp_epoch : stamp (.finite ⟨false, 0, 0⟩) = .ok "1970-01-01T00:00:00.000Z" :=
  Answer.ok_of_toOption (by decide +kernel)

theorem json_line_tells_iff_apart_caller :
    let r : Record :=
      { message := "m"
        correlation := some (.obj [("caller", .str "x")])
        extra := [("n", .int 1)] }
    Correlation.Established [("caller", "x")] ∧
    r.correlationMembers = Correlation.members [("caller", "x")] ∧ Session.clash r = none ∧
    (Value.obj r.extra).Held ∧
    ∃ line, r.jsonLine = .ok line ∧ ∀ k ∈ line.toList, 32 ≤ k.toNat := by
  intro r
  have hc : Correlation.Established [("caller", "x")] := ⟨[[("caller", .str "x")]], rfl⟩
  have hr : r.correlationMembers = Correlation.members [("caller", "x")] := rfl
  have hheld : (Value.obj r.extra).Held := by
    refine .obj (List.nodup_singleton _) fun m hm => ?_
    rw [List.mem_singleton.mp hm]
    exact .atom rfl
  have hrefusal : Json.refusal (.obj r.fields) = none := by
    rw [Json.refusal_obj_eq_none]
    decide
  obtain ⟨hexists, hlines⟩ := json_line_tells_iff_apart hc hr rfl hheld
  obtain ⟨line, hline⟩ := hexists.mpr ⟨⟨_, stamp_epoch⟩, ⟨_, rfl⟩, hrefusal⟩
  exact ⟨hc, hr, rfl, hheld, line, hline, (hlines line hline).1⟩

/-- A scope that binds the name `level` hides the level of what is logged in it. -/
theorem level_hidden_by_scope :
    let r : Record := { message := "m", correlation := some (.obj [("level", .str "x")]) }
    Correlation.enter [] [("level", .str "x")] = .ok [("level", "x")] ∧ levelName r.level = "INFO" ∧
    ∃ line ms, r.jsonLine = .ok line ∧ Json.read? line = some (.obj ms) ∧
      Members.get? ms "level" = some (.str "x") := by
  intro r
  have hc : (List.map Prod.fst [("level", "x")]).Nodup := List.nodup_singleton _
  have hr : r.correlationMembers = Correlation.members [("level", "x")] := rfl
  have hrefusal : Json.refusal (.obj r.fields) = none := by
    rw [Json.refusal_obj_eq_none]
    decide
  obtain ⟨line, hline⟩ :=
    (exists_jsonLine hc hr rfl).mpr ⟨⟨_, stamp_epoch⟩, ⟨_, rfl⟩, hrefusal⟩
  have hheld : (Value.obj r.extra).Held := .obj List.nodup_nil fun m hm => by cases hm
  obtain ⟨time, text, ms, -, -, hread, -, hms⟩ := read?_jsonLine hc hr rfl hheld hline
  exact ⟨rfl, rfl, line, ms, hline, hread, (rel_str (hms "level") "x").mpr rfl⟩

end Record

end Conform.Log
