import Conform.Proofs.Meaning
import Mathlib.Data.List.Nodup
import Mathlib.Data.List.Perm.Subperm

/-!
Trails. A site leads to sites of three sorts: the same value against a part of the node, the same
value against the target of a reference that is not on the trail, and a child. The trail stays a
list of different nodes visited at one path, and every step goes down: by the size of the value,
then by the number of nodes that are not on the trail, then by the size of the schema node.
-/
namespace Conform

theorem Governs.size_lt {node : Members} {token : Token} {t : Value} (h : Governs node token t) :
    t.size < (Value.obj node).size := by
  cases h with
  | everyItem h => exact Value.size_lt_of_get? h
  | item h hi =>
    have ht := Value.size_lt_of_mem_arr (List.mem_of_getElem? hi)
    have hxs := Value.size_lt_of_get? h
    omega
  | furtherItem _ _ hf => exact Value.size_lt_of_get? hf
  | property h hp =>
    have ht := Value.size_lt_of_get? hp
    have hps := Value.size_lt_of_get? h
    omega
  | matched h _ =>
    obtain ⟨ps, hps, hmem⟩ := h
    have ht := Value.size_lt_of_mem_obj hmem
    have hps := Value.size_lt_of_get? hps
    simp only at ht
    omega
  | further _ hf => exact Value.size_lt_of_get? hf

namespace Site

/-- The sites that a site may lead to, whichever keyword it is for. -/
inductive Leads (d : Documents) (s : Site) : Site → Prop
  | part {schema : Value} (hlt : schema.size < s.schema.size) (location : Location)
      (pooled : Bool) : Leads d s { s with schema, location, pooled }
  | target {ref : String} {location : Location} {schema : Value}
      (hr : d.resolve (.str ref) s.location = .ok (location, schema))
      (hnew : (location, s.path) ∉ s.trail) : Leads d s (s.follow schema location)
  | child {c : Token × Value} {schema : Value} (hc : c ∈ s.value.children)
      (hlt : schema.size < s.schema.size) (steps : List Token) :
      Leads d s (s.child schema c.2 c.1 steps)

/-- The trail was left at the path of the site. -/
def AtPath (s : Site) : Prop := ∀ t ∈ s.trail, t.2 = s.path

def visited (s : Site) : List Location := s.trail.map Prod.fst

/-- The trail lists nodes of the documents, each once, all visited at the path of the site. -/
structure OnTrail (d : Documents) (s : Site) : Prop where
  paths : s.AtPath
  nodup : s.trail.Nodup
  targets : ∀ t ∈ s.trail, t.1 ∈ d.locations

/-- The size of the value, the number of nodes not on the trail and the size of the node. -/
def measure (d : Documents) (s : Site) : Nat × Nat × Nat :=
  (s.value.size, d.unseen s.visited, s.schema.size)

/-- The lexicographic order of measures. -/
def Below (d : Documents) (s t : Site) : Prop :=
  Prod.Lex (· < ·) (Prod.Lex (· < ·) (· < ·)) (s.measure d) (t.measure d)

variable {d : Documents} {s t : Site}

theorem wellFounded_below : WellFounded (Below d) :=
  InvImage.wf (measure d)
    (Prod.lex ⟨_, wellFounded_lt⟩ (Prod.lex ⟨_, wellFounded_lt⟩ ⟨_, wellFounded_lt⟩)).wf

theorem AtPath.of_trail_eq_nil (h : s.trail = []) : s.AtPath := by
  intro t ht
  rw [h] at ht
  simp at ht

theorem visited_follow (s : Site) (schema : Value) (location : Location) :
    (s.follow schema location).visited = s.visited ++ [location] := by
  simp [follow, visited]

theorem AtPath.follow (h : s.AtPath) (schema : Value) (location : Location) :
    (s.follow schema location).AtPath := by
  intro u hu
  rcases List.mem_append.mp hu with hu | hu
  · exact h u hu
  · rw [List.mem_singleton.mp hu]
    rfl

theorem AtPath.mem_trail_iff (h : s.AtPath) (l : Location) :
    (l, s.path) ∈ s.trail ↔ l ∈ s.visited := by
  constructor
  · intro hl
    exact List.mem_map.mpr ⟨_, hl, rfl⟩
  · intro hl
    obtain ⟨t, ht, rfl⟩ := List.mem_map.mp hl
    rw [← h t ht]
    exact ht

theorem OnTrail.of_trail_eq_nil (h : s.trail = []) : s.OnTrail d := by
  refine ⟨.of_trail_eq_nil h, ?_, ?_⟩
  · simp [h]
  · simp [h]

theorem OnTrail.nodup_visited (h : s.OnTrail d) : s.visited.Nodup := by
  apply List.Nodup.map_on _ h.nodup
  intro t ht u hu htu
  exact Prod.ext htu ((h.paths t ht).trans (h.paths u hu).symm)

/-- At one path no more references are followed than there are nodes. -/
theorem OnTrail.length_trail_le (h : s.OnTrail d) : s.trail.length ≤ d.locations.length := by
  -- a list without repetitions is no longer than one that holds all of it
  have hsub : s.visited ⊆ d.locations := by
    intro l hl
    obtain ⟨t, ht, rfl⟩ := List.mem_map.mp hl
    exact h.targets t ht
  have hle := (List.Nodup.subperm h.nodup_visited hsub).length_le
  rw [visited, List.length_map] at hle
  exact hle

theorem Leads.onTrail (hst : s.Leads d t) (h : s.OnTrail d) : t.OnTrail d := by
  cases hst with
  | part hlt location pooled => exact ⟨h.paths, h.nodup, h.targets⟩
  | target hr hnew =>
    refine ⟨h.paths.follow _ _, ?_, ?_⟩
    · apply List.Nodup.append h.nodup (List.nodup_singleton _)
      -- the target is new, so it repeats nothing
      intro u hu hu'
      rw [List.mem_singleton.mp hu'] at hu
      exact hnew hu
    · intro u hu
      rcases List.mem_append.mp hu with hu | hu
      · exact h.targets u hu
      · rw [List.mem_singleton.mp hu]
        exact Documents.mem_locations_of_resolve hr
  | child hc hlt steps => exact .of_trail_eq_nil rfl

/-- Every step goes down. -/
theorem Leads.below (hst : s.Leads d t) (h : s.OnTrail d) : t.Below d s := by
  cases hst with
  | part hlt location pooled => exact .right _ (.right _ hlt)
  | @target ref location schema hr hnew =>
    have hlt : d.unseen (s.follow schema location).visited < d.unseen s.visited := by
      rw [visited_follow]
      apply Documents.unseen_append_lt (Documents.mem_locations_of_resolve hr)
      rwa [h.paths.mem_trail_iff] at hnew
    exact .right _ (.left _ _ hlt)
  | child hc hlt steps => exact .left _ _ (Value.size_lt_of_mem_children hc)

end Site

end Conform
