import Conform.Log.Loggable
import Conform.Proofs.Answer
import Conform.Proofs.Literals
import Conform.Proofs.PlainValues
import Conform.Proofs.Written

/-!
What is kept of a value that is logged. It is a plain value, so that it has a JSON text; it is
kept as it is when it is logged again; and the order in which sets give their elements leaves no
trace in it.
-/
namespace Conform

namespace Value.IsPlain

variable {w : Value}

theorem held (h : w.IsPlain) : w.Held := by
  induction h with
  | real h => exact .real h
  | arr _ ih => exact .arr ih
  | obj hn _ ih => exact .obj hn ih
  | _ => exact .atom rfl

theorem plain_eq (h : w.IsPlain) : w.plain = w := by
  induction h with
  | @arr xs _ ih =>
    rw [plain, plainList_eq_map, List.map_congr_left ih, List.map_id']
  | @obj ms _ _ ih =>
    have hmember : ∀ m ∈ ms, (m.1, m.2.plain) = m := fun m hm => Prod.ext rfl (ih m hm)
    rw [plain, plainMembers_eq_map, List.map_congr_left hmember, List.map_id']
  | _ => rfl

end Value.IsPlain

namespace Log.Loggable

variable {v u : Loggable} {xs ys : List Loggable} {vs : List Value}
  {ms ms' : List (Loggable × Loggable)} {kept ns : Members}

theorem isPrintableList_iff : isPrintableList xs ↔ ∀ x ∈ xs, x.isPrintable := by
  induction xs with
  | nil => simp [isPrintableList]
  | cons x xs ih => simp [isPrintableList, ih]

theorem isPrintableMembers_iff :
    isPrintableMembers ms ↔ ∀ m ∈ ms, m.1.isPrintable ∧ m.2.isPrintable := by
  induction ms with
  | nil => simp [isPrintableMembers]
  | cons m ms ih => simp [isPrintableMembers, ih, and_assoc]

theorem ofValues_eq_map (vs : List Value) : ofValues vs = vs.map ofValue := by
  induction vs with
  | nil => rfl
  | cons x vs ih => rw [ofValues, ih, List.map_cons]

theorem ofMembers_eq_map (ns : Members) :
    ofMembers ns = ns.map fun m => (.str m.1, ofValue m.2) := by
  induction ns with
  | nil => rfl
  | cons m ns ih => rw [ofMembers, ih, List.map_cons]

mutual

/-- Values of documents can be written as such just if they can as what is logged. -/
theorem isPrintable_ofValue : ∀ w : Value, (ofValue w).isPrintable = w.isWritable
  | .null | .bool _ | .int _ | .real _ | .str _ | .bytes _ | .path _ | .moment .. => rfl
  | .arr xs | .set xs => isPrintableList_ofValues xs
  | .obj ms => isPrintableMembers_ofMembers ms

theorem isPrintableList_ofValues : ∀ ws : List Value,
    isPrintableList (ofValues ws) = Value.areWritable ws
  | [] => rfl
  | w :: ws => congrArg₂ and (isPrintable_ofValue w) (isPrintableList_ofValues ws)

theorem isPrintableMembers_ofMembers : ∀ ns : List (String × Value),
    isPrintableMembers (ofMembers ns) = Value.areMembersWritable ns
  | [] => rfl
  -- the name is a text, which can always be written
  | (_, w) :: ns => (Bool.true_and _).trans
      (congrArg₂ and (isPrintable_ofValue w) (isPrintableMembers_ofMembers ns))

end

theorem refusal_of_isWritable {w : Value} (h : w.IsPlain) (hw : w.isWritable) :
    Json.refusal w = none := by
  induction h with
  | int n =>
    have hn : Text.isWritable n := hw
    rw [Json.refusal, if_pos hn]
  | arr _ ih =>
    exact Json.refusal_arr_eq_none.mpr fun x hx => ih x hx (Value.isWritable_arr.mp hw x hx)
  | @obj ms _ _ ih =>
    exact Json.refusal_obj_eq_none.mpr fun m hm => ih m hm (Value.isWritable_obj.mp hw m hm)
  | _ => rfl

theorem normalList_ok :
    normalList xs = .ok vs ↔ List.Forall₂ (fun x w => x.normal = .ok w) xs vs := by
  induction xs generalizing vs with
  | nil => cases vs <;> simp [normalList]
  | cons x xs ih =>
    rw [normalList]
    simp only [Answer.do_ok, Answer.pure_eq_ok, Except.ok.injEq, ih]
    constructor
    · rintro ⟨w, hw, ws, hws, rfl⟩
      exact .cons hw hws
    · intro h
      cases h with
      | cons hw hws => exact ⟨_, hw, _, hws, rfl⟩

theorem normalList_eq_map {f : Loggable → Value} (h : ∀ x ∈ xs, x.normal = .ok (f x)) :
    normalList xs = .ok (xs.map f) := by
  rw [normalList_ok, List.forall₂_map_right_iff, List.forall₂_same]
  exact h

theorem normalList_congr (h : xs.map normal = ys.map normal) : normalList xs = normalList ys := by
  induction xs generalizing ys with
  | nil =>
    rw [List.map_nil, eq_comm, List.map_eq_nil_iff] at h
    rw [h]
  | cons x xs ih =>
    cases ys with
    | nil => cases h
    | cons y ys =>
      obtain ⟨hxy, hrest⟩ := List.cons.inj h
      rw [normalList, normalList, hxy, ih hrest]

theorem normalList_perm (hperm : xs.Perm ys) (h : normalList xs = .ok vs) :
    ∃ ws, normalList ys = .ok ws ∧ vs.Perm ws := by
  rw [normalList_ok] at h
  obtain ⟨ws, hws, hperm'⟩ := List.perm_comp_forall₂ hperm.symm h
  exact ⟨ws, normalList_ok.mpr hws, hperm'.symm⟩

theorem normalMembers_congr
    (h : ms.map (fun m => (m.1, m.2.normal)) = ms'.map fun m => (m.1, m.2.normal)) :
    normalMembers kept ms = normalMembers kept ms' := by
  induction ms generalizing kept ms' with
  | nil =>
    rw [List.map_nil, eq_comm, List.map_eq_nil_iff] at h
    rw [h]
  | cons m ms ih =>
    cases ms' with
    | nil => cases h
    | cons n ms' =>
      obtain ⟨hmn, hrest⟩ := List.cons.inj h
      obtain ⟨hname, hvalue⟩ := Prod.mk.inj hmn
      rw [normalMembers, normalMembers, hname, hvalue]
      simp only [ih hrest]

theorem normalMembers_cons {k x : Loggable} {w : Value} (hk : k.isPrintable)
    (hx : x.normal = .ok w) :
    normalMembers kept ((k, x) :: ms) = normalMembers (kept.put k.text w) ms := by
  have hname : k.name = .ok k.text := if_pos hk
  rw [normalMembers, hname, hx]
  rfl

theorem ordered_eq_ok (h : ∀ w ∈ vs, w.isWritable) : ordered vs = .ok (Value.sortedByLiteral vs) :=
  if_pos (Value.areWritable_iff.mpr h)

/-- Whether a value holds no other values and is no real number. -/
def isAtom : Loggable → Bool
  | .real _ | .list _ | .tuple _ | .set _ _ | .mapping _ => false
  | _ => true

/-- Whether a value is one that a program can hold: its real numbers are floating-point ones. -/
inductive Held : Loggable → Prop
  | atom {v : Loggable} (h : v.isAtom) : Held v
  | real {x : Real} (h : x.IsFloat) : Held (.real x)
  | list {xs : List Loggable} (h : ∀ x ∈ xs, Held x) : Held (.list xs)
  | tuple {xs : List Loggable} (h : ∀ x ∈ xs, Held x) : Held (.tuple xs)
  | set {frozen : Bool} {xs : List Loggable} (h : ∀ x ∈ xs, Held x) : Held (.set frozen xs)
  | mapping {ms : List (Loggable × Loggable)} (h : ∀ m ∈ ms, Held m.2) : Held (.mapping ms)

/-- What is kept is a plain value that can be written. -/
def Keeps (v : Loggable) (w : Value) : Prop := v.normal = .ok w ∧ w.IsPlain ∧ w.isWritable

theorem exists_normalList (h : ∀ x ∈ xs, ∃ w, x.Keeps w) :
    ∃ vs, normalList xs = .ok vs ∧ ∀ w ∈ vs, w.IsPlain ∧ w.isWritable := by
  choose! f hf using h
  refine ⟨xs.map f, normalList_eq_map fun x hx => (hf x hx).1, ?_⟩
  intro w hw
  obtain ⟨x, hx, rfl⟩ := List.mem_map.mp hw
  exact (hf x hx).2

/-- The members kept stay plain, whatever names are met again. -/
theorem exists_normalMembers (hn : (Members.keys kept).Nodup)
    (hkept : ∀ m ∈ kept, m.2.IsPlain ∧ m.2.isWritable)
    (h : ∀ m ∈ ms, m.1.isPrintable ∧ ∃ w, m.2.Keeps w) :
    ∃ ns : Members, normalMembers kept ms = .ok ns ∧ (Members.keys ns).Nodup ∧
      ∀ m ∈ ns, m.2.IsPlain ∧ m.2.isWritable := by
  induction ms generalizing kept with
  | nil => exact ⟨kept, rfl, hn, hkept⟩
  | cons m ms ih =>
    obtain ⟨⟨hname, w, hw, hplain⟩, hrest⟩ := List.forall_mem_cons.mp h
    have hput : ∀ n ∈ kept.put m.1.text w, n.2.IsPlain ∧ n.2.isWritable := by
      intro n hn
      rcases Members.mem_put hn with rfl | hn
      · exact hplain
      · exact hkept n hn
    obtain ⟨ns, hns, hresult⟩ := ih (Members.nodup_put w hn) hput hrest
    exact ⟨ns, (normalMembers_cons hname hw).trans hns, hresult⟩

/-- Every value that a program can hold and print is kept. -/
theorem Held.exists_keeps (hv : v.Held) (hp : v.isPrintable) : ∃ w, v.Keeps w := by
  have harr {vs : List Value} (h : ∀ w ∈ vs, w.IsPlain ∧ w.isWritable) :
      (Value.arr vs).IsPlain ∧ (Value.arr vs).isWritable :=
    ⟨.arr fun w hw => (h w hw).1, Value.isWritable_arr.mpr fun w hw => (h w hw).2⟩
  induction hv with
  | @atom v h =>
    cases v with
    | null => exact ⟨_, rfl, .null, rfl⟩
    | bool b => exact ⟨_, rfl, .bool b, rfl⟩
    | int n => exact ⟨_, rfl, .int n, hp⟩
    | str s => exact ⟨_, rfl, .str s, rfl⟩
    | bytes os => exact ⟨_, rfl, .str _, rfl⟩
    | path s => exact ⟨_, rfl, .str s, rfl⟩
    | other s l => exact ⟨_, rfl, .str s, rfl⟩
    | real | list | tuple | set | mapping => cases h
  | @real x h =>
    cases x with
    | finite d => exact ⟨_, rfl, .real h, rfl⟩
    | nan => exact ⟨_, rfl, .str _, rfl⟩
    | infinite negative => exact ⟨_, rfl, .str _, rfl⟩
  | list _ ih | tuple _ ih =>
    have hp := isPrintableList_iff.mp hp
    obtain ⟨vs, hvs, hplain⟩ := exists_normalList fun x hx => ih x hx (hp x hx)
    exact ⟨.arr vs, by rw [normal, hvs]; rfl, harr hplain⟩
  | set _ ih =>
    have hp := isPrintableList_iff.mp hp
    obtain ⟨vs, hvs, hplain⟩ := exists_normalList fun x hx => ih x hx (hp x hx)
    -- the literals to sort by can be written, since all that is kept can
    have hordered := ordered_eq_ok fun w hw => (hplain w hw).2
    refine ⟨.arr (Value.sortedByLiteral vs), ?_, harr ?_⟩
    · rw [normal, hvs, Except.bind, hordered]
      rfl
    · exact fun w hw => hplain w (Value.mem_sortedByLiteral.mp hw)
  | mapping _ ih =>
    have hp := isPrintableMembers_iff.mp hp
    have hnone : (Members.keys []).Nodup := List.nodup_nil
    obtain ⟨ns, hns, hnodup, hplain⟩ := exists_normalMembers hnone (by simp)
      fun m hm => ⟨(hp m hm).1, ih m hm (hp m hm).2⟩
    refine ⟨.obj ns, by rw [normal, hns]; rfl, .obj hnodup fun m hm => (hplain m hm).1, ?_⟩
    exact Value.isWritable_obj.mpr fun m hm => (hplain m hm).2

theorem held_ofValue {w : Value} (h : w.Held) : (ofValue w).Held := by
  induction h with
  | @atom w h =>
    cases w with
    | real | arr | obj | set => cases h
    | _ => exact .atom rfl
  | real h => exact .real h
  | arr _ ih =>
    rw [ofValue, ofValues_eq_map]
    exact .list (List.forall_mem_map.mpr ih)
  | set _ ih =>
    rw [ofValue, ofValues_eq_map]
    exact .set (List.forall_mem_map.mpr ih)
  | obj _ _ ih =>
    rw [ofValue, ofMembers_eq_map]
    exact .mapping (List.forall_mem_map.mpr ih)

theorem normalList_ofValues (h : ∀ w ∈ vs, (ofValue w).normal = .ok w.plain) :
    normalList (ofValues vs) = .ok (Value.plainList vs) := by
  rw [ofValues_eq_map, Value.plainList_eq_map, normalList_ok, List.forall₂_map_left_iff,
    List.forall₂_map_right_iff, List.forall₂_same]
  exact h

/-- Names that are all distinct are kept one behind the other. -/
theorem normalMembers_ofMembers (hn : (Members.keys (kept ++ ns)).Nodup)
    (h : ∀ m ∈ ns, (ofValue m.2).normal = .ok m.2.plain) :
    normalMembers kept (ofMembers ns) = .ok (kept ++ Value.plainMembers ns) := by
  induction ns generalizing kept with
  | nil => rw [ofMembers, normalMembers, Value.plainMembers, List.append_nil]
  | cons m ns ih =>
    obtain ⟨k, w⟩ := m
    obtain ⟨hw, hrest⟩ := List.forall_mem_cons.mp h
    have hkeys : Members.keys (kept ++ (k, w) :: ns) =
        Members.keys (kept ++ [(k, w.plain)] ++ ns) := by
      simp [Members.keys]
    -- the name was not met before, so that the member is put at the end
    have hfresh : k ∉ Members.keys kept := by
      intro hk
      rw [Members.keys, List.map_append, List.map_cons] at hn
      exact List.disjoint_of_nodup_append hn hk List.mem_cons_self
    rw [ofMembers, normalMembers_cons rfl hw, text, Members.put_of_not_mem _ hfresh,
      ih (hkeys ▸ hn) hrest, Value.plainMembers, List.append_assoc, List.singleton_append]

/-- What is kept of the values of documents, and of what may stand among them, is their plain
form. -/
theorem normal_ofValue {w : Value} (h : w.Held) (hw : w.isWritable) :
    (ofValue w).normal = .ok w.plain := by
  induction h with
  | @atom w h =>
    cases w with
    | real | arr | obj | set => cases h
    | _ => rfl
  | @real x h => rfl
  | arr _ ih =>
    rw [ofValue, normal, normalList_ofValues fun x hx => ih x hx (Value.isWritable_arr.mp hw x hx)]
    rfl
  | @set xs hxs ih =>
    have hxs' := fun x hx => ih x hx (Value.isWritable_set.mp hw x hx)
    -- sorting asks for literals of the plain forms, not of the elements themselves
    have hplain : ∀ y ∈ Value.plainList xs, y.isWritable := by
      rw [Value.plainList_eq_map, List.forall_mem_map]
      intro x hx
      obtain ⟨y, hy, _, hwritable⟩ :=
        (held_ofValue (hxs x hx)).exists_keeps
          ((isPrintable_ofValue x).trans (Value.isWritable_set.mp hw x hx))
      rw [Except.ok.inj ((hxs' x hx).symm.trans hy)]
      exact hwritable
    rw [ofValue, normal, normalList_ofValues hxs', Except.bind, ordered_eq_ok hplain]
    rfl
  | @obj ms hn _ ih =>
    have hn : (Members.keys ([] ++ ms)).Nodup := hn
    rw [ofValue, normal, normalMembers_ofMembers hn fun m hm =>
      ih m hm (Value.isWritable_obj.mp hw m hm)]
    rfl

/-- Whether two values differ at most in the order in which the sets in them give their elements.
The names of members stay what they are: a name is kept as its text, be there a set in it or not. -/
inductive Shuffled : Loggable → Loggable → Prop
  | refl (v : Loggable) : Shuffled v v
  | list {xs ys : List Loggable} (hlen : xs.length = ys.length)
      (h : ∀ (i : Nat) (x y : Loggable), xs[i]? = some x → ys[i]? = some y → Shuffled x y) :
      Shuffled (.list xs) (.list ys)
  | tuple {xs ys : List Loggable} (hlen : xs.length = ys.length)
      (h : ∀ (i : Nat) (x y : Loggable), xs[i]? = some x → ys[i]? = some y → Shuffled x y) :
      Shuffled (.tuple xs) (.tuple ys)
  | set {frozen : Bool} {xs ys zs : List Loggable} (hlen : xs.length = ys.length)
      (h : ∀ (i : Nat) (x y : Loggable), xs[i]? = some x → ys[i]? = some y → Shuffled x y)
      (hperm : ys.Perm zs) : Shuffled (.set frozen xs) (.set frozen zs)
  | mapping {ms ns : List (Loggable × Loggable)} (hnames : ms.map Prod.fst = ns.map Prod.fst)
      (h : ∀ (i : Nat) (m n : Loggable × Loggable), ms[i]? = some m → ns[i]? = some n →
        Shuffled m.2 n.2) : Shuffled (.mapping ms) (.mapping ns)

/-- Lists that are answered alike at every position. -/
theorem map_congr_getElem? {α β : Type} {f : α → β} {as bs : List α} (hlen : as.length = bs.length)
    (h : ∀ (i : Nat) (a b : α), as[i]? = some a → bs[i]? = some b → f a = f b) :
    as.map f = bs.map f := by
  apply List.ext_getElem (by simpa using hlen)
  intro i ha hb
  rw [List.getElem_map, List.getElem_map]
  rw [List.length_map] at ha hb
  exact h i _ _ (List.getElem?_eq_getElem ha) (List.getElem?_eq_getElem hb)

/-- Elements are kept alike one by one, and a set is then sorted by what is kept of them. -/
theorem Shuffled.normal_eq (h : v.Shuffled u) (hv : v.Held) (hp : v.isPrintable) :
    u.normal = v.normal := by
  have helement {xs ys : List Loggable} (hxs : ∀ x ∈ xs, x.Held ∧ x.isPrintable)
      (hlen : xs.length = ys.length)
      (ih : ∀ (i : Nat) (x y : Loggable), xs[i]? = some x → ys[i]? = some y → x.Held →
        x.isPrintable → y.normal = x.normal) : normalList ys = normalList xs := by
    refine normalList_congr (map_congr_getElem? hlen.symm fun i y x hy hx => ?_)
    obtain ⟨hheld, hprintable⟩ := hxs x (List.mem_of_getElem? hx)
    exact ih i x y hx hy hheld hprintable
  induction h with
  | refl v => rfl
  | list hlen _ ih =>
    have hp := isPrintableList_iff.mp hp
    cases hv with
    | atom h => cases h
    | list hv => rw [normal, normal, helement (fun x hx => ⟨hv x hx, hp x hx⟩) hlen ih]
  | tuple hlen _ ih =>
    have hp := isPrintableList_iff.mp hp
    cases hv with
    | atom h => cases h
    | tuple hv => rw [normal, normal, helement (fun x hx => ⟨hv x hx, hp x hx⟩) hlen ih]
  | set hlen _ hperm ih =>
    have hp := isPrintableList_iff.mp hp
    cases hv with
    | atom h => cases h
    | set hv =>
      -- both sets keep the same plain values in some order, and literals tell these apart
      obtain ⟨vs, hvs, hplain⟩ := exists_normalList fun x hx => (hv x hx).exists_keeps (hp x hx)
      have hys := (helement (fun x hx => ⟨hv x hx, hp x hx⟩) hlen ih).trans hvs
      obtain ⟨ws, hws, hvsws⟩ := normalList_perm hperm hys
      have hwritable : ∀ w ∈ ws, w.isWritable := fun w hw => (hplain w (hvsws.mem_iff.mpr hw)).2
      have hsorted := Value.sortedByLiteral_eq_of_perm (fun w hw => (hplain w hw).1) hvsws
      rw [normal, normal, hvs, hws, Except.bind, Except.bind, ordered_eq_ok hwritable,
        ordered_eq_ok fun w hw => (hplain w hw).2, hsorted]
  | mapping hnames _ ih =>
    have hp := isPrintableMembers_iff.mp hp
    cases hv with
    | atom h => cases h
    | mapping hv =>
      rw [normal, normal]
      refine congrArg _ (normalMembers_congr (map_congr_getElem? ?_ ?_))
      · simpa using (congrArg List.length hnames).symm
      · intro i n m hn hm
        have hmem := List.mem_of_getElem? hm
        have hname := congrArg (·[i]?) hnames
        simp only [List.getElem?_map, hn, hm, Option.map_some, Option.some.injEq] at hname
        rw [hname, ih i m n hm hn (hv m hmem) (hp m hmem).2]

/-- What is kept of a value that can be printed: a plain value, which has a JSON text; it is kept
as it is when it is logged itself; and it is kept as well of the value with its sets in any other
order. -/
theorem normal_settled (v : Loggable) (hv : v.Held) (hp : v.isPrintable) :
    ∃ w, v.normal = .ok w ∧ w.IsPlain ∧ (∃ line, Json.text w = .ok line) ∧
      (ofValue w).normal = .ok w ∧ ∀ u, v.Shuffled u → u.normal = .ok w := by
  obtain ⟨w, hw, hplain, hwritable⟩ := hv.exists_keeps hp
  refine ⟨w, hw, hplain, ?_, ?_, ?_⟩
  · exact ⟨_, Json.text_eq_ok.mpr ⟨refusal_of_isWritable hplain hwritable, rfl⟩⟩
  · rw [normal_ofValue hplain.held hwritable, hplain.plain_eq]
  · intro u hu
    rw [hu.normal_eq hv hp, hw]

/-- A mapping with two members that come under one name, and with a set and a frozen one in it,
both of which give their elements the other way round when they are logged again. -/
theorem normal_settled_sets :
    let tuple : Loggable := .tuple [.real .nan, .bytes [65, 255]]
    let frozen : List Loggable := [.path "x", .str "y"]
    let mapping (elements : List Loggable) : Loggable :=
      .mapping [(.int 1, .null), (.tuple [.null, .str "k"], .set false elements),
        (.str "1", .real (.infinite true))]
    let v := mapping [.str "b", .int 10, tuple, .set true frozen]
    let u := mapping [.set true frozen.reverse, tuple, .int 10, .str "b"]
    let kept : Value := .arr [.str "b", .int 10, .arr [.str "nan", .str "b'A\\xff'"],
      .arr [.str "x", .str "y"]]
    let w : Value := .obj [("1", .str "-inf"), ("(None, 'k')", kept)]
    v.normal = .ok w ∧ u.normal = .ok w ∧ (ofValue w).normal = .ok w ∧
      ∃ line, Json.text w = .ok line := by
  intro tuple frozen mapping v u kept w
  have hv : v.Held := by
    have hfrozen : (Loggable.set true frozen).Held :=
      .set (by simpa [frozen] using ⟨.atom rfl, .atom rfl⟩)
    have htuple : tuple.Held := .tuple (by simpa using ⟨.real trivial, .atom rfl⟩)
    have hset : (Loggable.set false [.str "b", .int 10, tuple, .set true frozen]).Held :=
      .set (by simpa using ⟨.atom rfl, .atom rfl, htuple, hfrozen⟩)
    exact .mapping (by simpa using ⟨.atom rfl, hset, .real trivial⟩)
  have hu : v.Shuffled u := by
    have hfrozen : (Loggable.set true frozen).Shuffled (.set true frozen.reverse) :=
      .set rfl (fun i x y hx hy => Option.some.inj (hx.symm.trans hy) ▸ .refl x)
        (List.reverse_perm _).symm
    have hset : (Loggable.set false [.str "b", .int 10, tuple, .set true frozen]).Shuffled
        (.set false [.set true frozen.reverse, tuple, .int 10, .str "b"]) := by
      refine @Shuffled.set false _ [.str "b", .int 10, tuple, .set true frozen.reverse] _ rfl ?_
        (List.reverse_perm _).symm
      intro i x y hx hy
      match i with
      | 0 | 1 | 2 => exact Option.some.inj (hx.symm.trans hy) ▸ .refl x
      | 3 => exact Option.some.inj hx ▸ Option.some.inj hy ▸ hfrozen
    refine .mapping rfl ?_
    intro i m n hm hn
    match i with
    | 0 | 2 => exact Option.some.inj (hm.symm.trans hn) ▸ .refl m.2
    | 1 => exact Option.some.inj hm ▸ Option.some.inj hn ▸ hset
  -- the elements of both sets come in order, so that nothing is to be sorted
  have hset {frozen : Bool} {xs : List Loggable} {vs : List Value}
      (h : normalList xs = .ok vs) (hw : Value.areWritable vs)
      (hs : vs.Pairwise fun a b => (!decide (b.literal < a.literal)) = true) :
      (Loggable.set frozen xs).normal = .ok (.arr vs) := by
    rw [normal, h, Except.bind, ordered_eq_ok (Value.areWritable_iff.mp hw),
      Value.sortedByLiteral, List.mergeSort_of_pairwise hs]
    rfl
  have hfrozen : (Loggable.set true frozen).normal = .ok (.arr [.str "x", .str "y"]) :=
    hset rfl (by decide) (by decide)
  have helements : normalList [.str "b", .int 10, tuple, .set true frozen] = .ok
      [.str "b", .int 10, .arr [.str "nan", .str "b'A\\xff'"], .arr [.str "x", .str "y"]] :=
    normalList_ok.mpr (.cons rfl (.cons rfl (.cons rfl (.cons hfrozen .nil))))
  have hkept : (Loggable.set false [.str "b", .int 10, tuple, .set true frozen]).normal =
      .ok kept := hset helements (by decide) (by decide)
  have hw : v.normal = .ok w := by
    rw [normal, normalMembers_cons rfl rfl,
      normalMembers_cons rfl hkept, normalMembers_cons rfl rfl, normalMembers]
    rfl
  obtain ⟨w', hw', -, hline, hagain, hall⟩ := normal_settled v hv (by decide)
  obtain rfl : w = w' := Except.ok.inj (hw.symm.trans hw')
  exact ⟨hw, hall u hu, hagain, hline⟩

end Log.Loggable

end Conform
