import LayeredConfig.Proofs.Value.Path
import Mathlib.Data.List.Sort

/-
  Trees whose objects hold their keys in order. Setting a key keeps the order
  (`sorted_insertField`), so whatever is made of fields is in order again (`Ordered.ofFields`). In
  order, a look-up finds just the fields that are there (`mem_iff_findField`), so that look-ups tell
  the fields (`eq_of_findField_eq`), and fields are an object as they stand (`ofFields_of_sorted`).
  Two leaves of a tree stand at the same place or apart (`eq_or_apart_of_getAt?`).
-/

namespace LayeredConfig.Value

/-! ## Fields in order -/

/-- Every key stands before the larger ones, so none comes twice. -/
def Sorted (fields : List (String × Value)) : Prop :=
  fields.Pairwise fun a b => compare a.1 b.1 = .lt

variable {key : String} {value : Value} {fields acc : List (String × Value)}

theorem mem_insertField {f : String × Value} (h : f ∈ insertField key value fields) :
    f = (key, value) ∨ f ∈ fields := by
  induction fields with
  | nil => exact .inl (List.mem_singleton.mp h)
  | cons g rest ih =>
    obtain ⟨k, v⟩ := g
    simp only [insertField] at h
    split at h
    · exact List.mem_cons.mp h
    · rcases List.mem_cons.mp h with hself | hrest
      · exact .inl hself
      · exact .inr (List.mem_cons_of_mem _ hrest)
    · rcases List.mem_cons.mp h with hfirst | hrest
      · exact .inr (hfirst ▸ List.mem_cons_self)
      · exact (ih hrest).imp_right (List.mem_cons_of_mem _)

theorem sorted_insertField (h : Sorted fields) (key : String) (value : Value) :
    Sorted (insertField key value fields) := by
  induction fields with
  | nil => exact List.pairwise_singleton _ _
  | cons g rest ih =>
    obtain ⟨k, v⟩ := g
    have hrest := List.pairwise_cons.mp h
    simp only [insertField]
    split
    · next hlt =>
      refine List.pairwise_cons.mpr ⟨fun f hf => ?_, h⟩
      rcases List.mem_cons.mp hf with rfl | hf
      · exact hlt
      · exact Std.TransCmp.lt_trans hlt (hrest.1 f hf)
    · next heq =>
      have hk : key = k := Std.LawfulEqOrd.eq_of_compare heq
      subst hk
      exact List.pairwise_cons.mpr hrest
    · next hgt =>
      refine List.pairwise_cons.mpr ⟨fun f hf => ?_, ih hrest.2⟩
      rcases mem_insertField hf with rfl | hf
      · exact Std.OrientedCmp.gt_iff_lt.mp hgt
      · exact hrest.1 f hf

theorem sorted_foldl_insertField (h : Sorted acc) (fields : List (String × Value)) :
    Sorted (fields.foldl (fun acc f => insertField f.1 f.2 acc) acc) := by
  induction fields generalizing acc with
  | nil => exact h
  | cons f rest ih => exact ih (sorted_insertField h f.1 f.2)

/-- A key after all others is put at the end. -/
theorem insertField_of_lt (h : ∀ f ∈ fields, compare f.1 key = .lt) (value : Value) :
    insertField key value fields = fields ++ [(key, value)] := by
  induction fields with
  | nil => rfl
  | cons g rest ih =>
    obtain ⟨k, v⟩ := g
    have hgt : compare key k = .gt := Std.OrientedCmp.gt_iff_lt.mpr (h _ List.mem_cons_self)
    simp only [insertField, hgt]
    rw [ih fun f hf => h f (List.mem_cons_of_mem _ hf), List.cons_append]

theorem foldl_insertField_of_sorted (h : Sorted (acc ++ fields)) :
    fields.foldl (fun acc f => insertField f.1 f.2 acc) acc = acc ++ fields := by
  induction fields generalizing acc with
  | nil => rw [List.foldl_nil, List.append_nil]
  | cons f rest ih =>
    have hlt : ∀ g ∈ acc, compare g.1 f.1 = .lt := fun g hg =>
      (List.pairwise_append.mp h).2.2 g hg f List.mem_cons_self
    rw [List.append_cons] at h
    rw [List.foldl_cons, insertField_of_lt hlt, ih h]
    exact (List.append_cons acc f rest).symm

/-- Fields in order are an object as they stand. -/
theorem ofFields_of_sorted (h : Sorted fields) : ofFields fields = .object fields := by
  have hfold : fields.foldl (fun acc f => insertField f.1 f.2 acc) [] = [] ++ fields :=
    foldl_insertField_of_sorted h
  rw [ofFields, hfold, List.nil_append]

theorem compare_self_ne_lt (key : String) : compare key key ≠ .lt := by
  rw [Std.ReflOrd.compare_self]
  decide

/-- Of fields in order, a look-up finds just those that are there. -/
theorem mem_iff_findField (h : Sorted fields) :
    (key, value) ∈ fields ↔ findField key fields = some value := by
  induction fields with
  | nil => simp [findField]
  | cons g rest ih =>
    obtain ⟨k, v⟩ := g
    obtain ⟨hfirst, hrest⟩ := List.pairwise_cons.mp h
    rw [List.mem_cons, findField]
    cases hc : compare key k with
    | lt =>
      have hnot : (key, value) ∉ (k, v) :: rest := by
        intro hmem
        refine compare_self_ne_lt key ?_
        rcases List.mem_cons.mp hmem with heq | hmem
        · cases heq
          exact hc
        · exact Std.TransCmp.lt_trans hc (hfirst _ hmem)
      simpa using hnot
    | eq =>
      have hk : key = k := Std.LawfulEqOrd.eq_of_compare hc
      subst hk
      have hnot : (key, value) ∉ rest := fun hmem => compare_self_ne_lt key (hfirst _ hmem)
      simp [hnot, eq_comm]
    | gt =>
      have hne : key ≠ k := by
        rintro rfl
        rw [Std.ReflOrd.compare_self] at hc
        cases hc
      simpa [hne] using ih hrest

/-- Fields in order are told by their look-ups. -/
theorem eq_of_findField_eq {fields' : List (String × Value)} (h : Sorted fields)
    (h' : Sorted fields') (hfind : ∀ key, findField key fields = findField key fields') :
    fields = fields' := by
  have hirrefl : Std.Irrefl fun a b : String × Value => compare a.1 b.1 = .lt :=
    ⟨fun f => compare_self_ne_lt f.1⟩
  have hantisymm : Std.Antisymm fun a b : String × Value => compare a.1 b.1 = .lt :=
    ⟨fun f g hfg hgf => absurd (Std.TransCmp.lt_trans hfg hgf) (compare_self_ne_lt f.1)⟩
  refine List.Pairwise.eq_of_mem_iff h h' fun ⟨key, value⟩ => ?_
  rw [mem_iff_findField h, mem_iff_findField h', hfind]

/-! ## Trees in order -/

/-- Every object of the tree has its fields in order. -/
inductive Ordered : Value → Prop
  | null : Ordered .null
  | bool (b : Bool) : Ordered (.bool b)
  | int (n : Int) : Ordered (.int n)
  | float (x : Binary64) : Ordered (.float x)
  | string (s : String) : Ordered (.string s)
  | array {items : List Value} (h : ∀ v ∈ items, Ordered v) : Ordered (.array items)
  | object {fields : List (String × Value)} (hsorted : Sorted fields)
    (h : ∀ f ∈ fields, Ordered f.2) : Ordered (.object fields)

theorem mem_foldl_insertField {f : String × Value}
    (h : f ∈ fields.foldl (fun acc f => insertField f.1 f.2 acc) acc) : f ∈ acc ∨ f ∈ fields := by
  induction fields generalizing acc with
  | nil => exact .inl h
  | cons g rest ih =>
    rcases ih h with hacc | hrest
    · rcases mem_insertField hacc with hself | hacc
      · exact .inr (hself ▸ List.mem_cons_self)
      · exact .inl hacc
    · exact .inr (List.mem_cons_of_mem g hrest)

theorem Ordered.ofFields (h : ∀ f ∈ fields, f.2.Ordered) : (ofFields fields).Ordered := by
  refine .object (sorted_foldl_insertField List.Pairwise.nil fields) fun f hf => ?_
  have hmem : f ∈ fields := (mem_foldl_insertField hf).resolve_left (List.not_mem_nil)
  exact h f hmem

theorem Ordered.sorted (h : (Value.object fields).Ordered) : Sorted fields := by
  cases h with
  | object hsorted _ => exact hsorted

theorem Ordered.field? {v inner : Value} (h : v.Ordered) (hfield : v.field? key = some inner) :
    inner.Ordered := by
  cases h with
  | object hsorted h => exact h _ ((mem_iff_findField hsorted).mpr hfield)
  | _ => cases hfield

theorem Ordered.getAt? {v inner : Value} {keys : List String} (h : v.Ordered)
    (hinner : v.getAt? keys = some inner) : inner.Ordered := by
  induction keys generalizing v with
  | nil =>
    cases hinner
    exact h
  | cons key rest ih =>
    rw [getAt?_cons] at hinner
    obtain ⟨middle, hmiddle, hrest⟩ := Option.bind_eq_some_iff.mp hinner
    exact ih (h.field? hmiddle) hrest

/-! ## Leaves -/

theorem field?_eq_none {v : Value} (h : v.fields? = none) (key : String) : v.field? key = none := by
  cases v with
  | object fields => cases h
  | _ => rfl

/-- Below what is no object stands nothing. -/
theorem eq_nil_of_getAt? {v x : Value} {keys : List String} (hleaf : v.fields? = none)
    (h : v.getAt? keys = some x) : keys = [] ∧ x = v := by
  cases keys with
  | nil =>
    cases h
    exact ⟨rfl, rfl⟩
  | cons key rest =>
    rw [getAt?_cons, field?_eq_none hleaf] at h
    cases h

theorem eq_of_prefix_of_getAt? {v x y : Value} {p q : List String} (hx : v.getAt? p = some x)
    (hleaf : x.fields? = none) (hy : v.getAt? q = some y) (h : p <+: q) : p = q := by
  induction p generalizing v q with
  | nil =>
    cases hx
    exact (eq_nil_of_getAt? hleaf hy).1.symm
  | cons key rest ih =>
    obtain ⟨more, rfl⟩ := h
    rw [List.cons_append, getAt?_cons] at hy
    rw [getAt?_cons] at hx
    cases hfield : v.field? key with
    | none =>
      rw [hfield] at hx
      cases hx
    | some inner =>
      rw [hfield] at hx hy
      rw [List.cons_append]
      exact congrArg (key :: ·) (ih hx hy (List.prefix_append rest more))

/-- Two leaves of a tree stand at the same place or apart. -/
theorem eq_or_apart_of_getAt? {v x y : Value} {p q : List String} (hx : v.getAt? p = some x)
    (hxleaf : x.fields? = none) (hy : v.getAt? q = some y) (hyleaf : y.fields? = none) :
    p = q ∨ Apart p q := by
  by_cases hpq : p <+: q
  · exact .inl (eq_of_prefix_of_getAt? hx hxleaf hy hpq)
  · by_cases hqp : q <+: p
    · exact .inl (eq_of_prefix_of_getAt? hy hyleaf hx hqp).symm
    · exact .inr ⟨hpq, hqp⟩

end LayeredConfig.Value
