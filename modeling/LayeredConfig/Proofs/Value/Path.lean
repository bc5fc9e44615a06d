import LayeredConfig.Proofs.Text.Pieces
import LayeredConfig.Value.Path

/-
  Reading and writing value trees at dotted paths. What was written is read back, also below the
  place of writing (`getAt?_setAt_append`), and nothing changes at a path that leads neither
  below nor above it (`getAt?_setAt_of_apart`), whatever intermediate values had to be replaced by
  objects. Of two dotted paths, one leads below the other exactly when its text begins so
  (`segments_prefix_iff`).
-/

namespace LayeredConfig.Value

/-! ## Segments of dotted paths -/

/-- Neither list of keys leads below the other. -/
def Apart (p q : List String) : Prop := ¬ p <+: q ∧ ¬ q <+: p

theorem Apart.symm {p q : List String} (h : Apart p q) : Apart q p := ⟨h.2, h.1⟩

theorem apart_of_head_ne {a b : String} (h : a ≠ b) (p q : List String) :
    Apart (a :: p) (b :: q) :=
  ⟨fun hp => h (List.cons_prefix_cons.mp hp).1, fun hp => h (List.cons_prefix_cons.mp hp).1.symm⟩

@[simp] theorem apart_cons_iff {a : String} {p q : List String} :
    Apart (a :: p) (a :: q) ↔ Apart p q := by
  rw [Apart, Apart, List.prefix_cons_inj, List.prefix_cons_inj]

theorem segments_ne_nil (path : String) : segments path ≠ [] := Text.split_ne_nil '.' path

@[simp] theorem join_segments (path : String) : Text.join "." (segments path) = path :=
  Text.join_split rfl path

theorem segments_injective {p q : String} (h : segments p = segments q) : p = q := by
  rw [← join_segments p, h, join_segments]

theorem segments_of_not_mem {key : String} (h : '.' ∉ key.toList) : segments key = [key] :=
  Text.split_of_not_mem h

@[simp] theorem segments_append (p q : String) :
    segments (p ++ "." ++ q) = segments p ++ segments q :=
  Text.split_append rfl p q

theorem Apart.ne_path {p q : String} (h : Apart (segments p) (segments q)) : p ≠ q := by
  rintro rfl
  exact h.1 (List.prefix_refl _)

/-- A dotted path leads below another, or to the same place, exactly when its text says so. -/
theorem segments_prefix_iff {p q : String} :
    segments p <+: segments q ↔ p = q ∨ ∃ rest, q = p ++ "." ++ rest := by
  constructor
  · rintro ⟨rest, hrest⟩
    cases rest with
    | nil =>
      rw [List.append_nil] at hrest
      exact .inl (segments_injective hrest)
    | cons key more =>
      refine .inr ⟨Text.join "." (key :: more), ?_⟩
      rw [← join_segments q, ← hrest,
        Text.join_append "." (segments_ne_nil p) (List.cons_ne_nil key more), join_segments]
  · rintro (rfl | ⟨rest, rfl⟩)
    · exact List.prefix_refl _
    · rw [segments_append]
      exact List.prefix_append _ _

/-! ## Fields of objects -/

theorem field?_eq_findField (v : Value) (key : String) :
    v.field? key = findField key (v.fields?.getD []) := by
  cases v <;> rfl

@[simp] theorem field?_setAt_self (v x : Value) (key : String) (rest : List String) :
    (v.setAt (key :: rest) x).field? key =
      some (((v.field? key).getD .null).setAt rest x) := by
  rw [field?_eq_findField v, setAt]
  exact findField_insertField_self key _ _

theorem field?_setAt_of_ne {key other : String} (h : other ≠ key) (v x : Value)
    (rest : List String) : (v.setAt (key :: rest) x).field? other = v.field? other := by
  rw [field?_eq_findField v, setAt]
  exact findField_insertField_of_ne h _ _

/-- Writing never takes a key away. -/
theorem isSome_field?_setAt {v : Value} {key : String} (h : (v.field? key).isSome = true)
    (x : Value) {path : List String} (hp : path ≠ []) :
    ((v.setAt path x).field? key).isSome = true := by
  obtain ⟨first, rest, rfl⟩ := List.exists_cons_of_ne_nil hp
  by_cases heq : key = first
  · rw [heq, field?_setAt_self]
    rfl
  · rw [field?_setAt_of_ne heq]
    exact h

theorem setAt_eq_object (v x : Value) {path : List String} (h : path ≠ []) :
    ∃ fields, v.setAt path x = .object fields := by
  obtain ⟨first, rest, rfl⟩ := List.exists_cons_of_ne_nil h
  exact ⟨_, rfl⟩

theorem findField_foldl_insertField_of_not_mem {key : String} {fields : List (String × Value)}
    (h : key ∉ fields.map Prod.fst) (acc : List (String × Value)) :
    findField key (fields.foldl (fun acc f => insertField f.1 f.2 acc) acc) =
      findField key acc := by
  induction fields generalizing acc with
  | nil => rfl
  | cons f rest ih =>
    rw [List.map_cons, List.mem_cons, not_or] at h
    rw [List.foldl_cons, ih h.2, findField_insertField_of_ne h.1]

theorem findField_foldl_insertField {key : String} {value : Value}
    {fields : List (String × Value)} (hnodup : (fields.map Prod.fst).Nodup)
    (hmem : (key, value) ∈ fields) (acc : List (String × Value)) :
    findField key (fields.foldl (fun acc f => insertField f.1 f.2 acc) acc) = some value := by
  induction fields generalizing acc with
  | nil => cases hmem
  | cons f rest ih =>
    rw [List.map_cons, List.nodup_cons] at hnodup
    rw [List.foldl_cons]
    rcases List.mem_cons.mp hmem with rfl | hrest
    · rw [findField_foldl_insertField_of_not_mem hnodup.1, findField_insertField_self]
    · exact ih hnodup.2 hrest _

/-- An object made of fields with different keys gives each key its value. -/
theorem field?_ofFields {key : String} {value : Value} {fields : List (String × Value)}
    (hnodup : (fields.map Prod.fst).Nodup) (hmem : (key, value) ∈ fields) :
    (ofFields fields).field? key = some value :=
  findField_foldl_insertField hnodup hmem []

/-- An object made of fields has no other keys. -/
theorem key_mem_of_field?_ofFields {key : String} {value : Value} {fields : List (String × Value)}
    (h : (ofFields fields).field? key = some value) : key ∈ fields.map Prod.fst := by
  by_cases hmem : key ∈ fields.map Prod.fst
  · exact hmem
  · have hnone : (ofFields fields).field? key = none :=
      findField_foldl_insertField_of_not_mem hmem []
    rw [hnone] at h
    cases h

/-! ## Laws of reading and writing -/

theorem getAt?_cons (v : Value) (key : String) (rest : List String) :
    v.getAt? (key :: rest) = (v.field? key).bind fun inner => inner.getAt? rest := by
  rw [getAt?]
  cases v.field? key <;> rfl

@[simp] theorem getAt?_singleton (v : Value) (key : String) : v.getAt? [key] = v.field? key := by
  rw [getAt?_cons]
  cases v.field? key <;> rfl

@[simp] theorem getAt?_null {path : List String} (h : path ≠ []) :
    Value.null.getAt? path = none := by
  cases path with
  | nil => exact absurd rfl h
  | cons key rest => rfl

/-- Below the place of writing stands what was written. -/
@[simp] theorem getAt?_setAt_append (v x : Value) (p q : List String) :
    (v.setAt p x).getAt? (p ++ q) = x.getAt? q := by
  induction p generalizing v with
  | nil => rfl
  | cons key rest ih =>
    rw [List.cons_append, getAt?_cons, field?_setAt_self, Option.bind_some, ih]

@[simp] theorem getAt?_setAt_self (v x : Value) (p : List String) :
    (v.setAt p x).getAt? p = some x := by
  have h := getAt?_setAt_append v x p []
  rw [List.append_nil] at h
  exact h

/-- Writing changes nothing that stands apart from the place of writing. -/
theorem getAt?_setAt_of_apart (v x : Value) {p q : List String} (h : Apart p q) :
    (v.setAt p x).getAt? q = v.getAt? q := by
  induction p generalizing v q with
  | nil => exact absurd List.nil_prefix h.1
  | cons key rest ih =>
    cases q with
    | nil => exact absurd List.nil_prefix h.2
    | cons other more =>
      rw [getAt?_cons, getAt?_cons]
      by_cases heq : other = key
      · subst heq
        have happart : Apart rest more := apart_cons_iff.mp h
        have hne : more ≠ [] := by
          rintro rfl
          exact happart.2 List.nil_prefix
        rw [field?_setAt_self, Option.bind_some, ih _ happart]
        -- a missing value was replaced by an object, which is as empty along `more`
        cases v.field? other with
        | none => exact getAt?_null hne
        | some inner => rfl
      · rw [field?_setAt_of_ne heq]

/-! ## Dotted paths -/

@[simp] theorem get?_assign_self (v x : Value) (path : String) :
    (v.assign path x).get? path = some x :=
  getAt?_setAt_self v x (segments path)

theorem get?_assign_of_apart (v x : Value) {p q : String} (h : Apart (segments p) (segments q)) :
    (v.assign p x).get? q = v.get? q :=
  getAt?_setAt_of_apart v x h

/-- Nothing stands below a null. -/
theorem get?_assign_null_below (v : Value) (p rest : String) :
    (v.assign p .null).get? (p ++ "." ++ rest) = none := by
  rw [get?, assign, segments_append, getAt?_setAt_append]
  exact getAt?_null (segments_ne_nil rest)

end LayeredConfig.Value
