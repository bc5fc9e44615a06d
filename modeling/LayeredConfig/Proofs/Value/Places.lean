import LayeredConfig.Leaf
import LayeredConfig.Proofs.Value.Path

/-
  Nodes of value trees. A place leads to a node through objects, by their keys, and through arrays,
  by the numbers of their items; a place of keys alone is a path (`nodeAt?_keys`). Writing at a path
  leaves no null behind that was not there before or in what was written (`null_of_setAt`), although
  it may replace what stands in its way.
-/

namespace LayeredConfig

namespace Value

/-- A step from a node to one below it: to the value of a key or to an item. -/
inductive Step where
  | key (key : String)
  | item (index : Nat)
  deriving Repr, DecidableEq

/-- The node one step below a node. -/
def child? (v : Value) : Step → Option Value
  | .key key => v.field? key
  | .item index =>
    match v with
    | .array items => items[index]?
    | _ => none

/-- The node at a place. -/
def nodeAt? : Value → List Step → Option Value
  | v, [] => some v
  | v, s :: rest => (v.child? s).bind fun inner => inner.nodeAt? rest

variable {v x : Value} {place : List Step}

theorem nodeAt?_cons (v : Value) (s : Step) (rest : List Step) :
    v.nodeAt? (s :: rest) = (v.child? s).bind fun inner => inner.nodeAt? rest := rfl

/-- A place of keys alone is a path. -/
@[simp] theorem nodeAt?_keys (v : Value) (keys : List String) :
    v.nodeAt? (keys.map .key) = v.getAt? keys := by
  induction keys generalizing v with
  | nil => rfl
  | cons key rest ih =>
    rw [List.map_cons, nodeAt?_cons, getAt?_cons]
    simp only [ih]
    rfl

/-! ## Nulls -/

/-- The only null in a value without nodes below it is the value itself. -/
theorem eq_nil_of_null (hchild : ∀ s, v.child? s = none) (h : v.nodeAt? place = some .null) :
    place = [] ∧ v = .null := by
  cases place with
  | nil => exact ⟨rfl, Option.some.inj h⟩
  | cons s rest =>
    rw [nodeAt?_cons, hchild s] at h
    cases h

@[simp] theorem child?_null (s : Step) : Value.null.child? s = none := by
  cases s <;> rfl

/-- Below null there is no other null. -/
theorem eq_nil_of_null_in_null (h : Value.null.nodeAt? place = some .null) : place = [] :=
  (eq_nil_of_null child?_null h).1

theorem mem_of_findField {key : String} {fields : List (String × Value)}
    (h : findField key fields = some v) : (key, v) ∈ fields := by
  induction fields with
  | nil => cases h
  | cons f rest ih =>
    unfold findField at h
    split at h
    · cases h
    · next heq =>
      cases h
      cases Std.LawfulEqOrd.eq_of_compare heq
      exact List.mem_cons_self
    · exact List.mem_cons_of_mem f (ih h)

/-- The nulls in an object are those in its fields. -/
theorem null_of_object {fields : List (String × Value)}
    (h : (Value.object fields).nodeAt? place = some .null) :
    ∃ key inner rest, place = .key key :: rest ∧ (key, inner) ∈ fields ∧
      inner.nodeAt? rest = some .null := by
  cases place with
  | nil => cases h
  | cons s rest =>
    obtain ⟨inner, hinner, hrest⟩ := Option.bind_eq_some_iff.mp h
    cases s with
    | key key => exact ⟨key, inner, rest, rfl, mem_of_findField hinner, hrest⟩
    | item index => cases hinner

theorem nodeAt?_string_ne_null (s : String) (place : List Step) :
    (Value.string s).nodeAt? place ≠ some .null := by
  intro h
  cases (eq_nil_of_null (fun s => by cases s <;> rfl) h).2

/-- The value tree of a leaf holds no null. -/
theorem nodeAt?_toValue_ne_null (leaf : Leaf) (place : List Step) :
    leaf.toValue.nodeAt? place ≠ some .null := by
  intro h
  cases leaf with
  | text s => exact nodeAt?_string_ne_null s place h
  | flag b => cases (eq_nil_of_null (fun s => by cases s <;> rfl) h).2
  | number n => cases (eq_nil_of_null (fun s => by cases s <;> rfl) h).2
  | textList items =>
    cases place with
    | nil => cases h
    | cons s rest =>
      obtain ⟨inner, hinner, hrest⟩ := Option.bind_eq_some_iff.mp h
      cases s with
      | key key => cases hinner
      | item index =>
        obtain ⟨item, -, rfl⟩ := List.mem_map.mp (List.mem_of_getElem? hinner)
        exact nodeAt?_string_ne_null item rest hrest

/-- After a write, a null stands in what was written or where one stood before. -/
theorem null_of_setAt {p : List String} (h : (v.setAt p x).nodeAt? place = some .null) :
    (∃ rest, place = p.map .key ++ rest ∧ x.nodeAt? rest = some .null) ∨
      v.nodeAt? place = some .null := by
  induction p generalizing v place with
  | nil => exact .inl ⟨place, rfl, h⟩
  | cons key p ih =>
    cases place with
    | nil => cases h
    | cons s more =>
      cases s with
      | item index => cases h
      | key other =>
        rw [nodeAt?_cons, child?] at h
        by_cases heq : other = key
        · subst heq
          rw [field?_setAt_self, Option.bind_some] at h
          rcases ih h with ⟨rest, rfl, hrest⟩ | hbefore
          · exact .inl ⟨rest, rfl, hrest⟩
          · cases hfield : v.field? other with
            | some inner =>
              rw [hfield, Option.getD_some] at hbefore
              rw [nodeAt?_cons, child?, hfield]
              exact .inr hbefore
            | none =>
              -- the null that stands in for a missing value is replaced, unless it is the place
              rw [hfield, Option.getD_none] at hbefore
              cases eq_nil_of_null_in_null hbefore
              cases p with
              | nil => exact .inl ⟨[], rfl, h⟩
              | cons _ _ => cases h
        · rw [field?_setAt_of_ne heq] at h
          exact .inr h

end Value

end LayeredConfig
