import LayeredConfig.Proofs.Value.Path

/-
  Writing value trees more than once. A write covers all earlier ones at its place and below it
  (`setAt_setAt_of_isPrefix`), writes at places that stand apart can be made in either order
  (`setAt_comm`), and writing what stands there already changes nothing (`setAt_of_getAt?`). With
  the laws of reading after writing, dotted paths are lenses on trees (`dotted_paths_are_lenses`).

  Two trees agree outside a place when one write there makes them equal (`AgreeOutside`). Reading
  and writing apart from the place cannot tell them apart, and a write at the place or above it
  makes them one tree (`AgreeOutside.setAt_of_isPrefix`).
-/

namespace LayeredConfig.Value

/-! ## Fields set more than once -/

variable {a b key : String} {x y : Value} {fields : List (String × Value)}

/-- The last value that a key is set to counts. -/
@[simp] theorem insertField_insertField_self (key : String) (x y : Value)
    (fields : List (String × Value)) :
    insertField key x (insertField key y fields) = insertField key x fields := by
  induction fields with
  | nil => simp [insertField]
  | cons f rest ih =>
    obtain ⟨k, v⟩ := f
    cases hk : compare key k with
    | lt => simp [insertField, hk]
    | eq => simp [insertField, hk]
    | gt => simp [insertField, hk, ih]

theorem insertField_comm_of_lt (h : compare a b = .lt) (x y : Value)
    (fields : List (String × Value)) :
    insertField a x (insertField b y fields) = insertField b y (insertField a x fields) := by
  have hgt : compare b a = .gt := Std.OrientedCmp.gt_iff_lt.mpr h
  induction fields with
  | nil => simp [insertField, h, hgt]
  | cons f rest ih =>
    obtain ⟨k, v⟩ := f
    cases hb : compare b k with
    | lt =>
      have ha : compare a k = .lt := Std.TransCmp.lt_trans h hb
      simp [insertField, h, hgt, ha, hb]
    | eq =>
      obtain rfl : b = k := Std.LawfulEqOrd.eq_of_compare hb
      simp [insertField, h, hgt]
    | gt => cases ha : compare a k <;> simp [insertField, hgt, ha, hb, ih]

/-- Different keys can be set in either order. -/
theorem insertField_comm (h : a ≠ b) (x y : Value) (fields : List (String × Value)) :
    insertField a x (insertField b y fields) = insertField b y (insertField a x fields) := by
  cases hab : compare a b with
  | lt => exact insertField_comm_of_lt hab x y fields
  | eq => exact absurd (Std.LawfulEqOrd.eq_of_compare hab) h
  | gt => exact (insertField_comm_of_lt (Std.OrientedCmp.gt_iff_lt.mp hab) y x fields).symm

/-- Setting a key to the value that it has changes nothing. -/
theorem insertField_of_findField (h : findField key fields = some x) :
    insertField key x fields = fields := by
  induction fields with
  | nil => cases h
  | cons f rest ih =>
    obtain ⟨k, v⟩ := f
    rw [findField] at h
    rw [insertField]
    cases hk : compare key k with
    | lt =>
      rw [hk] at h
      cases h
    | eq =>
      rw [hk] at h
      cases h
      obtain rfl : key = k := Std.LawfulEqOrd.eq_of_compare hk
      rfl
    | gt =>
      rw [hk] at h
      simp only [ih h]

/-! ## Writes one after another -/

/-- A write covers an earlier one at its place or below it. -/
theorem setAt_setAt_of_isPrefix {p q : List String} (h : p <+: q) (v x y : Value) :
    (v.setAt q x).setAt p y = v.setAt p y := by
  induction p generalizing v q with
  | nil => rfl
  | cons key rest ih =>
    obtain ⟨more, rfl⟩ := h
    rw [List.cons_append, setAt, setAt, setAt]
    simp only [fields?, Option.getD_some, findField_insertField_self]
    rw [ih (List.prefix_append rest more), insertField_insertField_self]

/-- Writes at places that stand apart can be made in either order. -/
theorem setAt_comm {p q : List String} (h : Apart p q) (v x y : Value) :
    (v.setAt p x).setAt q y = (v.setAt q y).setAt p x := by
  induction p generalizing v q with
  | nil => exact absurd List.nil_prefix h.1
  | cons key rest ih =>
    cases q with
    | nil => exact absurd List.nil_prefix h.2
    | cons other more =>
      simp only [setAt, fields?, Option.getD_some]
      by_cases heq : other = key
      · subst heq
        have happart : Apart rest more := apart_cons_iff.mp h
        simp only [findField_insertField_self, Option.getD_some]
        rw [ih happart, insertField_insertField_self, insertField_insertField_self]
      · rw [findField_insertField_of_ne heq, findField_insertField_of_ne (Ne.symm heq),
          insertField_comm heq]

/-- Writing what stands at a place changes nothing. -/
theorem setAt_of_getAt? {p : List String} {v x : Value} (h : v.getAt? p = some x) :
    v.setAt p x = v := by
  induction p generalizing v with
  | nil => exact (Option.some.inj h).symm
  | cons key rest ih =>
    rw [getAt?_cons] at h
    obtain ⟨inner, hinner, hrest⟩ := Option.bind_eq_some_iff.mp h
    cases v with
    | object fields =>
      rw [setAt]
      simp only [fields?, Option.getD_some]
      rw [show findField key fields = some inner from hinner, Option.getD_some, ih hrest,
        insertField_of_findField hinner]
    | _ => cases hinner

/-! ## Dotted paths as lenses -/

@[simp] theorem assign_assign (t x y : Value) (path : String) :
    (t.assign path x).assign path y = t.assign path y :=
  setAt_setAt_of_isPrefix (List.prefix_refl _) t x y

theorem assign_of_get? {t x : Value} {path : String} (h : t.get? path = some x) :
    t.assign path x = t := setAt_of_getAt? h

theorem assign_comm {p q : String} (h : Apart (segments p) (segments q)) (t x y : Value) :
    (t.assign p x).assign q y = (t.assign q y).assign p x := setAt_comm h t x y

/-- What is written at a dotted path is read there, the last write counts, and writing what stands
there changes nothing. A write is not seen at a path that leads neither below nor above it, and two
writes at such paths can be made in either order, whatever had to be replaced by objects. -/
theorem dotted_paths_are_lenses (t v w : Value) (p q : String) :
    (t.assign p v).get? p = some v ∧
      (t.assign p v).assign p w = t.assign p w ∧
      (∀ x, t.get? p = some x → t.assign p x = t) ∧
      (Apart (segments p) (segments q) →
        (t.assign p v).get? q = t.get? q ∧
          (t.assign p v).assign q w = (t.assign q w).assign p v) := by
  refine ⟨get?_assign_self t v p, assign_assign t v w p, ?_, ?_⟩
  · intro x hx
    exact assign_of_get? hx
  · intro hpq
    exact ⟨get?_assign_of_apart t v hpq, assign_comm hpq t v w⟩

/-- A tree with a number and a null in one record. -/
def sharedRecord : Value := .object [("a", .object [("b", .int 7), ("c", .null)])]

/-- The paths share their first segment, and the second one leads through a null. -/
theorem dotted_paths_are_lenses_shared_record :
    Apart (segments "a.b") (segments "a.c.") ∧ sharedRecord.get? "a.b" = some (.int 7) ∧
      sharedRecord.assign "a.b" (.int 7) = sharedRecord ∧
      (sharedRecord.assign "a.b" .null).get? "a.c." = sharedRecord.get? "a.c." ∧
      (sharedRecord.assign "a.b" .null).assign "a.c." (.bool true) =
        (sharedRecord.assign "a.c." (.bool true)).assign "a.b" .null := by
  have hapart : Apart (segments "a.b") (segments "a.c.") := ⟨by decide, by decide⟩
  have hget : sharedRecord.get? "a.b" = some (.int 7) := by decide
  obtain ⟨-, -, hsame, hboth⟩ :=
    dotted_paths_are_lenses sharedRecord .null (.bool true) "a.b" "a.c."
  exact ⟨hapart, hget, hsame _ hget, hboth hapart⟩

/-! ## Trees that agree outside a place -/

/-- The trees differ at most at the place and below it: one write there makes them equal. -/
def AgreeOutside (p : List String) (s t : Value) : Prop := ∀ x, s.setAt p x = t.setAt p x

variable {p q : List String} {s t u : Value}

theorem AgreeOutside.refl (p : List String) (s : Value) : AgreeOutside p s s := fun _ => rfl

theorem AgreeOutside.symm (h : AgreeOutside p s t) : AgreeOutside p t s := fun x => (h x).symm

theorem AgreeOutside.trans (h : AgreeOutside p s t) (h' : AgreeOutside p t u) :
    AgreeOutside p s u := fun x => (h x).trans (h' x)

/-- A write at the place or below it changes nothing outside. -/
theorem agreeOutside_setAt (h : p <+: q) (s x : Value) : AgreeOutside p (s.setAt q x) s :=
  fun y => setAt_setAt_of_isPrefix h s x y

/-- What stands apart from the place is the same. -/
theorem AgreeOutside.getAt? (h : AgreeOutside p s t) (hpq : Apart p q) :
    s.getAt? q = t.getAt? q := by
  rw [← getAt?_setAt_of_apart s .null hpq, h .null, getAt?_setAt_of_apart t .null hpq]

/-- Trees that agree outside a place still do so after a write apart from it. -/
theorem AgreeOutside.setAt (h : AgreeOutside p s t) (hpq : Apart p q) (y : Value) :
    AgreeOutside p (s.setAt q y) (t.setAt q y) := by
  intro x
  rw [setAt_comm hpq.symm, h x, setAt_comm hpq]

/-- A write at the place or above it makes the trees equal. -/
theorem AgreeOutside.setAt_of_isPrefix (h : AgreeOutside p s t) (hqp : q <+: p) (y : Value) :
    s.setAt q y = t.setAt q y := by
  rw [← setAt_setAt_of_isPrefix hqp s .null y, h .null, setAt_setAt_of_isPrefix hqp]

end LayeredConfig.Value
