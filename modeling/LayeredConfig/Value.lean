import LayeredConfig.Decimal.Shortest

/-
  Value trees: the plain data that documents are made of. The fields of an object stand in the
  order of their keys, so inserting puts a new key at its place and a look-up stops at the first
  larger key. A key that was set has its new value, and all other keys keep theirs; both laws
  hold for every list of fields, in order or not.
-/

namespace LayeredConfig

/-- A tree of plain data. -/
inductive Value where
  | null
  | bool (b : Bool)
  | int (n : Int)
  | float (x : Binary64)
  | string (s : String)
  | array (items : List Value)
  | object (fields : List (String × Value))
  deriving Repr, Inhabited

namespace Value

mutual

/-- Equality of trees. -/
def decEq : (a b : Value) → Decidable (a = b)
  | .null, b =>
    match b with
    | .null => isTrue rfl
    | .bool _ | .int _ | .float _ | .string _ | .array _ | .object _ => isFalse (by simp)
  | .bool x, b =>
    match b with
    | .bool y => decidable_of_iff (x = y) (by simp)
    | .null | .int _ | .float _ | .string _ | .array _ | .object _ => isFalse (by simp)
  | .int x, b =>
    match b with
    | .int y => decidable_of_iff (x = y) (by simp)
    | .null | .bool _ | .float _ | .string _ | .array _ | .object _ => isFalse (by simp)
  | .float x, b =>
    match b with
    | .float y => decidable_of_iff (x = y) (by simp)
    | .null | .bool _ | .int _ | .string _ | .array _ | .object _ => isFalse (by simp)
  | .string x, b =>
    match b with
    | .string y => decidable_of_iff (x = y) (by simp)
    | .null | .bool _ | .int _ | .float _ | .array _ | .object _ => isFalse (by simp)
  | .array xs, b =>
    match b with
    | .array ys => @decidable_of_iff _ (xs = ys) (by simp) (decEqItems xs ys)
    | .null | .bool _ | .int _ | .float _ | .string _ | .object _ => isFalse (by simp)
  | .object xs, b =>
    match b with
    | .object ys => @decidable_of_iff _ (xs = ys) (by simp) (decEqFields xs ys)
    | .null | .bool _ | .int _ | .float _ | .string _ | .array _ => isFalse (by simp)

/-- Equality of item lists. -/
def decEqItems : (xs ys : List Value) → Decidable (xs = ys)
  | [], [] => isTrue rfl
  | [], _ :: _ | _ :: _, [] => isFalse (by simp)
  | x :: xs, y :: ys =>
    match x.decEq y, decEqItems xs ys with
    | isTrue h, isTrue t => isTrue (by rw [h, t])
    | isFalse h, _ => isFalse (by simp [h])
    | _, isFalse t => isFalse (by simp [t])

/-- Equality of field lists. -/
def decEqFields : (xs ys : List (String × Value)) → Decidable (xs = ys)
  | [], [] => isTrue rfl
  | [], _ :: _ | _ :: _, [] => isFalse (by simp)
  | (k, x) :: xs, (l, y) :: ys =>
    match (inferInstance : Decidable (k = l)), x.decEq y, decEqFields xs ys with
    | isTrue e, isTrue h, isTrue t => isTrue (by rw [e, h, t])
    | isFalse e, _, _ => isFalse (by simp [e])
    | _, isFalse h, _ => isFalse (by simp [h])
    | _, _, isFalse t => isFalse (by simp [t])

end

/-- Trees can be compared. -/
instance : DecidableEq Value := decEq

/-! ## Fields of an object -/

/-- The value of a key; the search ends at the first larger key. -/
def findField (key : String) : List (String × Value) → Option Value
  | [] => none
  | (k, v) :: rest =>
    match compare key k with
    | .lt => none
    | .eq => some v
    | .gt => findField key rest

/-- Sets the value of a key, putting a new key before the first larger one. -/
def insertField (key : String) (value : Value) :
    List (String × Value) → List (String × Value)
  | [] => [(key, value)]
  | (k, v) :: rest =>
    match compare key k with
    | .lt => (key, value) :: (k, v) :: rest
    | .eq => (key, value) :: rest
    | .gt => (k, v) :: insertField key value rest

/-- A key that was just set has its new value. -/
@[simp] theorem findField_insertField_self (key : String) (value : Value)
    (fields : List (String × Value)) :
    findField key (insertField key value fields) = some value := by
  induction fields with
  | nil => simp [insertField, findField]
  | cons f rest ih =>
    obtain ⟨k, v⟩ := f
    simp only [insertField]
    split
    · simp [findField]
    · simp [findField]
    · next h => simp [findField, h, ih]

/-- Setting a key changes no other key. -/
theorem findField_insertField_of_ne {key other : String} (h : other ≠ key) (value : Value)
    (fields : List (String × Value)) :
    findField other (insertField key value fields) = findField other fields := by
  have hne : compare other key ≠ .eq := fun e => h (Std.LawfulEqOrd.eq_of_compare e)
  induction fields with
  | nil =>
    simp only [insertField, findField]
    cases hc : compare other key <;> simp_all
  | cons f rest ih =>
    obtain ⟨k, v⟩ := f
    simp only [insertField]
    split
    · next hlt =>
      simp only [findField]
      cases hc : compare other key with
      | lt => rw [Std.TransCmp.lt_trans hc hlt]
      | eq => exact absurd hc hne
      | gt => rfl
    · next heq =>
      have hk : key = k := Std.LawfulEqOrd.eq_of_compare heq
      subst hk
      simp only [findField]
      cases hc : compare other key with
      | lt => rfl
      | eq => exact absurd hc hne
      | gt => rfl
    · simp only [findField, ih]

/-- The object with the given fields; of equal keys the last one counts. -/
def ofFields (fields : List (String × Value)) : Value :=
  .object (fields.foldl (fun acc f => insertField f.1 f.2 acc) [])

/-- The fields of an object, and none for other values. -/
def fields? : Value → Option (List (String × Value))
  | .object fields => some fields
  | _ => none

/-- The value of a key of an object. -/
def field? (v : Value) (key : String) : Option Value :=
  match v with
  | .object fields => findField key fields
  | _ => none

/-- The null value. -/
def isNull : Value → Bool
  | .null => true
  | _ => false

/-! ## Text of scalars -/

/-- Floating-point numbers in value trees mark a positive exponent. -/
def floatStyle : Binary64.ExponentStyle := ⟨true⟩

/-- The text of a value where a text is wanted: a string itself, the digits of a number, or the
word of a boolean. -/
def scalarText? : Value → Option String
  | .string s => some s
  | .int n => some (toString n)
  | .float x => some (x.toText floatStyle)
  | .bool b => some (if b then "true" else "false")
  | .null | .array _ | .object _ => none

end Value

end LayeredConfig
