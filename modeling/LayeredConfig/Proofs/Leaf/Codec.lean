import LayeredConfig.Strategy

/-
  Leaves and their value trees. Every leaf is read back from its tree as itself
  (`ofValue?_toValue`), and whatever reads or combines leaves of one kind gives a leaf of that
  kind.
-/

namespace LayeredConfig

/-! ## Numbers of 64 bits -/

@[simp] theorem int64?_toInt (n : Int64) : int64? n.toInt = some n := by
  rw [int64?, if_pos ⟨Int64.minValue_le_toInt n, Int64.toInt_le n⟩, Int64.ofInt_toInt]

theorem toInt_of_int64? {i : Int} {n : Int64} (h : int64? i = some n) : n.toInt = i := by
  unfold int64? at h
  split at h
  · next hrange =>
    cases h
    have hmin : Int64.minValue.toInt = -2 ^ 63 := by decide
    have hmax : Int64.maxValue.toInt = 2 ^ 63 - 1 := by decide
    exact Int64.toInt_ofInt_of_le (by omega) (by omega)
  · cases h

namespace Leaf

/-! ## Kinds -/

theorem exists_zero {kind : Kind} (h : kind ≠ .record) : ∃ z, zero? kind = some z := by
  cases kind with
  | record => exact absurd rfl h
  | text => exact ⟨.text "", rfl⟩
  | flag => exact ⟨.flag false, rfl⟩
  | number => exact ⟨.number 0, rfl⟩
  | textList => exact ⟨.textList [], rfl⟩

theorem kind_of_zero? {kind : Kind} {leaf : Leaf} (h : zero? kind = some leaf) :
    leaf.kind = kind := by
  cases kind <;> cases h <;> rfl

theorem kind_of_ofValue? {kind : Kind} {v : Value} {leaf : Leaf}
    (h : ofValue? kind v = some leaf) : leaf.kind = kind := by
  unfold ofValue? at h
  split at h
  · obtain ⟨s, -, rfl⟩ := Option.map_eq_some_iff.mp h
    rfl
  · cases h
    rfl
  · obtain ⟨n, -, rfl⟩ := Option.map_eq_some_iff.mp h
    rfl
  · obtain ⟨items, -, rfl⟩ := Option.map_eq_some_iff.mp h
    rfl
  · cases h

theorem isNull_of_ofValue? {kind : Kind} {v : Value} {leaf : Leaf}
    (h : ofValue? kind v = some leaf) : v.isNull = false := by
  cases v with
  | null => cases kind <;> cases h
  | _ => rfl

theorem kind_of_ofNode? {kind : Kind} {node : Option Value} {leaf : Leaf}
    (h : ofNode? kind node = some leaf) : leaf.kind = kind := by
  unfold ofNode? at h
  split at h
  · exact kind_of_zero? h
  · exact kind_of_zero? h
  · exact kind_of_ofValue? h

theorem kind_of_parse? {kind : Kind} {s : String} {leaf : Leaf} (h : parse? kind s = some leaf) :
    leaf.kind = kind := by
  cases kind with
  | text => cases h; rfl
  | flag =>
    rw [parse?, Option.map_eq_some_iff] at h
    obtain ⟨b, -, rfl⟩ := h
    rfl
  | number =>
    rw [parse?, Option.map_eq_some_iff] at h
    obtain ⟨n, -, rfl⟩ := h
    rfl
  | textList => cases h; rfl
  | record => cases h

/-! ## Value trees -/

/-- A list of strings is read back by whatever reads a string as itself. -/
theorem mapM_string {read : Value → Option String} (h : ∀ s, read (.string s) = some s)
    (items : List String) : (items.map Value.string).mapM read = some items := by
  have hpure : read ∘ Value.string = fun s => pure s := funext h
  rw [List.mapM_map, hpure, List.mapM_pure, List.map_id']
  rfl

/-- A leaf is read back from its value tree. -/
@[simp] theorem ofValue?_toValue (leaf : Leaf) : ofValue? leaf.kind leaf.toValue = some leaf := by
  cases leaf with
  | text s => rfl
  | flag b => rfl
  | number n => rw [kind, toValue, ofValue?, int64?_toInt]; rfl
  | textList items => rw [kind, toValue, ofValue?, mapM_string fun _ => rfl]; rfl

@[simp] theorem ofNode?_toValue (leaf : Leaf) :
    ofNode? leaf.kind (some leaf.toValue) = some leaf := by
  have h : ofNode? leaf.kind (some leaf.toValue) = ofValue? leaf.kind leaf.toValue := by
    cases leaf <;> rfl
  rw [h, ofValue?_toValue]

end Leaf

/-! ## Strategies -/

theorem Strategy.kind_of_combine {s : Strategy} {current incoming leaf : Leaf} {kind : Kind}
    (hcurrent : current.kind = kind) (hincoming : incoming.kind = kind)
    (h : s.combine current incoming = some leaf) : leaf.kind = kind := by
  unfold combine at h
  split at h
  · cases h
    exact hcurrent
  · cases h
    exact hcurrent
  · split at h
    · cases h
      exact hincoming
    · cases h
  · cases h
    exact hincoming

end LayeredConfig
