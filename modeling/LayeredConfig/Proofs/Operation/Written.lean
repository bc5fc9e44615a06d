import LayeredConfig.Proofs.Operation.Keys
import LayeredConfig.Proofs.Value.Ordered

/-
  Value trees written as mappings. A tree whose objects are in order is read from its mapping as
  itself (`toValue_ofValue`), the mapping can be collected (`exists_collect`), and its operations
  are the leaves of the tree under the paths of their keys (`mem_operations_iff`).
-/

namespace LayeredConfig

open Yaml (Datum)

/-! ## Trees as data -/

namespace Yaml.Datum

mutual

/-- The datum of a value tree. An object is a mapping with the same entries in the same order. -/
def ofValue : Value → Datum
  | .null => .null
  | .bool b => .bool b
  | .int n => .number (.int n)
  | .float x => .number (.float x)
  | .string s => .string s
  | .array items => .sequence (ofItems items)
  | .object fields => .mapping (ofFields fields)

/-- The data of items. -/
def ofItems : List Value → List Datum
  | [] => []
  | v :: rest => ofValue v :: ofItems rest

/-- The entries of fields. -/
def ofFields : List (String × Value) → List (Datum × Datum)
  | [] => []
  | (key, v) :: rest => (.string key, ofValue v) :: ofFields rest

end

variable {items : List Value} {fields : List (String × Value)} {k d : Datum} {v : Value}

theorem mem_ofFields_iff :
    (k, d) ∈ ofFields fields ↔ ∃ key v, (key, v) ∈ fields ∧ k = .string key ∧ d = ofValue v := by
  induction fields with
  | nil => simp [ofFields]
  | cons f rest ih =>
    obtain ⟨key, v⟩ := f
    rw [ofFields, List.mem_cons, ih]
    constructor
    · rintro (heq | ⟨key', v', hmem, hk, hd⟩)
      · cases heq
        exact ⟨key, v, List.mem_cons_self, rfl, rfl⟩
      · exact ⟨key', v', List.mem_cons_of_mem _ hmem, hk, hd⟩
    · rintro ⟨key', v', hmem, rfl, rfl⟩
      rcases List.mem_cons.mp hmem with heq | hmem
      · cases heq
        exact .inl rfl
      · exact .inr ⟨key', v', hmem, rfl, rfl⟩

theorem entries?_ofValue (v : Value) : (ofValue v).entries? = v.fields?.map ofFields := by
  cases v <;> rfl

theorem itemValues_ofItems (h : ∀ v ∈ items, (ofValue v).toValue = .ok v) :
    itemValues (ofItems items) = .ok items := by
  induction items with
  | nil => rfl
  | cons v rest ih =>
    rw [ofItems, itemValues, h v List.mem_cons_self,
      ih fun w hw => h w (List.mem_cons_of_mem v hw)]
    rfl

theorem entryValues_ofFields (h : ∀ f ∈ fields, (ofValue f.2).toValue = .ok f.2) :
    entryValues (ofFields fields) = .ok fields := by
  induction fields with
  | nil => rfl
  | cons f rest ih =>
    rw [ofFields, entryValues, h f List.mem_cons_self,
      ih fun g hg => h g (List.mem_cons_of_mem f hg)]
    rfl

/-- A tree in order is read as it was written. -/
theorem toValue_ofValue (h : v.Ordered) : (ofValue v).toValue = .ok v := by
  induction h with
  | array h ih =>
    rw [ofValue, toValue, itemValues_ofItems ih]
    rfl
  | object hsorted h ih =>
    rw [ofValue, toValue, entryValues_ofFields ih]
    exact congrArg Except.ok (Value.ofFields_of_sorted hsorted)
  | _ => rfl

end Yaml.Datum

/-! ## Operations of a written tree -/

namespace Operation

open Yaml.Datum (ofValue ofFields toValue_ofValue mem_ofFields_iff entries?_ofValue)

variable {fields : List (String × Value)} {entries : List (Datum × Datum)}
  {ops : List Operation} {op : Operation} {d : Datum} {v : Value}

/-- Entries can be collected when their keys are texts and each of them can be. -/
theorem exists_ofEntries {parent : Option String} {inherited : Option Strategy}
    (h : ∀ e ∈ entries, ∃ rawKey, e.1.text? = some rawKey ∧
      ∃ ops, ofEntry parent inherited rawKey e.2 = .ok ops) :
    ∃ ops, ofEntries parent inherited entries = .ok ops := by
  induction entries with
  | nil => exact ⟨[], by rw [ofEntries]⟩
  | cons e rest ih =>
    obtain ⟨k, d⟩ := e
    obtain ⟨rawKey, hk, first, hfirst⟩ := h _ List.mem_cons_self
    obtain ⟨others, hothers⟩ := ih fun e he => h e (List.mem_cons_of_mem _ he)
    refine ⟨first ++ others, ?_⟩
    have htext : k.text? = some rawKey := hk
    rw [ofEntries, htext]
    exact bind_eq_ok.mpr ⟨first, hfirst, bind_eq_ok.mpr ⟨others, hothers, rfl⟩⟩

theorem exists_ofEntry (h : v.Ordered) (parent : Option String) (inherited : Option Strategy)
    (rawKey : String) : ∃ ops, ofEntry parent inherited rawKey (ofValue v) = .ok ops := by
  induction h generalizing parent inherited rawKey with
  | @object fields hsorted h ih =>
    rw [ofValue, ofEntry_mapping]
    refine exists_ofEntries fun e he => ?_
    obtain ⟨key, w, hmem, hk, hd⟩ := mem_ofFields_iff.mp he
    rw [hk, hd]
    exact ⟨key, rfl, ih _ hmem _ _ _⟩
  | @array items h ih =>
    have hvalue := toValue_ofValue (.array h)
    exact ⟨_, (ofEntry_eq_ok_iff rfl).mpr ⟨_, hvalue, rfl⟩⟩
  | _ => exact ⟨_, (ofEntry_eq_ok_iff rfl).mpr ⟨_, toValue_ofValue (by constructor), rfl⟩⟩

/-- The mapping of an object in order can be collected. -/
theorem exists_collect (h : (Value.object fields).Ordered) :
    ∃ ops, collect (ofFields fields) = .ok ops := by
  refine exists_ofEntries fun e he => ?_
  obtain ⟨key, w, hmem, hk, hd⟩ := mem_ofFields_iff.mp he
  rw [hk, hd]
  have hfield := (Value.mem_iff_findField h.sorted).mp hmem
  exact ⟨key, rfl, exists_ofEntry (h.field? hfield) none none key⟩

/-- The paths of keys in the mapping of an object are those in the object. -/
theorem keyPath_ofFields_iff (h : (Value.object fields).Ordered) {keys : List String} :
    KeyPath (ofFields fields) keys d ↔
      keys ≠ [] ∧ ∃ v, (Value.object fields).getAt? keys = some v ∧ d = ofValue v := by
  constructor
  · intro hpath
    refine ⟨hpath.ne_nil, ?_⟩
    generalize hentries : ofFields fields = entries at hpath
    induction hpath generalizing fields with
    | here hmem hk =>
      subst hentries
      obtain ⟨key, v, hv, rfl, rfl⟩ := mem_ofFields_iff.mp hmem
      cases hk
      have hfield := (Value.mem_iff_findField h.sorted).mp hv
      exact ⟨v, (Value.getAt?_singleton _ _).trans hfield, rfl⟩
    | @inside entries inner k d rawKey rawKeys hmem hk hpath ih =>
      subst hentries
      obtain ⟨key, v, hv, rfl, hd⟩ := mem_ofFields_iff.mp hmem
      cases hk
      have hfield : (Value.object fields).field? rawKey = some v :=
        (Value.mem_iff_findField h.sorted).mp hv
      cases v with
      | object below =>
        cases hd
        obtain ⟨w, hw, hdatum⟩ := ih (h.field? hfield) rfl
        exact ⟨w, by rw [Value.getAt?_cons, hfield]; exact hw, hdatum⟩
      | _ => cases hd
  · rintro ⟨hne, v, hv, rfl⟩
    induction keys generalizing fields with
    | nil => exact absurd rfl hne
    | cons key rest ih =>
      rw [Value.getAt?_cons] at hv
      obtain ⟨inner, hinner, hrest⟩ := Option.bind_eq_some_iff.mp hv
      have hmem := mem_ofFields_iff.mpr
        ⟨key, inner, (Value.mem_iff_findField h.sorted).mpr hinner, rfl, rfl⟩
      cases rest with
      | nil =>
        cases hrest
        exact .here hmem rfl
      | cons next more =>
        cases inner with
        | object below =>
          exact .inside hmem rfl (ih (h.field? hinner) (List.cons_ne_nil next more) hrest)
        | _ => cases hrest

/-- The operations of a written tree are its leaves, under the paths of their keys. -/
theorem mem_operations_iff (h : (Value.object fields).Ordered)
    (hops : collect (ofFields fields) = .ok ops) :
    op ∈ ops ↔ ∃ keys v, keys ≠ [] ∧ (Value.object fields).getAt? keys = some v ∧
      v.fields? = none ∧ op = ⟨(innermost? keys).getD .set, dotted keys, v⟩ := by
  constructor
  · intro hop
    obtain ⟨keys, d, hpath, hd, hvalue, hkey, hstrategy⟩ := keyPath_of_mem hops hop
    obtain ⟨hne, v, hv, rfl⟩ := (keyPath_ofFields_iff h).mp hpath
    refine ⟨keys, v, hne, hv, ?_, ?_⟩
    · rw [entries?_ofValue, Option.map_eq_none_iff] at hd
      exact hd
    · rw [toValue_ofValue (h.getAt? hv)] at hvalue
      rw [Option.or_none] at hstrategy
      obtain ⟨strategy, key, value⟩ := op
      cases hvalue
      cases hkey
      cases hstrategy
      rfl
  · rintro ⟨keys, v, hne, hv, hleaf, rfl⟩
    have hd : (ofValue v).entries? = none := by rw [entries?_ofValue, hleaf]; rfl
    obtain ⟨w, hw, hop⟩ := mem_of_keyPath ((keyPath_ofFields_iff h).mpr ⟨hne, v, hv, rfl⟩) hd hops
    rw [toValue_ofValue (h.getAt? hv)] at hw
    cases hw
    rw [Option.or_none] at hop
    exact hop

end Operation

end LayeredConfig
