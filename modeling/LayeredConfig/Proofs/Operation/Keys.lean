import LayeredConfig.Operation
import LayeredConfig.Proofs.Fallible
import LayeredConfig.Proofs.Text.Pieces

/-
  Where the operations of a mapping come from. A path of keys leads through nested mappings to a
  datum (`KeyPath`). Every operation stands for a path to a datum that is no mapping
  (`keyPath_of_mem`), and every such path has its operation (`mem_of_keyPath`): its key is the path
  without marks, joined by dots, and its strategy is that of the innermost mark. So the mappings
  without operations are those that hold nothing but mappings (`ofEntries_eq_nil_iff`).
-/

namespace LayeredConfig

open Yaml (Datum)

/-! ## Mappings -/

namespace Yaml.Datum

/-- The entries of a mapping. -/
def entries? : Datum → Option (List (Datum × Datum))
  | .mapping entries => some entries
  | _ => none

theorem entries?_eq_some_iff {d : Datum} {entries : List (Datum × Datum)} :
    d.entries? = some entries ↔ d = .mapping entries := by
  cases d <;> simp [entries?]

/-- A mapping that holds nothing but mappings, at any depth. The empty one is the smallest. -/
inductive Hollow : Datum → Prop
  | mapping {entries : List (Datum × Datum)} (h : ∀ e ∈ entries, Hollow e.2) :
    Hollow (.mapping entries)

theorem Hollow.exists_entries {d : Datum} (h : d.Hollow) :
    ∃ entries, d.entries? = some entries ∧ ∀ e ∈ entries, e.2.Hollow := by
  cases h with
  | @mapping entries h => exact ⟨entries, rfl, h⟩

end Yaml.Datum

/-! ## Paths of keys -/

namespace Operation

/-- The key proper of a key as written. -/
def plain (rawKey : String) : String := (Strategy.ofKey rawKey).2

/-- The dotted key of a path of keys as written. -/
def dotted (rawKeys : List String) : String := Text.join "." (rawKeys.map plain)

/-- The strategy of the mark of a key, if it has one. -/
def ownStrategy? (rawKey : String) : Option Strategy :=
  match (Strategy.ofKey rawKey).1 with
  | .set => none
  | s => some s

/-- The strategy of the innermost mark on a path of keys, if there is one. -/
def innermost? (rawKeys : List String) : Option Strategy := rawKeys.reverse.findSome? ownStrategy?

/-- A path of keys as they are written leads through nested mappings to a datum. -/
inductive KeyPath : List (Datum × Datum) → List String → Datum → Prop
  | here {entries : List (Datum × Datum)} {k d : Datum} {rawKey : String}
    (hmem : (k, d) ∈ entries) (hk : k.text? = some rawKey) : KeyPath entries [rawKey] d
  | inside {entries inner : List (Datum × Datum)} {k d : Datum} {rawKey : String}
    {rawKeys : List String} (hmem : (k, .mapping inner) ∈ entries)
    (hk : k.text? = some rawKey) (h : KeyPath inner rawKeys d) :
    KeyPath entries (rawKey :: rawKeys) d

variable {parent : Option String} {inherited : Option Strategy} {rawKey : String}
  {rawKeys : List String} {entries inner : List (Datum × Datum)} {d : Datum}
  {ops : List Operation} {op : Operation}

theorem KeyPath.ne_nil (h : KeyPath entries rawKeys d) : rawKeys ≠ [] := by
  cases h <;> exact List.cons_ne_nil _ _

@[simp] theorem dotted_singleton (rawKey : String) : dotted [rawKey] = plain rawKey := by
  simp [dotted, Text.join, Text.joinChars]

theorem dotted_cons (rawKey : String) (h : rawKeys ≠ []) :
    dotted (rawKey :: rawKeys) = plain rawKey ++ "." ++ dotted rawKeys := by
  have hne : rawKeys.map plain ≠ [] := by simpa using h
  have hjoin := Text.join_append "." (List.cons_ne_nil (plain rawKey) []) hne
  rw [← dotted_singleton]
  exact hjoin

/-- A path below a key goes on from the key. -/
theorem keyBelow_dotted_cons (parent : Option String) (rawKey : String) (h : rawKeys ≠ []) :
    keyBelow parent (dotted (rawKey :: rawKeys)) =
      keyBelow (some (keyBelow parent (plain rawKey))) (dotted rawKeys) := by
  rw [dotted_cons rawKey h]
  cases parent with
  | none => rfl
  | some p => simp only [keyBelow, String.append_assoc]

theorem inheritedStrategy_eq (rawKey : String) (outer : Option Strategy) :
    inheritedStrategy (Strategy.ofKey rawKey).1 outer =
      ((ownStrategy? rawKey).or outer).getD .set := by
  unfold ownStrategy?
  cases (Strategy.ofKey rawKey).1 <;> cases outer <;> rfl

/-- The strategy inside a mapping is that of the innermost mark, and without one inside that of
the mapping. -/
theorem innermost?_cons (rawKey : String) (rawKeys : List String) (outer : Option Strategy) :
    ((innermost? (rawKey :: rawKeys)).or outer).getD .set =
      ((innermost? rawKeys).or
        (some (inheritedStrategy (Strategy.ofKey rawKey).1 outer))).getD .set := by
  have hcons : innermost? (rawKey :: rawKeys) = (innermost? rawKeys).or (ownStrategy? rawKey) := by
    simp [innermost?, List.findSome?_append]
  rw [hcons, inheritedStrategy_eq, Option.or_assoc]
  cases innermost? rawKeys <;> rfl

/-! ## Operations of one entry -/

theorem ofEntry_mapping (parent : Option String) (inherited : Option Strategy) (rawKey : String)
    (inner : List (Datum × Datum)) :
    ofEntry parent inherited rawKey (.mapping inner) =
      ofEntries (some (keyBelow parent (plain rawKey)))
        (some (inheritedStrategy (Strategy.ofKey rawKey).1 inherited)) inner := by
  rw [ofEntry]
  rfl

theorem ofEntry_of_value (hd : d.entries? = none) {v : Value} (hv : d.toValue = .ok v) :
    ofEntry parent inherited rawKey d =
      .ok [⟨inheritedStrategy (Strategy.ofKey rawKey).1 inherited,
        keyBelow parent (plain rawKey), v⟩] := by
  cases d with
  | mapping inner => cases hd
  | _ =>
    rw [ofEntry, hv]
    · rfl
    · simp

theorem ofEntry_of_fault (hd : d.entries? = none) {fault : Datum.KeyFault}
    (hv : d.toValue = .error fault) :
    ofEntry parent inherited rawKey d =
      .error (.noValue (keyBelow parent (plain rawKey)) fault) := by
  cases d with
  | mapping inner => cases hd
  | _ =>
    rw [ofEntry, hv]
    · rfl
    · simp

/-- An entry that is no mapping is one operation, if it has a value. -/
theorem ofEntry_eq_ok_iff (hd : d.entries? = none) :
    ofEntry parent inherited rawKey d = .ok ops ↔ ∃ v, d.toValue = .ok v ∧
      ops = [⟨inheritedStrategy (Strategy.ofKey rawKey).1 inherited,
        keyBelow parent (plain rawKey), v⟩] := by
  cases hv : d.toValue with
  | ok v => simp [ofEntry_of_value hd hv, eq_comm]
  | error fault => simp [ofEntry_of_fault hd hv]

/-! ## Operations of all entries -/

/-- Each entry has a text as its key, and its operations are among those of all. -/
theorem ofEntry_of_mem (h : ofEntries parent inherited entries = .ok ops) {k : Datum}
    (hmem : (k, d) ∈ entries) :
    ∃ rawKey first, k.text? = some rawKey ∧ ofEntry parent inherited rawKey d = .ok first ∧
      first ⊆ ops := by
  induction entries generalizing ops with
  | nil => cases hmem
  | cons e rest ih =>
    obtain ⟨k', d'⟩ := e
    rw [ofEntries] at h
    cases hk : k'.text? with
    | none =>
      rw [hk] at h
      cases h
    | some rawKey =>
      rw [hk] at h
      obtain ⟨first, hfirst, hmore⟩ := bind_eq_ok.mp h
      obtain ⟨others, hothers, hdone⟩ := bind_eq_ok.mp hmore
      cases hdone
      rcases List.mem_cons.mp hmem with heq | hrest
      · cases heq
        exact ⟨rawKey, first, hk, hfirst, List.subset_append_left _ _⟩
      · obtain ⟨key, its, hkey, hits, hsub⟩ := ih hothers hrest
        exact ⟨key, its, hkey, hits, fun o ho => List.mem_append_right _ (hsub ho)⟩

/-- Each operation is one of some entry. -/
theorem exists_entry_of_mem (h : ofEntries parent inherited entries = .ok ops) (hop : op ∈ ops) :
    ∃ k d rawKey first, (k, d) ∈ entries ∧ k.text? = some rawKey ∧
      ofEntry parent inherited rawKey d = .ok first ∧ op ∈ first := by
  induction entries generalizing ops with
  | nil =>
    rw [ofEntries] at h
    cases h
    cases hop
  | cons e rest ih =>
    obtain ⟨k, d⟩ := e
    rw [ofEntries] at h
    cases hk : k.text? with
    | none =>
      rw [hk] at h
      cases h
    | some rawKey =>
      rw [hk] at h
      obtain ⟨first, hfirst, hmore⟩ := bind_eq_ok.mp h
      obtain ⟨others, hothers, hdone⟩ := bind_eq_ok.mp hmore
      cases hdone
      rcases List.mem_append.mp hop with hop | hop
      · exact ⟨k, d, rawKey, first, List.mem_cons_self, hk, hfirst, hop⟩
      · obtain ⟨k', d', key, its, hmem, hrest⟩ := ih hothers hop
        exact ⟨k', d', key, its, List.mem_cons_of_mem _ hmem, hrest⟩

/-- What holds of the entries of a mapping whenever it holds of the mappings among them holds of
all entries. -/
theorem entries_induction {motive : List (Datum × Datum) → Prop}
    (step : ∀ entries, (∀ k inner, (k, Datum.mapping inner) ∈ entries → motive inner) →
      motive entries) (entries : List (Datum × Datum)) : motive entries := by
  refine step entries fun k inner hmem => ?_
  have hentry := List.sizeOf_lt_of_mem hmem
  have hpair : sizeOf (k, Datum.mapping inner) = 1 + sizeOf k + (1 + sizeOf inner) := by
    rw [Prod.mk.sizeOf_spec, Datum.mapping.sizeOf_spec]
  have hsmaller : sizeOf inner < sizeOf entries := by omega
  exact entries_induction step inner
termination_by sizeOf entries

/-- Every operation stands for a path of keys to a datum that is no mapping. -/
theorem keyPath_of_mem (h : ofEntries parent inherited entries = .ok ops) (hop : op ∈ ops) :
    ∃ rawKeys d, KeyPath entries rawKeys d ∧ d.entries? = none ∧ d.toValue = .ok op.value ∧
      op.key = keyBelow parent (dotted rawKeys) ∧
      op.strategy = ((innermost? rawKeys).or inherited).getD .set := by
  induction entries using entries_induction generalizing parent inherited ops with
  | step entries ih =>
    obtain ⟨k, d, rawKey, first, hmem, hk, hfirst, hop⟩ := exists_entry_of_mem h hop
    cases hd : d.entries? with
    | none =>
      obtain ⟨v, hv, rfl⟩ := (ofEntry_eq_ok_iff hd).mp hfirst
      cases List.mem_singleton.mp hop
      refine ⟨[rawKey], d, .here hmem hk, hd, hv, ?_, ?_⟩
      · rw [dotted_singleton]
      · rw [innermost?_cons]
        rfl
    | some inner =>
      -- a mapping has no operation of its own: the path of this one goes on inside
      cases Datum.entries?_eq_some_iff.mp hd
      rw [ofEntry_mapping] at hfirst
      obtain ⟨rawKeys, leaf, hpath, hleaf, hvalue, hkey, hstrategy⟩ := ih k inner hmem hfirst hop
      refine ⟨rawKey :: rawKeys, leaf, .inside hmem hk hpath, hleaf, hvalue, ?_, ?_⟩
      · rw [hkey, keyBelow_dotted_cons _ _ hpath.ne_nil]
      · rw [hstrategy, innermost?_cons]

/-- Every path of keys to a datum that is no mapping has its operation. -/
theorem mem_of_keyPath (hpath : KeyPath entries rawKeys d) (hd : d.entries? = none)
    (h : ofEntries parent inherited entries = .ok ops) :
    ∃ v, d.toValue = .ok v ∧
      ⟨((innermost? rawKeys).or inherited).getD .set, keyBelow parent (dotted rawKeys), v⟩ ∈
        ops := by
  induction hpath generalizing parent inherited ops with
  | @here entries k d rawKey hmem hk =>
    obtain ⟨key, first, hkey, hfirst, hsub⟩ := ofEntry_of_mem h hmem
    cases hk.symm.trans hkey
    obtain ⟨v, hv, rfl⟩ := (ofEntry_eq_ok_iff hd).mp hfirst
    refine ⟨v, hv, hsub ?_⟩
    rw [dotted_singleton, innermost?_cons]
    exact List.mem_singleton.mpr rfl
  | @inside entries inner k d rawKey rawKeys hmem hk hpath ih =>
    obtain ⟨key, first, hkey, hfirst, hsub⟩ := ofEntry_of_mem h hmem
    cases hk.symm.trans hkey
    rw [ofEntry_mapping] at hfirst
    obtain ⟨v, hv, hop⟩ := ih hd hfirst
    refine ⟨v, hv, hsub ?_⟩
    rw [keyBelow_dotted_cons _ _ hpath.ne_nil, innermost?_cons]
    exact hop

/-- The operations below a path of keys to a mapping are among those of all. -/
theorem ofEntries_of_keyPath (hpath : KeyPath entries rawKeys (.mapping inner))
    (h : ofEntries parent inherited entries = .ok ops) :
    ∃ outer more, ofEntries (some (keyBelow parent (dotted rawKeys))) outer inner = .ok more ∧
      more ⊆ ops := by
  -- the datum at the end is an index of the path, and the induction needs it as a variable
  generalize hdatum : Datum.mapping inner = d at hpath
  induction hpath generalizing parent inherited ops with
  | @here entries k d rawKey hmem hk =>
    subst hdatum
    obtain ⟨key, first, hkey, hfirst, hsub⟩ := ofEntry_of_mem h hmem
    cases hk.symm.trans hkey
    rw [ofEntry_mapping] at hfirst
    rw [dotted_singleton]
    exact ⟨_, first, hfirst, hsub⟩
  | @inside entries middle k d rawKey rawKeys hmem hk hpath ih =>
    obtain ⟨key, first, hkey, hfirst, hsub⟩ := ofEntry_of_mem h hmem
    cases hk.symm.trans hkey
    rw [ofEntry_mapping] at hfirst
    obtain ⟨outer, more, hmore, hbelow⟩ := ih hfirst hdatum
    rw [keyBelow_dotted_cons _ _ hpath.ne_nil]
    exact ⟨outer, more, hmore, fun o ho => hsub (hbelow ho)⟩

/-! ## Mappings without operations -/

theorem hollow_of_ofEntries_eq_nil (h : ofEntries parent inherited entries = .ok []) :
    (Datum.mapping entries).Hollow := by
  induction entries using entries_induction generalizing parent inherited with
  | step entries ih =>
    refine .mapping fun e hmem => ?_
    obtain ⟨k, d⟩ := e
    obtain ⟨rawKey, first, -, hfirst, hsub⟩ := ofEntry_of_mem h hmem
    have hnil : first = [] := List.subset_nil.mp hsub
    subst hnil
    cases hd : d.entries? with
    | none =>
      obtain ⟨v, -, hone⟩ := (ofEntry_eq_ok_iff hd).mp hfirst
      cases hone
    | some inner =>
      cases Datum.entries?_eq_some_iff.mp hd
      rw [ofEntry_mapping] at hfirst
      exact ih k inner hmem hfirst

theorem KeyPath.hollow (hpath : KeyPath entries rawKeys d) (h : (Datum.mapping entries).Hollow) :
    d.Hollow := by
  induction hpath with
  | here hmem _ =>
    cases h with
    | mapping h => exact h _ hmem
  | inside hmem _ _ ih =>
    cases h with
    | mapping h => exact ih (h _ hmem)

/-- The mappings without operations are the hollow ones. -/
theorem ofEntries_eq_nil_iff (h : ofEntries parent inherited entries = .ok ops) :
    ops = [] ↔ (Datum.mapping entries).Hollow := by
  constructor
  · rintro rfl
    exact hollow_of_ofEntries_eq_nil h
  · intro hhollow
    refine List.eq_nil_iff_forall_not_mem.mpr fun op hop => ?_
    obtain ⟨rawKeys, d, hpath, hd, -⟩ := keyPath_of_mem h hop
    obtain ⟨inner, hinner, -⟩ := (hpath.hollow hhollow).exists_entries
    cases hd.symm.trans hinner

end Operation

end LayeredConfig
