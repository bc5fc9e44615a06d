import LayeredConfig.Proofs.Operation.Keys
import Mathlib.Data.List.Forall2

/-
  Flattening of nested mappings. The entries of a mapping and of those nested in it are listed in
  document order (`nestedEntries`). Each of them alone gives no operation, one operation or a fault
  (`NestedEntry.operations`), and the operations of the mapping are theirs in that order, up to the
  first fault (`ofEntries_eq_operationsOf`). So `collect_flattens` says when a mapping can be
  collected, which operations it gives, and which fault otherwise.
-/

namespace LayeredConfig

open Yaml (Datum)

namespace Operation

/-! ## Marks -/

/-- The strategy that the first character of a key selects, if it is a mark. -/
def mark? (rawKey : String) : Option Strategy := rawKey.toList.head?.bind Strategy.ofMark?

/-- A key without its mark. -/
def unmarked (rawKey : String) : String :=
  if (mark? rawKey).isSome then String.ofList rawKey.toList.tail else rawKey

theorem ofMark?_ne_set (c : Char) : Strategy.ofMark? c ≠ some .set := by
  grind [Strategy.ofMark?]

theorem ofKey_eq (rawKey : String) :
    Strategy.ofKey rawKey = ((mark? rawKey).getD .set, unmarked rawKey) := by
  unfold Strategy.ofKey unmarked mark?
  cases rawKey.toList with
  | nil => rfl
  | cons c rest => cases hmark : Strategy.ofMark? c <;> simp [hmark]

theorem plain_eq_unmarked (rawKey : String) : plain rawKey = unmarked rawKey := by
  rw [plain, ofKey_eq]

theorem ownStrategy?_eq_mark? (rawKey : String) : ownStrategy? rawKey = mark? rawKey := by
  rw [ownStrategy?, ofKey_eq]
  cases hmark : mark? rawKey with
  | none => rfl
  | some s =>
    have hset : s ≠ .set := by
      rintro rfl
      obtain ⟨c, -, hc⟩ := Option.bind_eq_some_iff.mp hmark
      exact ofMark?_ne_set c hc
    cases s with
    | set => exact absurd rfl hset
    | _ => rfl

/-! ## Nested entries -/

/-- An entry of a mapping or of one nested in it: the keys of the mappings around it, its own key
and its value. -/
structure NestedEntry where
  above : List Datum
  key : Datum
  value : Datum

mutual

/-- The entries of a datum that is a mapping, and of those nested in it. -/
def nestedBelow (above : List Datum) : Datum → List NestedEntry
  | .mapping entries => nestedEntries above entries
  | _ => []

/-- The entries of a mapping and of those nested in it, in document order. -/
def nestedEntries (above : List Datum) : List (Datum × Datum) → List NestedEntry
  | [] => []
  | (k, v) :: rest => ⟨above, k, v⟩ :: (nestedBelow (above ++ [k]) v ++ nestedEntries above rest)

end

namespace NestedEntry

/-- The keys on the path to the value, as far as they are texts. -/
def rawKeys (e : NestedEntry) : List String := (e.above ++ [e.key]).filterMap Datum.text?

/-- The keys on the path without their marks, joined by dots. -/
def path (e : NestedEntry) : String := Text.join "." (e.rawKeys.map unmarked)

/-- The strategy of the innermost mark on the path. -/
def strategy (e : NestedEntry) : Strategy := (e.rawKeys.reverse.findSome? mark?).getD .set

/-- The value is no mapping. -/
def isLeaf (e : NestedEntry) : Bool := e.value.entries?.isNone

/-- The key is a text, and the value is a mapping or has a value tree. -/
def Sound (e : NestedEntry) : Prop :=
  (∃ rawKey, e.key.text? = some rawKey) ∧ (e.isLeaf = true → ∃ v, e.value.toValue = .ok v)

/-- What is wrong with an entry. -/
inductive Offends (e : NestedEntry) : OperationFault → Prop
  | key (h : e.key.text? = none) : Offends e (.keyNotText e.key)
  | value {rawKey : String} {fault : Datum.KeyFault} (hkey : e.key.text? = some rawKey)
    (hleaf : e.isLeaf = true) (h : e.value.toValue = .error fault) :
    Offends e (.noValue e.path fault)

/-- The operation of an entry that is no mapping. -/
structure Gives (e : NestedEntry) (op : Operation) : Prop where
  value_eq : e.value.toValue = .ok op.value
  key_eq : op.key = e.path
  strategy_eq : op.strategy = e.strategy

/-- The operations that an entry gives by itself, without those nested in it. -/
def operations (e : NestedEntry) : Except OperationFault (List Operation) :=
  match e.key.text?, e.value.entries? with
  | none, _ => .error (.keyNotText e.key)
  | some _, some _ => .ok []
  | some _, none =>
    match e.value.toValue with
    | .ok v => .ok [⟨e.strategy, e.path, v⟩]
    | .error fault => .error (.noValue e.path fault)

end NestedEntry

/-- The operations of entries in their order, or the first fault. -/
def operationsOf : List NestedEntry → Except OperationFault (List Operation)
  | [] => .ok []
  | e :: rest => do
    let first ← e.operations
    let others ← operationsOf rest
    return first ++ others

variable {es : List NestedEntry} {e : NestedEntry} {op : Operation}
  {ops : List Operation} {fault : OperationFault}

/-! ## One entry -/

namespace NestedEntry

/-- What an entry by itself can give: a fault, nothing when its value is a mapping, or one
operation. -/
inductive Outcome (e : NestedEntry) : Except OperationFault (List Operation) → Prop
  | offends {fault : OperationFault} (h : e.Offends fault) : Outcome e (.error fault)
  | mapping (h : e.Sound) (hleaf : e.isLeaf = false) : Outcome e (.ok [])
  | leaf {op : Operation} (h : e.Sound) (hleaf : e.isLeaf = true) (hop : e.Gives op) :
    Outcome e (.ok [op])

theorem outcome (e : NestedEntry) : e.Outcome e.operations := by
  unfold operations
  cases hkey : e.key.text? with
  | none => exact .offends (.key hkey)
  | some rawKey =>
    cases hvalue : e.value.entries? with
    | some entries =>
      have hleaf : e.isLeaf = false := by rw [isLeaf, hvalue]; rfl
      refine .mapping ⟨⟨rawKey, hkey⟩, fun h => ?_⟩ hleaf
      rw [hleaf] at h
      cases h
    | none =>
      have hleaf : e.isLeaf = true := by rw [isLeaf, hvalue]; rfl
      cases hv : e.value.toValue with
      | ok v => exact .leaf ⟨⟨rawKey, hkey⟩, fun _ => ⟨v, hv⟩⟩ hleaf ⟨hv, rfl, rfl⟩
      | error fault => exact .offends (.value hkey hleaf hv)

theorem Offends.not_sound (h : e.Offends fault) : ¬ e.Sound := by
  rintro ⟨⟨rawKey, hkey⟩, hvalue⟩
  cases h with
  | key hnone => cases hkey.symm.trans hnone
  | value _ hleaf hfault =>
    obtain ⟨v, hv⟩ := hvalue hleaf
    cases hv.symm.trans hfault

theorem Offends.unique {fault' : OperationFault} (h : e.Offends fault) (h' : e.Offends fault') :
    fault = fault' := by
  cases h with
  | key hnone =>
    cases h' with
    | key => rfl
    | value hkey => cases hkey.symm.trans hnone
  | value hkey _ hfault =>
    cases h' with
    | key hnone => cases hkey.symm.trans hnone
    | value _ _ hfault' =>
      cases hfault.symm.trans hfault'
      rfl

theorem Gives.unique {op' : Operation} (h : e.Gives op) (h' : e.Gives op') : op = op' := by
  obtain ⟨strategy, key, value⟩ := op
  obtain ⟨strategy', key', value'⟩ := op'
  obtain ⟨hvalue, rfl, rfl⟩ := h
  obtain ⟨hvalue', rfl, rfl⟩ := h'
  cases hvalue.symm.trans hvalue'
  rfl

end NestedEntry

/-! ## Entries in a row -/

theorem operationsOf_append (es more : List NestedEntry) :
    operationsOf (es ++ more) =
      (do
        let first ← operationsOf es
        let others ← operationsOf more
        return first ++ others) := by
  induction es with
  | nil =>
    rw [List.nil_append, operationsOf, ok_bind]
    cases operationsOf more <;> rfl
  | cons e rest ih =>
    rw [List.cons_append, operationsOf, operationsOf, ih]
    cases e.operations with
    | error fault => rfl
    | ok first =>
      cases operationsOf rest with
      | error fault => rfl
      | ok others =>
        cases operationsOf more with
        | error fault => rfl
        | ok last => exact congrArg Except.ok (List.append_assoc first others last).symm

/-- An entry without a fault puts its operations before those of the others. -/
theorem bind_operationsOf_eq_ok_iff {first : List Operation} :
    (operationsOf es >>= fun others => return first ++ others) = .ok ops ↔
      ∃ others, operationsOf es = .ok others ∧ first ++ others = ops := by
  rw [bind_eq_ok]
  simp [pure, Except.pure]

theorem bind_operationsOf_eq_error_iff {first : List Operation} :
    (operationsOf es >>= fun others => return first ++ others) = .error fault ↔
      operationsOf es = .error fault := by
  rw [bind_eq_error]
  simp [pure, Except.pure]

/-- Entries have operations when all of them are sound: one for each that is no mapping. -/
theorem operationsOf_eq_ok_iff :
    operationsOf es = .ok ops ↔ (∀ e ∈ es, e.Sound) ∧
      List.Forall₂ NestedEntry.Gives (es.filter NestedEntry.isLeaf) ops := by
  induction es generalizing ops with
  | nil => simp [operationsOf, eq_comm]
  | cons e rest ih =>
    rw [operationsOf, List.forall_mem_cons, List.filter_cons]
    have houtcome := e.outcome
    generalize e.operations = first at houtcome
    cases houtcome with
    | offends hfault =>
      rw [error_bind]
      constructor
      · rintro ⟨⟩
      · rintro ⟨⟨hsound, -⟩, -⟩
        exact absurd hsound hfault.not_sound
    | mapping hsound hleaf =>
      rw [ok_bind, hleaf, if_neg Bool.false_ne_true, bind_operationsOf_eq_ok_iff,
        and_iff_right hsound]
      constructor
      · rintro ⟨others, hothers, rfl⟩
        exact ih.mp hothers
      · intro h
        exact ⟨ops, ih.mpr h, rfl⟩
    | leaf hsound hleaf hop =>
      rw [ok_bind, hleaf, if_pos rfl, bind_operationsOf_eq_ok_iff, and_iff_right hsound]
      constructor
      · rintro ⟨others, hothers, rfl⟩
        obtain ⟨hall, hops⟩ := ih.mp hothers
        exact ⟨hall, .cons hop hops⟩
      · rintro ⟨hall, hops⟩
        cases hops with
        | @cons _ _ _ others hop' hrest =>
          rw [hop.unique hop']
          exact ⟨others, ih.mpr ⟨hall, hrest⟩, rfl⟩

/-- The first of the entries that is not sound has the fault. -/
def FirstFault (es : List NestedEntry) (fault : OperationFault) : Prop :=
  ∃ before e after, es = before ++ e :: after ∧ (∀ b ∈ before, b.Sound) ∧ e.Offends fault

theorem firstFault_cons_iff :
    FirstFault (e :: es) fault ↔ e.Offends fault ∨ e.Sound ∧ FirstFault es fault := by
  constructor
  · rintro ⟨before, d, after, heq, hbefore, hd⟩
    cases before with
    | nil =>
      cases heq
      exact .inl hd
    | cons b before =>
      cases heq
      rw [List.forall_mem_cons] at hbefore
      exact .inr ⟨hbefore.1, before, d, after, rfl, hbefore.2, hd⟩
  · rintro (he | ⟨he, before, d, after, rfl, hbefore, hd⟩)
    · exact ⟨[], e, es, rfl, fun b hb => (List.not_mem_nil hb).elim, he⟩
    · exact ⟨e :: before, d, after, rfl, List.forall_mem_cons.mpr ⟨he, hbefore⟩, hd⟩

theorem firstFault_cons_of_sound (h : e.Sound) :
    FirstFault (e :: es) fault ↔ FirstFault es fault := by
  rw [firstFault_cons_iff, or_iff_right fun he => he.not_sound h, and_iff_right h]

/-- Entries have no operations when one of them is at fault, and the first one counts. -/
theorem operationsOf_eq_error_iff : operationsOf es = .error fault ↔ FirstFault es fault := by
  induction es with
  | nil => simp [operationsOf, FirstFault]
  | cons e rest ih =>
    rw [operationsOf]
    have houtcome := e.outcome
    generalize e.operations = first at houtcome
    cases houtcome with
    | offends hfault =>
      rw [firstFault_cons_iff, error_bind]
      constructor
      · rintro ⟨⟩
        exact .inl hfault
      · rintro (h | ⟨hsound, -⟩)
        · rw [hfault.unique h]
        · exact absurd hsound hfault.not_sound
    | mapping hsound _ =>
      rw [firstFault_cons_of_sound hsound, ok_bind, bind_operationsOf_eq_error_iff, ih]
    | leaf hsound _ _ =>
      rw [firstFault_cons_of_sound hsound, ok_bind, bind_operationsOf_eq_error_iff, ih]

/-! ## Nested mappings -/

/-- The dotted key of the mapping that a path of keys leads to. The whole mapping has none. -/
def outerKey? (rawKeys : List String) : Option String :=
  if rawKeys.isEmpty then none else some (Text.join "." (rawKeys.map unmarked))

/-- The strategy that the mapping at the end of a path of keys hands down. -/
def outerStrategy? (rawKeys : List String) : Option Strategy :=
  if rawKeys.isEmpty then none else some ((rawKeys.reverse.findSome? mark?).getD .set)

theorem keyBelow_outerKey? (rawKeys : List String) (rawKey : String) :
    keyBelow (outerKey? rawKeys) (plain rawKey) =
      Text.join "." ((rawKeys ++ [rawKey]).map unmarked) := by
  rw [plain_eq_unmarked, List.map_append]
  cases rawKeys with
  | nil => simp [outerKey?, keyBelow, Text.join, Text.joinChars]
  | cons key rest =>
    have hone : Text.join "." [unmarked rawKey] = unmarked rawKey := by
      simp [Text.join, Text.joinChars]
    have hne : (key :: rest).map unmarked ≠ [] := by simp
    rw [Text.join_append "." hne (by simp), List.map_singleton, hone]
    rfl

theorem inheritedStrategy_outerStrategy? (rawKeys : List String) (rawKey : String) :
    inheritedStrategy (Strategy.ofKey rawKey).1 (outerStrategy? rawKeys) =
      ((rawKeys ++ [rawKey]).reverse.findSome? mark?).getD .set := by
  rw [inheritedStrategy_eq, ownStrategy?_eq_mark?, List.reverse_append, List.reverse_singleton,
    List.singleton_append, List.findSome?_cons]
  cases mark? rawKey with
  | some s => rfl
  | none => cases rawKeys <;> rfl

/-- What holds of the entries of a mapping when it holds of those of the mapping that comes first
and of the others holds of all entries. -/
theorem nested_induction {motive : List (Datum × Datum) → Prop} (nil : motive [])
    (leaf : ∀ k d rest, d.entries? = none → motive rest → motive ((k, d) :: rest))
    (mapping : ∀ k inner rest, motive inner → motive rest →
      motive ((k, Datum.mapping inner) :: rest))
    (entries : List (Datum × Datum)) : motive entries := by
  induction entries using entries_induction with
  | step entries ih =>
    induction entries with
    | nil => exact nil
    | cons entry rest ihrest =>
      obtain ⟨k, d⟩ := entry
      have hrest := ihrest fun k inner hmem => ih k inner (List.mem_cons_of_mem _ hmem)
      cases hd : d.entries? with
      | none => exact leaf k d rest hd hrest
      | some inner =>
        cases Datum.entries?_eq_some_iff.mp hd
        exact mapping k inner rest (ih k inner List.mem_cons_self) hrest

theorem nestedBelow_of_leaf {d : Datum} (h : d.entries? = none) (above : List Datum) :
    nestedBelow above d = [] := by
  cases d with
  | mapping inner => cases h
  | _ => simp [nestedBelow]

theorem rawKeys_of_text {above : List Datum} {k d : Datum} {rawKey : String}
    (hk : k.text? = some rawKey) :
    (NestedEntry.mk above k d).rawKeys = above.filterMap Datum.text? ++ [rawKey] := by
  simp [NestedEntry.rawKeys, hk]

/-- An entry that is no mapping, inside the mappings around it. -/
theorem ofEntry_eq_operations {above : List Datum} {k d : Datum} {rawKey : String}
    (hk : k.text? = some rawKey) (hd : d.entries? = none) :
    ofEntry (outerKey? (above.filterMap Datum.text?))
        (outerStrategy? (above.filterMap Datum.text?)) rawKey d =
      (NestedEntry.mk above k d).operations := by
  simp only [NestedEntry.operations, hk, hd, NestedEntry.strategy, NestedEntry.path,
    rawKeys_of_text hk, ← keyBelow_outerKey?, ← inheritedStrategy_outerStrategy?]
  cases hv : d.toValue with
  | ok v => exact ofEntry_of_value hd hv
  | error fault => exact ofEntry_of_fault hd hv

/-- The entries of a mapping take over what the keys on the way to it say. -/
theorem ofEntry_mapping_above {above : List Datum} {k : Datum} {rawKey : String}
    (hk : k.text? = some rawKey) (inner : List (Datum × Datum)) :
    ofEntry (outerKey? (above.filterMap Datum.text?))
        (outerStrategy? (above.filterMap Datum.text?)) rawKey (.mapping inner) =
      ofEntries (outerKey? ((above ++ [k]).filterMap Datum.text?))
        (outerStrategy? ((above ++ [k]).filterMap Datum.text?)) inner := by
  have htexts : (above ++ [k]).filterMap Datum.text? =
      above.filterMap Datum.text? ++ [rawKey] := by
    simp [hk]
  rw [ofEntry_mapping, keyBelow_outerKey?, inheritedStrategy_outerStrategy?, htexts]
  simp [outerKey?, outerStrategy?]

/-- The operations of a mapping are those of its entries and of the ones nested in it. -/
theorem ofEntries_eq_operationsOf (above : List Datum) (entries : List (Datum × Datum)) :
    ofEntries (outerKey? (above.filterMap Datum.text?))
        (outerStrategy? (above.filterMap Datum.text?)) entries =
      operationsOf (nestedEntries above entries) := by
  -- the keys above grow on the way down, so the induction is for all of them
  induction entries using nested_induction generalizing above with
  | nil => rw [ofEntries, nestedEntries, operationsOf]
  | leaf k d rest hd ih =>
    rw [ofEntries, nestedEntries, operationsOf, nestedBelow_of_leaf hd, List.nil_append, ← ih]
    cases hk : k.text? with
    | none => simp [NestedEntry.operations, hk]
    | some rawKey => simp only [ofEntry_eq_operations hk hd]
  | mapping k inner rest ihinner ihrest =>
    rw [ofEntries, nestedEntries, operationsOf, nestedBelow, operationsOf_append, ← ihinner,
      ← ihrest]
    cases hk : k.text? with
    | none => simp [NestedEntry.operations, hk]
    | some rawKey =>
      have hnone : (NestedEntry.mk above k (.mapping inner)).operations = .ok [] := by
        simp [NestedEntry.operations, hk, Datum.entries?]
      simp only [ofEntry_mapping_above hk, hnone, ok_bind, List.nil_append, bind_pure]

theorem collect_eq_operationsOf (entries : List (Datum × Datum)) :
    collect entries = operationsOf (nestedEntries [] entries) :=
  ofEntries_eq_operationsOf [] entries

/-- Sound entries have operations. -/
theorem exists_operationsOf_iff : (∃ ops, operationsOf es = .ok ops) ↔ ∀ e ∈ es, e.Sound := by
  constructor
  · rintro ⟨ops, hops⟩
    exact (operationsOf_eq_ok_iff.mp hops).1
  · intro hsound
    cases hes : operationsOf es with
    | ok ops => exact ⟨ops, rfl⟩
    | error fault =>
      obtain ⟨before, e, after, rfl, -, he⟩ := operationsOf_eq_error_iff.mp hes
      exact absurd (hsound e (List.mem_append_right _ List.mem_cons_self)) he.not_sound

/-- A mapping can be collected exactly when each of its entries and of those nested in it has a text
as its key, and a value tree where it is no mapping. The operations are then those of the entries
that are no mappings, one for each, in document order: the key is the keys on the path without their
marks, joined by dots, and the strategy that of the innermost mark. Otherwise there are no
operations, and the fault is that of the first entry that is not sound. -/
theorem collect_flattens (entries : List (Datum × Datum)) :
    ((∃ ops, collect entries = .ok ops) ↔ ∀ e ∈ nestedEntries [] entries, e.Sound) ∧
    (∀ ops, collect entries = .ok ops ↔ (∀ e ∈ nestedEntries [] entries, e.Sound) ∧
      List.Forall₂ NestedEntry.Gives ((nestedEntries [] entries).filter NestedEntry.isLeaf) ops) ∧
    ∀ fault, collect entries = .error fault ↔ FirstFault (nestedEntries [] entries) fault := by
  rw [collect_eq_operationsOf]
  exact ⟨exists_operationsOf_iff, fun _ => operationsOf_eq_ok_iff,
    fun _ => operationsOf_eq_error_iff⟩

example :
    (collect
        [(.string "+a", .mapping [(.string "b", .bool true), (.string "=c", .null)])]).toOption =
      some [⟨.append, "a.b", .bool true⟩, ⟨.fill, "a.c", .null⟩] := by
  decide +kernel

end Operation

end LayeredConfig
