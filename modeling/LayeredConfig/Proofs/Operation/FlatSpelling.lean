import LayeredConfig.Proofs.Operation.Flattening

/-
  Nested mappings spelled on one level. The key of an operation is spelled as the mark of its
  strategy and then its dotted key. A spelled key is read back as it was meant
  (`ofKey_spelledKey`), unless it has no mark and the dotted key begins with one. No mapping gives
  such an operation: the first key of its path would have a mark itself, and a mark is handed down
  (`mark?_eq_none_of_set`). So a mapping and the flat one with its operations as entries can be put
  for each other (`nested_and_flat_agree`).
-/

namespace LayeredConfig

open Yaml (Datum)

namespace Operation

/-! ## Spelled keys -/

/-- The mark of a strategy and then a dotted key. -/
def spelledKey (s : Strategy) (key : String) : String := String.ofList s.mark ++ key

@[simp] theorem spelledKey_set (key : String) : spelledKey .set key = key := by
  simp [spelledKey, Strategy.mark]

/-- A spelled key is read as its strategy and the dotted key. Without a mark of its own it must not
begin with one. -/
theorem ofKey_spelledKey {s : Strategy} {key : String} (h : s = .set → mark? key = none) :
    Strategy.ofKey (spelledKey s key) = (s, key) := by
  cases s with
  | set =>
    have hmark : mark? key = none := h rfl
    rw [spelledKey_set, ofKey_eq, unmarked, hmark]
    rfl
  | _ => simp [spelledKey, Strategy.ofKey, Strategy.mark, Strategy.ofMark?]

/-! ## Keys without a mark -/

/-- A path begins with a mark just when its first key does: a dot is no mark. -/
theorem mark?_append_dot (key rest : String) : mark? (key ++ "." ++ rest) = mark? key := by
  unfold mark?
  rw [String.toList_append, String.toList_append]
  cases key.toList with
  | nil => rfl
  | cons c more => rfl

theorem mark?_dotted_cons {rawKey : String} (h : mark? rawKey = none) (rawKeys : List String) :
    mark? (dotted (rawKey :: rawKeys)) = none := by
  have hplain : plain rawKey = rawKey := by
    rw [plain_eq_unmarked, unmarked, h]
    rfl
  cases rawKeys with
  | nil => rw [dotted_singleton, hplain, h]
  | cons next more =>
    rw [dotted_cons rawKey (List.cons_ne_nil next more), mark?_append_dot, hplain, h]

variable {entries flat : List (Datum × Datum)} {ops : List Operation} {op : Operation}

/-- The dotted key of an operation that only sets does not begin with a mark. -/
theorem mark?_eq_none_of_set (h : collect entries = .ok ops) (hop : op ∈ ops)
    (hset : op.strategy = .set) : mark? op.key = none := by
  obtain ⟨rawKeys, d, hpath, -, -, hkey, hstrategy⟩ := keyPath_of_mem h hop
  rw [Option.or_none, hset] at hstrategy
  have hnone : innermost? rawKeys = none := by
    cases hmark : innermost? rawKeys with
    | none => rfl
    | some s =>
      -- the mark of some key on the way would have chosen to set
      obtain ⟨rawKey, -, hown⟩ := List.exists_of_findSome?_eq_some hmark
      rw [hmark, Option.getD_some] at hstrategy
      rw [ownStrategy?_eq_mark?, ← hstrategy] at hown
      obtain ⟨c, -, hc⟩ := Option.bind_eq_some_iff.mp hown
      exact absurd hc (ofMark?_ne_set c)
  obtain ⟨first, rest, rfl⟩ := List.exists_cons_of_ne_nil hpath.ne_nil
  have hfirst : mark? first = none := by
    rw [← ownStrategy?_eq_mark?]
    exact List.findSome?_eq_none_iff.mp hnone first (by simp)
  rw [hkey]
  exact mark?_dotted_cons hfirst rest

/-! ## Flat mappings -/

/-- The entry spells the operation out: its key is the spelled key, and its value is no mapping and
has the value of the operation. -/
structure Spells (entry : Datum × Datum) (op : Operation) : Prop where
  key_eq : entry.1 = .string (spelledKey op.strategy op.key)
  isLeaf : entry.2.entries? = none
  value_eq : entry.2.toValue = .ok op.value

/-- An entry of a nested mapping as it is spelled on one level. -/
def NestedEntry.spelled (e : NestedEntry) : Datum × Datum :=
  (.string (spelledKey e.strategy e.path), e.value)

/-- The entries of a mapping and of those nested in it that are no mappings, on one level. -/
def flatEntries (entries : List (Datum × Datum)) : List (Datum × Datum) :=
  ((nestedEntries [] entries).filter NestedEntry.isLeaf).map NestedEntry.spelled

/-- A flat mapping that spells operations gives them, when their keys are read back. -/
theorem collect_of_spells (hread : ∀ op ∈ ops, op.strategy = .set → mark? op.key = none)
    (h : List.Forall₂ Spells flat ops) : collect flat = .ok ops := by
  unfold collect
  induction h with
  | nil => rw [ofEntries]
  | @cons entry op flat ops hentry hrest ih =>
    obtain ⟨k, d⟩ := entry
    obtain ⟨hkey, hleaf, hvalue⟩ := hentry
    dsimp only at hkey hleaf hvalue
    rw [List.forall_mem_cons] at hread
    have hfirst : ofEntry none none (spelledKey op.strategy op.key) d = .ok [op] := by
      rw [ofEntry_of_value hleaf hvalue, plain, ofKey_spelledKey hread.1]
      cases op with
      | mk strategy key value => cases strategy <;> rfl
    have htext : k.text? = some (spelledKey op.strategy op.key) := by rw [hkey, Datum.text?]
    rw [ofEntries, htext]
    dsimp only
    rw [hfirst, ih hread.2]
    rfl

/-- Operations that differ in strategy or key are spelled under different keys. -/
theorem pairwise_of_spells (hread : ∀ op ∈ ops, op.strategy = .set → mark? op.key = none)
    (hdistinct : (ops.map fun op => (op.strategy, op.key)).Nodup)
    (h : List.Forall₂ Spells flat ops) : flat.Pairwise fun a b => a.1.same b.1 = false := by
  have hkeys : flat.map Prod.fst =
      ops.map fun op => Datum.string (spelledKey op.strategy op.key) := by
    rw [← List.forall₂_eq_eq_eq, List.forall₂_map_left_iff, List.forall₂_map_right_iff]
    exact h.imp fun _ _ hentry => hentry.key_eq
  have hpairwise : (flat.map Prod.fst).Pairwise fun k l => k.same l = false := by
    rw [hkeys, List.pairwise_map]
    refine (List.pairwise_map.mp hdistinct).imp_of_mem fun {a b} ha hb hne => ?_
    rw [Datum.same, beq_eq_false_iff_ne]
    intro hsame
    have hpair := congrArg Strategy.ofKey hsame
    rw [ofKey_spelledKey (hread a ha), ofKey_spelledKey (hread b hb)] at hpair
    exact hne hpair
  exact List.pairwise_map.mp hpairwise

theorem spells_flatEntries (h : collect entries = .ok ops) :
    List.Forall₂ Spells (flatEntries entries) ops := by
  rw [collect_eq_operationsOf, operationsOf_eq_ok_iff] at h
  have hleaves : ∀ e ∈ (nestedEntries [] entries).filter NestedEntry.isLeaf, e.isLeaf = true :=
    fun e he => (List.mem_filter.mp he).2
  rw [flatEntries, List.forall₂_map_left_iff]
  refine ((List.forall₂_and_left _ _).mpr ⟨hleaves, h.2⟩).imp fun e op ⟨hleaf, hgives⟩ => ?_
  refine ⟨?_, Option.isNone_iff_eq_none.mp hleaf, hgives.value_eq⟩
  rw [NestedEntry.spelled, hgives.key_eq, hgives.strategy_eq]

/-- Take a mapping that can be collected into operations no two of which have the same strategy and
key. Its values stand under the spelled keys of its operations in the flat mapping `flatEntries`;
and every list of entries that spells the operations in their order is a mapping, with no key twice,
and gives the same operations again. -/
theorem nested_and_flat_agree (h : collect entries = .ok ops)
    (hdistinct : (ops.map fun op => (op.strategy, op.key)).Nodup) :
    List.Forall₂ Spells (flatEntries entries) ops ∧
      ∀ flat, List.Forall₂ Spells flat ops →
        flat.Pairwise (fun a b => a.1.same b.1 = false) ∧ collect flat = .ok ops := by
  have hread : ∀ op ∈ ops, op.strategy = .set → mark? op.key = none :=
    fun _ hop hset => mark?_eq_none_of_set h hop hset
  exact ⟨spells_flatEntries h, fun _ hflat =>
    ⟨pairwise_of_spells hread hdistinct hflat, collect_of_spells hread hflat⟩⟩

/-- A mapping under a mark, with a key that has its own, a key with two marks, and a tagged
mapping. -/
def markedEntries : List (Datum × Datum) :=
  [(.string "^a", .mapping [(.string "b", .sequence [.string "x"]), (.string "+c", .bool true)]),
    (.string "++d", .mapping [(.string "", .null)]),
    (.string "e", .tagged "!t" (.mapping [(.string "f", .bool false)]))]

/-- The operations of the marked mapping. -/
def markedOperations : List Operation :=
  [⟨.prepend, "a.b", .array [.string "x"]⟩, ⟨.append, "a.c", .bool true⟩, ⟨.append, "+d.", .null⟩,
    ⟨.set, "e", .object [("!t", .object [("f", .bool false)])]⟩]

/-- A stripped key that begins with a mark is spelled behind another one, and a tagged mapping stays
one value. -/
theorem nested_and_flat_agree_marked :
    collect markedEntries = .ok markedOperations ∧
      (markedOperations.map fun op => (op.strategy, op.key)).Nodup ∧
      collect [(.string "^a.b", .sequence [.string "x"]), (.string "+a.c", .bool true),
          (.string "++d.", .null),
          (.string "e", .tagged "!t" (.mapping [(.string "f", .bool false)]))] =
        .ok markedOperations := by
  have hops : collect markedEntries = .ok markedOperations :=
    toOption_eq_some_iff.mp (by decide +kernel)
  have hdistinct : (markedOperations.map fun op => (op.strategy, op.key)).Nodup := by decide
  obtain ⟨hspells, hagree⟩ := nested_and_flat_agree hops hdistinct
  exact ⟨hops, hdistinct, (hagree _ hspells).2⟩

end Operation

end LayeredConfig
