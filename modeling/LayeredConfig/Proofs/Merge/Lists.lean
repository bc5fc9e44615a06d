import LayeredConfig.Proofs.Merge.Idempotence

/-
  Lists over a whole run. An operation resets a list, joins items to one of its ends, or leaves it
  alone (`valueIn_step_list`). So after any operations a list consists of three parts: what was
  prepended since it was last reset, the list that it was reset to, and what was appended since
  (`list_since_last_reset`). Whether an operation that only fills is a reset depends on the list at
  its turn; all else can be read off the operations.
-/

namespace LayeredConfig

open Value

namespace Field

/-- The list of a field in a document. -/
def listIn (f : Field) (document : Value) : List String :=
  match f.valueIn document with
  | some (.textList items) => items
  | _ => []

/-- The list that an operation has for the field. -/
def listOf? (f : Field) (op : Operation) : Option (List String) :=
  if op.key = f.path then
    match Leaf.ofValue? f.kind op.value with
    | some (.textList items) => some items
    | _ => none
  else none

/-- A null empties the list at its key, if the list may be absent, and the lists in a record. -/
def emptiedBy (f : Field) (op : Operation) : Bool :=
  op.key == f.path && f.isOptional && op.value.isNull && op.strategy != .fill || f.clearedBy op

/-- The list that an operation starts over with, if it is a reset of the current one. -/
def resetBy? (f : Field) (current : List String) (op : Operation) : Option (List String) :=
  if f.emptiedBy op then some []
  else
    match op.strategy with
    | .set | .replace => f.listOf? op
    | .fill => if current.isEmpty then f.listOf? op else none
    | .append | .prepend => none

/-- The items that an operation puts in front of the list. -/
def prependedBy (f : Field) (op : Operation) : List String :=
  if op.strategy = .prepend then (f.listOf? op).getD [] else []

/-- The items that an operation puts behind the list. -/
def appendedBy (f : Field) (op : Operation) : List String :=
  if op.strategy = .append then (f.listOf? op).getD [] else []

/-- The list after an operation. -/
def listAfter (f : Field) (current : List String) (op : Operation) : List String :=
  (f.resetBy? current op).getD (f.prependedBy op ++ current ++ f.appendedBy op)

variable {f : Field} {op : Operation} {current items : List String}

theorem listIn_of_valueIn {document : Value} (h : f.valueIn document = some (.textList items)) :
    f.listIn document = items := by
  rw [listIn, h]

theorem listOf?_of_key_ne (h : op.key ≠ f.path) : f.listOf? op = none := if_neg h

theorem listOf?_of_value (hkey : op.key = f.path)
    (h : Leaf.ofValue? f.kind op.value = some (.textList items)) : f.listOf? op = some items := by
  rw [listOf?, if_pos hkey, h]

theorem listOf?_of_unfit (h : Leaf.ofValue? f.kind op.value = none) : f.listOf? op = none := by
  rw [listOf?, h, ite_self]

/-- A null is no list. -/
theorem listOf?_of_null (hnull : op.value.isNull = true) : f.listOf? op = none := by
  cases hleaf : Leaf.ofValue? f.kind op.value with
  | none => exact listOf?_of_unfit hleaf
  | some leaf =>
    rw [Leaf.isNull_of_ofValue? hleaf] at hnull
    cases hnull

/-- No field lies below its own place. -/
theorem clearedBy_of_key (h : op.key = f.path) : f.clearedBy op = false := by
  refine Bool.eq_false_iff.mpr fun hcleared => ?_
  obtain ⟨-, -, rest, hrest⟩ := clearedBy_iff.mp hcleared
  have hlength := congrArg String.length hrest
  rw [h, String.length_append, String.length_append] at hlength
  have hdot : ".".length = 1 := rfl
  omega

theorem emptiedBy_of_key_ne (h : op.key ≠ f.path) : f.emptiedBy op = f.clearedBy op := by
  rw [emptiedBy, beq_eq_false_iff_ne.mpr h, Bool.false_and, Bool.false_and, Bool.false_and,
    Bool.false_or]

theorem emptiedBy_of_key (h : op.key = f.path) :
    f.emptiedBy op = (f.isOptional && op.value.isNull && op.strategy != .fill) := by
  rw [emptiedBy, clearedBy_of_key h, h, beq_self_eq_true, Bool.true_and, Bool.or_false]

theorem listAfter_of_empties (h : f.emptiedBy op = true) : f.listAfter current op = [] := by
  rw [listAfter, resetBy?, if_pos h]
  rfl

/-- An operation that has no list for the field and does not empty it leaves it alone. -/
theorem listAfter_of_none (hempty : f.emptiedBy op = false) (h : f.listOf? op = none) :
    f.listAfter current op = current := by
  have hreset : f.resetBy? current op = none := by
    rw [resetBy?, hempty, h, ite_self]
    cases op.strategy <;> rfl
  simp [listAfter, hreset, prependedBy, appendedBy, h]

/-- A list is combined with the current one as its strategy says. -/
theorem listAfter_of_some (hempty : f.emptiedBy op = false) (h : f.listOf? op = some items) :
    (op.strategy.combine (.textList current) (.textList items)).getD (.textList current) =
      .textList (f.listAfter current op) := by
  rw [listAfter, resetBy?, hempty, prependedBy, appendedBy, h]
  cases op.strategy with
  | fill => cases hnil : current.isEmpty <;> simp [Strategy.combine, Leaf.isZero, hnil]
  | _ => simp [Strategy.combine]

end Field

namespace Merge

variable {fields : List Field} {document : Value} {op : Operation} {f : Field}
  {source : FilePath} {current : List String}

/-! ## Lists among the fields -/

/-- The field is a list and stands apart from the other fields, as every list of a regular document
type does. The places of the others may overlap among themselves. -/
structure ListLeaf (fields : List Field) (f : Field) : Prop where
  mem : f ∈ fields
  isRecord_eq : f.isRecord = false
  kind_eq : f.kind = .textList
  apart : ∀ g ∈ fields, g = f ∨ Apart (segments g.path) (segments f.path)

/-- Among separate fields, every list is such a field. -/
theorem Separate.listLeaf (hs : Separate fields) (hf : f ∈ fields) (hkind : f.kind = .textList) :
    ListLeaf fields f :=
  ⟨hf, hs.isRecord_eq f hf, hkind, fun g hg => hs.apart g hg f hf⟩

theorem ListLeaf.leafAt?_path (h : ListLeaf fields f) : leafAt? fields f.path = some f := by
  cases hleaf : leafAt? fields f.path with
  | none =>
    rw [leafAt?_eq_find?, List.find?_eq_none] at hleaf
    have hnot := hleaf f (List.mem_reverse.mpr h.mem)
    rw [h.isRecord_eq, beq_self_eq_true] at hnot
    exact absurd rfl hnot
  | some g =>
    obtain ⟨hg, hpath⟩ := of_leafAt?_eq_some hleaf
    rcases h.apart g hg with rfl | happart
    · rfl
    · exact absurd hpath happart.ne_path

/-- A leaf at another key stands apart from the list. -/
theorem ListLeaf.apart_of_leafAt? (h : ListLeaf fields f) {key : String} (hkey : key ≠ f.path)
    {g : Field} (hleaf : leafAt? fields key = some g) : Apart (segments key) (segments f.path) := by
  obtain ⟨hg, hpath⟩ := of_leafAt?_eq_some hleaf
  rcases h.apart g hg with rfl | happart
  · exact absurd hpath.symm hkey
  · rw [← hpath]
    exact happart

/-- A record at another key stands apart from the list, unless the list is in it. -/
theorem ListLeaf.apart_of_isRecordPath (h : ListLeaf fields f) {key : String}
    (hkey : key ≠ f.path) (hrecord : isRecordPath fields key = true)
    (hnot : isRecordPath [f] key = false) : Apart (segments key) (segments f.path) := by
  have hbelow : ¬ ∃ rest, f.path = key ++ "." ++ rest := by
    intro hrest
    have hin : isRecordPath [f] key = true :=
      isRecordPath_iff.mpr ⟨f, List.mem_singleton_self f, hrest⟩
    rw [hnot] at hin
    cases hin
  refine ⟨fun habove => ?_, fun hinside => ?_⟩
  · rcases segments_prefix_iff.mp habove with heq | hrest
    · exact hkey heq
    · exact hbelow hrest
  · -- what lies below the record then lies below the list, so it is the list itself
    obtain ⟨g, hg, rest, hpath⟩ := isRecordPath_iff.mp hrecord
    have habove : segments key <+: segments g.path := segments_prefix_iff.mpr (.inr ⟨rest, hpath⟩)
    rcases h.apart g hg with rfl | happart
    · exact hbelow ⟨rest, hpath⟩
    · exact happart.2 (hinside.trans habove)

/-! ## One operation -/

/-- A null at the key of the list. -/
theorem valueIn_step_of_null (h : ListLeaf fields f)
    (hcurrent : f.valueIn document = some (.textList current)) (hkey : op.key = f.path)
    (hnull : op.value.isNull = true) (source : FilePath) :
    f.valueIn (step document op fields source).1 = some (.textList (f.listAfter current op)) := by
  have heffect : effect document op fields source =
      if f.isOptional then clearEffect op.strategy
      else .reject (.typeMismatch op.key f.kind.name source) := by
    rw [effect, hkey, h.leafAt?_path]
    simp only [leafEffect, hnull, if_true, hkey]
  have hempty := Field.emptiedBy_of_key hkey
  rw [hnull, Bool.and_true] at hempty
  rw [step, heffect]
  cases hopt : f.isOptional with
  | false =>
    rw [hopt, Bool.false_and] at hempty
    rw [Field.listAfter_of_none hempty (Field.listOf?_of_null hnull)]
    exact hcurrent
  | true =>
    rw [hopt, Bool.true_and] at hempty
    rw [if_pos rfl, clearEffect]
    by_cases hfill : op.strategy = .fill
    · rw [hfill] at hempty
      rw [if_pos hfill, Field.listAfter_of_none hempty (Field.listOf?_of_null hnull)]
      exact hcurrent
    · rw [if_neg hfill, Field.listAfter_of_empties (hempty.trans (bne_iff_ne.mpr hfill)),
        Field.valueIn, hkey, get?_assign_self, h.kind_eq]
      rfl

/-- An operation with the key of the list. -/
theorem valueIn_step_of_key (h : ListLeaf fields f)
    (hcurrent : f.valueIn document = some (.textList current)) (hkey : op.key = f.path)
    (source : FilePath) :
    f.valueIn (step document op fields source).1 = some (.textList (f.listAfter current op)) := by
  cases hnull : op.value.isNull with
  | true => exact valueIn_step_of_null h hcurrent hkey hnull source
  | false =>
    have hempty : f.emptiedBy op = false := by
      rw [Field.emptiedBy_of_key hkey, hnull, Bool.and_false, Bool.false_and]
    have hleaf : leafAt? fields op.key = some f := hkey ▸ h.leafAt?_path
    cases hincoming : Leaf.ofValue? f.kind op.value with
    | none =>
      rw [Field.listAfter_of_none hempty (Field.listOf?_of_unfit hincoming), step, effect, hleaf]
      simp only [leafEffect, hnull, hincoming]
      exact hcurrent
    | some incoming =>
      obtain ⟨items, rfl⟩ : ∃ items, incoming = .textList items := by
        have hkind := (Leaf.kind_of_ofValue? hincoming).trans h.kind_eq
        cases incoming with
        | textList items => exact ⟨items, rfl⟩
        | _ => cases hkind
      have hlist : (op.strategy.combine (.textList current) (.textList items)).getD
          (.textList current) = .textList (f.listAfter current op) :=
        Field.listAfter_of_some hempty (Field.listOf?_of_value hkey hincoming)
      rw [step, effect_of_value hleaf hnull hincoming hcurrent, ← hlist]
      cases hcombine : op.strategy.combine (.textList current) (.textList items) with
      | none => exact hcurrent
      | some leaf =>
        have hkind : leaf.kind = f.kind :=
          Strategy.kind_of_combine (Field.kind_of_valueIn hcurrent)
            (Leaf.kind_of_ofValue? hincoming) hcombine
        rw [hkey]
        exact valueIn_assign_self hkind document

/-- A null at the key of a record empties the lists in it. -/
theorem valueIn_step_of_cleared (h : ListLeaf fields f) (hkey : op.key ≠ f.path)
    (hcleared : f.clearedBy op = true) (document : Value) (source : FilePath) :
    f.valueIn (step document op fields source).1 = some (.textList []) := by
  obtain ⟨hnull, hfill, rest, hrest⟩ := Field.clearedBy_iff.mp hcleared
  have hleaf : leafAt? fields op.key = none := by
    cases hleaf : leafAt? fields op.key with
    | none => rfl
    | some g =>
      have habove : segments op.key <+: segments f.path :=
        segments_prefix_iff.mpr (.inr ⟨rest, hrest⟩)
      exact absurd habove (h.apart_of_leafAt? hkey hleaf).1
  have hrecord : isRecordPath fields op.key = true :=
    isRecordPath_iff.mpr ⟨f, h.mem, rest, hrest⟩
  have heffect : effect document op fields source = .assign .null := by
    simp [effect, hleaf, hrecord, hnull, clearEffect, hfill]
  rw [step, heffect, Field.valueIn, hrest, get?_assign_null_below, h.kind_eq]
  rfl

/-- An operation that writes at another key without clearing a record around the list writes
apart from the list. -/
theorem apart_of_effect (h : ListLeaf fields f) (hkey : op.key ≠ f.path)
    (hcleared : f.clearedBy op = false) {v : Value}
    (heffect : effect document op fields source = .assign v) :
    Apart (segments op.key) (segments f.path) := by
  cases hleaf : leafAt? fields op.key with
  | some g => exact h.apart_of_leafAt? hkey hleaf
  | none =>
    rw [effect, hleaf] at heffect
    dsimp only at heffect
    split at heffect
    · next hrecord =>
      refine h.apart_of_isRecordPath hkey hrecord ?_
      split at heffect
      · next hnull =>
        unfold clearEffect at heffect
        split at heffect
        · cases heffect
        · next hfill => simpa [Field.clearedBy, hnull, hfill] using hcleared
      · cases heffect
    · cases heffect

/-- What one operation does to a list. -/
theorem valueIn_step_list (h : ListLeaf fields f)
    (hcurrent : f.valueIn document = some (.textList current)) (op : Operation)
    (source : FilePath) :
    f.valueIn (step document op fields source).1 = some (.textList (f.listAfter current op)) := by
  by_cases hkey : op.key = f.path
  · exact valueIn_step_of_key h hcurrent hkey source
  · have hempty := Field.emptiedBy_of_key_ne hkey
    cases hcleared : f.clearedBy op with
    | true =>
      rw [Field.listAfter_of_empties (hempty.trans hcleared)]
      exact valueIn_step_of_cleared h hkey hcleared document source
    | false =>
      rw [Field.listAfter_of_none (hempty.trans hcleared) (Field.listOf?_of_key_ne hkey), step]
      split
      · exact hcurrent
      · next v heffect =>
        exact (valueIn_assign_of_apart (apart_of_effect h hkey hcleared heffect) _ v).trans hcurrent
      · exact hcurrent

/-! ## All operations -/

/-- The last of the operations resets the list to `base`. With no operation at all, `base` is the
list of the document. -/
inductive ResetTo (f : Field) (fields : List Field) (document : Value) (source : FilePath) :
    List Operation → List String → Prop
  | start : ResetTo f fields document source [] (f.listIn document)
  | reset {earlier : List Operation} {op : Operation} {base : List String}
    (h : f.resetBy? (f.listIn (apply document earlier fields source).1) op = some base) :
    ResetTo f fields document source (earlier ++ [op]) base

/-- None of the operations after `before` resets the list at its turn. -/
def NoReset (f : Field) (fields : List Field) (document : Value) (source : FilePath)
    (before after : List Operation) : Prop :=
  ∀ earlier op later, after = earlier ++ op :: later →
    f.resetBy? (f.listIn (apply document (before ++ earlier) fields source).1) op = none

theorem NoReset.concat {before after : List Operation}
    (h : NoReset f fields document source before after)
    (hop : f.resetBy? (f.listIn (apply document (before ++ after) fields source).1) op = none) :
    NoReset f fields document source before (after ++ [op]) := by
  intro earlier next later hsplit
  rcases List.eq_nil_or_concat later with rfl | ⟨init, last, rfl⟩
  · obtain ⟨rfl, hlast⟩ := List.append_inj' hsplit rfl
    cases hlast
    exact hop
  · have hends : after ++ [op] = (earlier ++ next :: init) ++ [last] := by simpa using hsplit
    exact h earlier next init (List.append_inj' hends rfl).1

/-- After any operations a list consists of what was prepended since its last reset, the latest
first, then the list that it was reset to, then what was appended since, in order. The operations
that count are those with the key of the list, and nulls at the records around it. A reset sets or
replaces the list, empties it with a null, or fills it when it is empty at that moment. -/
theorem list_since_last_reset (h : ListLeaf fields f) {start : List String}
    (hstart : f.valueIn document = some (.textList start)) (ops : List Operation)
    (source : FilePath) :
    ∃ before after base, ops = before ++ after ∧
      ResetTo f fields document source before base ∧
      NoReset f fields document source before after ∧
      f.valueIn (apply document ops fields source).1 = some (.textList
        (after.reverse.flatMap f.prependedBy ++ base ++ after.flatMap f.appendedBy)) := by
  induction ops using List.reverseRecOn with
  | nil =>
    refine ⟨[], [], start, rfl, ?_, ?_, ?_⟩
    · rw [← Field.listIn_of_valueIn hstart]
      exact .start
    · intro earlier op later hsplit
      cases earlier <;> cases hsplit
    · simpa [apply] using hstart
  | append_singleton ops op ih =>
    obtain ⟨before, after, base, rfl, hbase, hafter, hvalue⟩ := ih
    have hstep := valueIn_step_list h hvalue op source
    rw [apply_concat, hstep]
    cases hreset : f.resetBy? (after.reverse.flatMap f.prependedBy ++ base ++
        after.flatMap f.appendedBy) op with
    | some next =>
      refine ⟨before ++ after ++ [op], [], next, (List.append_nil _).symm, ?_, ?_, ?_⟩
      · refine .reset ?_
        rw [Field.listIn_of_valueIn hvalue, hreset]
      · intro earlier op later hsplit
        cases earlier <;> cases hsplit
      · rw [Field.listAfter, hreset]
        simp
    | none =>
      refine ⟨before, after ++ [op], base, List.append_assoc _ _ _, hbase, hafter.concat ?_, ?_⟩
      · rw [Field.listIn_of_valueIn hvalue, hreset]
      · rw [Field.listAfter, hreset]
        simp

/-- A page with labels, whose names may be absent. -/
def pageShape : Shape :=
  .record "Page" [⟨"title", "title", .text⟩,
    ⟨"labels", "labels",
      .optional (.record "Labels" [⟨"names", "names", .optional (.list .text)⟩])⟩]

/-- The names of the labels. -/
def pageNames : Field :=
  ⟨"names", "names", .textList, .basicSettings, "labels.names", true, true, false, none⟩

/-- A page with one label. -/
def pageDocument : Value := .object [("labels", .object [("names", .array [.string "old"])])]

/-- The null at the record and the fill after it are resets. The second fill finds the list set, and
the number is no list. -/
def pageOperations : List Operation :=
  [⟨.append, "labels.names", .array [.string "a"]⟩, ⟨.set, "labels", .null⟩,
    ⟨.fill, "labels.names", .array [.string "b"]⟩,
    ⟨.prepend, "labels.names", .array [.string "c", .string "d"]⟩, ⟨.set, "title", .string "t"⟩,
    ⟨.fill, "labels.names", .array [.string "x"]⟩, ⟨.replace, "labels.names", .int 2⟩,
    ⟨.append, "labels.names", .array [.string "e"]⟩,
    ⟨.prepend, "labels.names", .array [.string "f"]⟩]

theorem list_since_last_reset_page :
    ListLeaf pageShape.metadata pageNames ∧
      pageNames.valueIn pageDocument = some (.textList ["old"]) ∧
      ∃ before after base, pageOperations = before ++ after ∧
        ResetTo pageNames pageShape.metadata pageDocument ⟨"page.yml"⟩ before base ∧
        NoReset pageNames pageShape.metadata pageDocument ⟨"page.yml"⟩ before after ∧
        after.reverse.flatMap pageNames.prependedBy ++ base ++
          after.flatMap pageNames.appendedBy = ["f", "c", "d", "b", "e"] := by
  have hshape : pageShape.Regular := by
    simp [pageShape, Shape.Regular, Shape.FieldsRegular, Shape.isOptional]
  have hmem : pageNames ∈ pageShape.metadata := by decide +kernel
  have hlist := (Shape.separate_metadata hshape).listLeaf hmem rfl
  have hstart : pageNames.valueIn pageDocument = some (.textList ["old"]) := by decide +kernel
  refine ⟨hlist, hstart, ?_⟩
  obtain ⟨before, after, base, hops, hbase, hafter, hvalue⟩ :=
    list_since_last_reset hlist hstart pageOperations ⟨"page.yml"⟩
  refine ⟨before, after, base, hops, hbase, hafter, ?_⟩
  have hrun : pageNames.valueIn
      (apply pageDocument pageOperations pageShape.metadata ⟨"page.yml"⟩).1 =
        some (.textList ["f", "c", "d", "b", "e"]) := by
    decide +kernel
  exact Leaf.textList.inj (Option.some.inj (hvalue.symm.trans hrun))

end Merge

end LayeredConfig
