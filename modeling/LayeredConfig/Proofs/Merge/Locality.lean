import LayeredConfig.Proofs.Merge.Change

/-
  Merging acts on each leaf alone. Whether an operation is accepted does not depend on the
  document (`accepted_eq_filter`), and the value of a leaf after a file is the fold over those
  accepted operations that have its key or clear a record around it (`valueIn_apply`). Both hold for
  documents whose leaves can be read, and every operation keeps them readable.
-/

namespace LayeredConfig

open Value

namespace Field

/-- A null at the key of a record around the field clears it, unless it only fills what is
unset. -/
def clearedBy (f : Field) (op : Operation) : Bool :=
  op.value.isNull && op.strategy != .fill && Merge.isRecordPath [f] op.key

/-- Operations that have a say in the value of the field: those with its key and those that clear
a record around it. -/
def concernedBy (f : Field) (op : Operation) : Bool := op.key == f.path || f.clearedBy op

/-- The value of the field after an accepted operation that concerns it. -/
def after (f : Field) (current : Leaf) (op : Operation) : Leaf :=
  if op.value.isNull then
    if op.strategy = .fill then current else (Leaf.zero? f.kind).getD current
  else
    match Leaf.ofValue? f.kind op.value with
    | some incoming => (op.strategy.combine current incoming).getD current
    | none => current

theorem clearedBy_iff {f : Field} {op : Operation} :
    f.clearedBy op = true ↔ op.value.isNull = true ∧ op.strategy ≠ .fill ∧
      ∃ rest, f.path = op.key ++ "." ++ rest := by
  rw [clearedBy, Bool.and_eq_true, Bool.and_eq_true, bne_iff_ne, Merge.isRecordPath_iff, and_assoc]
  simp

theorem concernedBy_of_value {f : Field} {op : Operation} (h : op.value.isNull = false) :
    f.concernedBy op = (op.key == f.path) := by
  rw [concernedBy, clearedBy, h, Bool.false_and, Bool.false_and, Bool.or_false]

theorem after_of_value {f : Field} {op : Operation} {incoming : Leaf}
    (hnull : op.value.isNull = false) (h : Leaf.ofValue? f.kind op.value = some incoming)
    (current : Leaf) :
    f.after current op = (op.strategy.combine current incoming).getD current := by
  rw [after, hnull, h]
  rfl

end Field

namespace Merge

variable {fields : List Field} {document : Value} {op : Operation} {source : FilePath}

/-! ## Acceptance -/

/-- The operation names a leaf whose kind its value has, or gives null to a field that may be
absent or to a record. -/
def accepts (fields : List Field) (op : Operation) : Bool :=
  match leafAt? fields op.key with
  | some f => if op.value.isNull then f.isOptional else (Leaf.ofValue? f.kind op.value).isSome
  | none => isRecordPath fields op.key && op.value.isNull

/-- The operations of a file that are not rejected when their turn comes. -/
def accepted (document : Value) (ops : List Operation) (fields : List Field)
    (source : FilePath) : List Operation :=
  match ops with
  | [] => []
  | op :: rest =>
    let (next, problem) := step document op fields source
    let others := accepted next rest fields source
    if problem.isNone then op :: others else others

/-- The turn of an operation: why its effect on a document is what it is. -/
inductive Turn (fields : List Field) (document : Value) (op : Operation) : Effect → Prop
  | rejected {problem : Problem} (h : accepts fields op = false) :
    Turn fields document op (.reject problem)
  | filled (h : accepts fields op = true) (hnull : op.value.isNull = true)
    (hfill : op.strategy = .fill) : Turn fields document op .keep
  | cleared (h : accepts fields op = true) (hnull : op.value.isNull = true)
    (hfill : op.strategy ≠ .fill) : Turn fields document op (.assign .null)
  | kept {f : Field} {incoming current : Leaf} (h : accepts fields op = true) (hf : f ∈ fields)
    (hpath : f.path = op.key) (hnull : op.value.isNull = false)
    (hincoming : Leaf.ofValue? f.kind op.value = some incoming)
    (hcurrent : f.valueIn document = some current)
    (hcombine : op.strategy.combine current incoming = none) : Turn fields document op .keep
  | combined {f : Field} {incoming current leaf : Leaf} (h : accepts fields op = true)
    (hf : f ∈ fields) (hpath : f.path = op.key) (hnull : op.value.isNull = false)
    (hincoming : Leaf.ofValue? f.kind op.value = some incoming)
    (hcurrent : f.valueIn document = some current)
    (hcombine : op.strategy.combine current incoming = some leaf) :
    Turn fields document op (.assign leaf.toValue)

theorem turn_of_null (h : accepts fields op = true) (hnull : op.value.isNull = true) :
    Turn fields document op (clearEffect op.strategy) := by
  unfold clearEffect
  split
  · next hfill => exact .filled h hnull hfill
  · next hfill => exact .cleared h hnull hfill

theorem turn_leafEffect (hr : Readable fields document) {f : Field}
    (hleaf : leafAt? fields op.key = some f) :
    Turn fields document op (leafEffect document op f source) := by
  obtain ⟨hf, hpath⟩ := of_leafAt?_eq_some hleaf
  have haccepts : accepts fields op =
      if op.value.isNull then f.isOptional else (Leaf.ofValue? f.kind op.value).isSome := by
    rw [accepts, hleaf]
  unfold leafEffect
  dsimp only
  split
  · next hnull =>
    rw [if_pos hnull] at haccepts
    split
    · next hopt => exact turn_of_null (haccepts.trans hopt) hnull
    · next hopt => exact .rejected (haccepts.trans (Bool.eq_false_iff.mpr hopt))
  · next hnull =>
    rw [if_neg hnull] at haccepts
    obtain ⟨current, hcurrent⟩ := hr f hf
    have hnode : Leaf.ofNode? f.kind (document.get? op.key) = some current := by
      rw [← hpath]
      exact hcurrent
    rw [hnode]
    cases hincoming : Leaf.ofValue? f.kind op.value with
    | none => exact .rejected (by rw [haccepts, hincoming]; rfl)
    | some incoming =>
      have h : accepts fields op = true := by rw [haccepts, hincoming]; rfl
      dsimp only
      cases hcombine : op.strategy.combine current incoming with
      | none => exact .kept h hf hpath (Bool.eq_false_iff.mpr hnull) hincoming hcurrent hcombine
      | some leaf =>
        exact .combined h hf hpath (Bool.eq_false_iff.mpr hnull) hincoming hcurrent hcombine

theorem turn_effect (hr : Readable fields document) (op : Operation) (source : FilePath) :
    Turn fields document op (effect document op fields source) := by
  unfold effect
  cases hleaf : leafAt? fields op.key with
  | some f => exact turn_leafEffect hr hleaf
  | none =>
    have haccepts : accepts fields op = (isRecordPath fields op.key && op.value.isNull) := by
      rw [accepts, hleaf]
    dsimp only
    split
    · next hrecord =>
      split
      · next hnull => exact turn_of_null (by rw [haccepts, hrecord, hnull]; rfl) hnull
      · next hnull =>
        have hvalue := Bool.eq_false_iff.mpr hnull
        exact .rejected (by rw [haccepts, hvalue, Bool.and_false])
    · next hrecord => exact .rejected (by rw [haccepts, Bool.eq_false_iff.mpr hrecord]; rfl)

theorem isNone_step (hr : Readable fields document) (op : Operation) (source : FilePath) :
    (step document op fields source).2.isNone = accepts fields op := by
  have hturn := turn_effect hr op source
  unfold step
  generalize effect document op fields source = e at hturn ⊢
  cases hturn with
  | rejected h => rw [h]; rfl
  | filled h _ _ => rw [h]; rfl
  | cleared h _ _ => rw [h]; rfl
  | kept h => rw [h]; rfl
  | combined h => rw [h]; rfl

theorem readable_step (hs : Separate fields) (hr : Readable fields document) (op : Operation)
    (source : FilePath) : Readable fields (step document op fields source).1 :=
  hr.change hs (change_step document op fields source)

theorem accepted_cons (document : Value) (op : Operation) (rest : List Operation)
    (fields : List Field) (source : FilePath) :
    accepted document (op :: rest) fields source =
      if (step document op fields source).2.isNone then
        op :: accepted (step document op fields source).1 rest fields source
      else accepted (step document op fields source).1 rest fields source := rfl

/-- The document has no say in which operations are accepted. -/
theorem accepted_eq_filter (hs : Separate fields) (hr : Readable fields document)
    (ops : List Operation) (source : FilePath) :
    accepted document ops fields source = ops.filter (accepts fields) := by
  induction ops generalizing document with
  | nil => rfl
  | cons op rest ih =>
    rw [accepted_cons, isNone_step hr, ih (readable_step hs hr op source), List.filter_cons]

/-! ## Locality -/

/-- The key of an accepted operation is the place of a leaf or of a record. -/
theorem leaf_or_record_of_accepts (h : accepts fields op = true) :
    (∃ f ∈ fields, f.path = op.key) ∨ isRecordPath fields op.key = true := by
  unfold accepts at h
  split at h
  · next f hleaf => exact .inl ⟨f, of_leafAt?_eq_some hleaf⟩
  · rw [Bool.and_eq_true] at h
    exact .inr h.1

/-- A field that lies neither at the key of an accepted operation nor below it stands apart from
that key. -/
theorem apart_of_accepts (hs : Separate fields) (h : accepts fields op = true) {f : Field}
    (hf : f ∈ fields) (hne : op.key ≠ f.path) (hbelow : ¬ ∃ rest, f.path = op.key ++ "." ++ rest) :
    Apart (segments op.key) (segments f.path) := by
  rcases leaf_or_record_of_accepts h with ⟨g, hg, hpath⟩ | hrecord
  · rcases hs.apart g hg f hf with rfl | happart
    · exact absurd hpath.symm hne
    · rw [← hpath]
      exact happart
  · rcases below_or_apart_of_isRecordPath hs hrecord hf with hrest | happart
    · exact absurd hrest hbelow
    · exact happart

/-- One operation changes the value of a field as `after` says if it is accepted and concerns the
field, and otherwise not at all. -/
theorem valueIn_step (hs : Separate fields) (hr : Readable fields document) {f : Field}
    (hf : f ∈ fields) {current : Leaf} (hcurrent : f.valueIn document = some current)
    (op : Operation) (source : FilePath) :
    f.valueIn (step document op fields source).1 =
      some (if accepts fields op && f.concernedBy op then f.after current op else current) := by
  have hturn := turn_effect hr op source
  unfold step
  generalize effect document op fields source = e at hturn ⊢
  cases hturn with
  | rejected h => rw [h]; exact hcurrent
  | filled h hnull hfill =>
    have hafter : f.after current op = current := by
      rw [Field.after, if_pos hnull, if_pos hfill]
    rw [hafter, ite_self]
    exact hcurrent
  | cleared h hnull hfill =>
    obtain ⟨zero, hzero⟩ := Leaf.exists_zero (hs.kind_ne f hf)
    have hafter : f.after current op = zero := by
      rw [Field.after, if_pos hnull, if_neg hfill, hzero]
      rfl
    rw [h, hafter, Bool.true_and]
    show Leaf.ofNode? f.kind ((document.assign op.key .null).get? f.path) = _
    by_cases hkey : op.key = f.path
    · have hconcerned : f.concernedBy op = true := by simp [Field.concernedBy, hkey]
      rw [hconcerned, hkey, get?_assign_self]
      exact hzero
    · by_cases hbelow : ∃ rest, f.path = op.key ++ "." ++ rest
      · have hcleared : f.clearedBy op = true := Field.clearedBy_iff.mpr ⟨hnull, hfill, hbelow⟩
        obtain ⟨rest, hrest⟩ := hbelow
        rw [Field.concernedBy, hcleared, Bool.or_true, hrest, get?_assign_null_below]
        exact hzero
      · have hconcerned : f.concernedBy op = false := by
          rw [Field.concernedBy, Bool.or_eq_false_iff, beq_eq_false_iff_ne, Bool.eq_false_iff]
          exact ⟨hkey, fun hcleared => hbelow (Field.clearedBy_iff.mp hcleared).2.2⟩
        rw [hconcerned, get?_assign_of_apart _ _ (apart_of_accepts hs h hf hkey hbelow)]
        exact hcurrent
  | @kept g incoming before h hg hpath hnull hincoming hbefore hcombine =>
    rw [h, Bool.true_and, Field.concernedBy_of_value hnull, ← hpath]
    rcases hs.apart g hg f hf with rfl | happart
    · have heq : before = current := Option.some.inj (hbefore.symm.trans hcurrent)
      rw [Field.after_of_value hnull hincoming, ← heq, hcombine, Option.getD_none, ite_self]
      exact hbefore
    · rw [if_neg (by simpa using happart.ne_path)]
      exact hcurrent
  | @combined g incoming before leaf h hg hpath hnull hincoming hbefore hcombine =>
    rw [h, Bool.true_and, Field.concernedBy_of_value hnull, ← hpath]
    show Leaf.ofNode? f.kind ((document.assign g.path leaf.toValue).get? f.path) = _
    rcases hs.apart g hg f hf with rfl | happart
    · have heq : before = current := Option.some.inj (hbefore.symm.trans hcurrent)
      have hkind : leaf.kind = g.kind := Strategy.kind_of_combine (Field.kind_of_valueIn hbefore)
        (Leaf.kind_of_ofValue? hincoming) hcombine
      rw [beq_self_eq_true, if_pos rfl, Field.after_of_value hnull hincoming, ← heq, hcombine,
        get?_assign_self, ← hkind]
      exact Leaf.ofNode?_toValue leaf
    · rw [if_neg (by simpa using happart.ne_path), get?_assign_of_apart _ _ happart]
      exact hcurrent

/-- The value of a field after the operations of a file is the fold over those that were accepted
and concern the field. -/
theorem valueIn_apply (hs : Separate fields) (hr : Readable fields document) {f : Field}
    (hf : f ∈ fields) {current : Leaf} (hcurrent : f.valueIn document = some current)
    (ops : List Operation) (source : FilePath) :
    f.valueIn (apply document ops fields source).1 = some
      (((accepted document ops fields source).filter f.concernedBy).foldl f.after current) := by
  induction ops generalizing document current with
  | nil => exact hcurrent
  | cons op rest ih =>
    have hnext := readable_step hs hr op source
    have hvalue := valueIn_step hs hr hf hcurrent op source
    rw [apply_cons, ih hnext hvalue, accepted_cons, isNone_step hr]
    cases haccepts : accepts fields op with
    | false => rfl
    | true =>
      rw [if_pos rfl, List.filter_cons, Bool.true_and]
      split <;> rfl

end Merge

end LayeredConfig
