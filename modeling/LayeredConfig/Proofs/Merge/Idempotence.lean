import LayeredConfig.Proofs.Merge.Rejection
import LayeredConfig.Proofs.Value.Overwriting
import Mathlib.Data.List.Induction

/-
  Applying operations twice. Appending and prepending to lists apart, an operation acts on every
  readable document in the same way (`Action`): it does nothing, it writes one value at its key, or
  it writes that value where the leaf reads as zero. So a first run over a document leaves nothing
  for a second one to do (`apply_idempotent`).

  The proof takes the last operation off. Let `d` be the document before it, which a further run
  over the operations before it keeps. If the last operation writes, the second run starts from a
  document that agrees with `d` outside the place of writing, and so does its end (`agree_apply`);
  the same write then gives the same document. If it fills, the second run may find the leaf set
  where the first found it zero. `Tracks` says what the two runs can differ in, as long as the leaf
  reads as zero in `d`: only in the value that was filled in.
-/

namespace LayeredConfig

open Value

namespace Merge

variable {fields : List Field} {document s t v : Value} {op : Operation} {f : Field}
  {source : FilePath}

/-! ## Runs one after another -/

theorem apply_concat (document : Value) (ops : List Operation) (op : Operation)
    (fields : List Field) (source : FilePath) :
    (apply document (ops ++ [op]) fields source).1 =
      (step (apply document ops fields source).1 op fields source).1 := by
  rw [apply_append, apply_cons]
  rfl

theorem readable_apply (hs : Separate fields) (hr : Readable fields document)
    (ops : List Operation) (source : FilePath) :
    Readable fields (apply document ops fields source).1 :=
  apply_keeps (fun h hchange => h.change hs hchange) hr ops source

/-! ## Places -/

/-- A leaf or a record stands at the key. -/
def IsPlace (fields : List Field) (key : String) : Prop :=
  (∃ f ∈ fields, f.path = key) ∨ isRecordPath fields key = true

/-- A place lies at a leaf, above it or apart from it. -/
theorem IsPlace.prefix_or_apart (hs : Separate fields) {key : String} (h : IsPlace fields key)
    (hf : f ∈ fields) :
    segments key <+: segments f.path ∨ Apart (segments key) (segments f.path) := by
  rcases h with ⟨g, hg, rfl⟩ | hrecord
  · rcases hs.apart g hg f hf with rfl | happart
    · exact .inl List.prefix_rfl
    · exact .inr happart
  · rcases below_or_apart_of_isRecordPath hs hrecord hf with ⟨rest, hrest⟩ | happart
    · exact .inl (segments_prefix_iff.mpr (.inr ⟨rest, hrest⟩))
    · exact .inr happart

/-- No leaf stands above a place. -/
theorem IsPlace.leafAt?_above (hs : Separate fields) {key above : String}
    (h : IsPlace fields key) (habove : segments above <+: segments key)
    (hnot : ¬ segments key <+: segments above) : leafAt? fields above = none := by
  cases hleaf : leafAt? fields above with
  | none => rfl
  | some g =>
    obtain ⟨hg, rfl⟩ := of_leafAt?_eq_some hleaf
    rcases h.prefix_or_apart hs hg with hprefix | happart
    · exact absurd hprefix hnot
    · exact absurd habove happart.2

/-! ## Documents that agree outside a place -/

/-- The document has a say in an effect only through the leaf at the key. -/
theorem effect_congr (h : s.get? op.key = t.get? op.key ∨ leafAt? fields op.key = none) :
    effect s op fields source = effect t op fields source := by
  unfold effect
  cases hleaf : leafAt? fields op.key with
  | none => rfl
  | some f =>
    have hnode : s.get? op.key = t.get? op.key := by
      refine h.resolve_right fun hnone => ?_
      rw [hleaf] at hnone
      cases hnone
    simp only [leafEffect, hnode]

/-- One step changes a document at most at its key. -/
theorem agree_step_self {p : List String} (h : p <+: segments op.key) (s : Value) :
    AgreeOutside p (step s op fields source).1 s := by
  unfold step
  split
  · exact .refl p s
  · exact agreeOutside_setAt h s _
  · exact .refl p s

/-- Documents that agree outside a place still do so after an operation. -/
theorem agree_step (hs : Separate fields) {key : String} (hkey : IsPlace fields key)
    (h : AgreeOutside (segments key) s t) (op : Operation) (source : FilePath) :
    AgreeOutside (segments key) (step s op fields source).1 (step t op fields source).1 := by
  by_cases hbelow : segments key <+: segments op.key
  · exact ((agree_step_self hbelow s).trans h).trans (agree_step_self hbelow t).symm
  · by_cases habove : segments op.key <+: segments key
    · have heffect : effect s op fields source = effect t op fields source :=
        effect_congr (.inr (hkey.leafAt?_above hs habove hbelow))
      unfold step
      rw [heffect]
      split
      · exact h
      · next v _ =>
        rw [assign, assign, h.setAt_of_isPrefix habove]
        exact .refl _ _
      · exact h
    · have hapart : Apart (segments key) (segments op.key) := ⟨hbelow, habove⟩
      have heffect : effect s op fields source = effect t op fields source :=
        effect_congr (.inl (h.getAt? hapart))
      unfold step
      rw [heffect]
      split
      · exact h
      · next v _ => exact h.setAt hapart v
      · exact h

theorem agree_apply (hs : Separate fields) {key : String} (hkey : IsPlace fields key)
    (h : AgreeOutside (segments key) s t) (ops : List Operation) (source : FilePath) :
    AgreeOutside (segments key) (apply s ops fields source).1 (apply t ops fields source).1 := by
  induction ops generalizing s t with
  | nil => exact h
  | cons op rest ih =>
    rw [apply_cons, apply_cons]
    exact ih (agree_step hs hkey h op source)

/-! ## Operations that join no lists -/

/-- The operation appends or prepends to a list. -/
def Joins (fields : List Field) (op : Operation) : Prop :=
  (op.strategy = .append ∨ op.strategy = .prepend) ∧ op.value.isNull = false ∧
    ∃ f ∈ fields, f.path = op.key ∧ f.kind = .textList

/-- What an operation does to every readable document. -/
inductive Action (fields : List Field) (source : FilePath) (op : Operation) : Prop
  | idle (h : ∀ s, Readable fields s → (step s op fields source).1 = s)
  | write (v : Value) (hkey : IsPlace fields op.key)
    (h : ∀ s, Readable fields s → (step s op fields source).1 = s.assign op.key v)
  | fill {f : Field} {incoming : Leaf} (hf : f ∈ fields) (hpath : f.path = op.key)
    (hkind : incoming.kind = f.kind)
    (h : ∀ s current, Readable fields s → f.valueIn s = some current →
      (step s op fields source).1 =
        if current.isZero then s.assign op.key incoming.toValue else s)

/-- Where it joins no lists, an operation that does not fill sets the value. -/
theorem combine_of_not_joins (hop : ¬ Joins fields op) (hf : f ∈ fields) (hpath : f.path = op.key)
    (hnull : op.value.isNull = false) (hfill : op.strategy ≠ .fill) {incoming : Leaf}
    (hincoming : Leaf.ofValue? f.kind op.value = some incoming) (current : Leaf) :
    op.strategy.combine current incoming = some incoming := by
  have hkind := Leaf.kind_of_ofValue? hincoming
  have hlist : (op.strategy = .append ∨ op.strategy = .prepend) → ∀ items,
      incoming ≠ .textList items := by
    rintro hstrategy items rfl
    exact hop ⟨hstrategy, hnull, f, hf, hpath, hkind.symm⟩
  unfold Strategy.combine
  split
  · next hstrategy => exact absurd rfl (hlist (.inl hstrategy) _)
  · next hstrategy => exact absurd rfl (hlist (.inr hstrategy) _)
  · next hstrategy => exact absurd hstrategy hfill
  · rfl

theorem step_of_not_accepts (hr : Readable fields s) (h : accepts fields op = false) :
    (step s op fields source).1 = s := by
  have hnone := isNone_step hr op source
  rw [h] at hnone
  cases hproblem : (step s op fields source).2 with
  | none =>
    rw [hproblem] at hnone
    cases hnone
  | some problem => exact step_of_rejected hproblem

/-- An accepted null clears its key, whatever the document holds. -/
theorem effect_of_null (haccepts : accepts fields op = true) (hnull : op.value.isNull = true)
    (s : Value) (source : FilePath) : effect s op fields source = clearEffect op.strategy := by
  unfold accepts at haccepts
  unfold effect
  cases hleaf : leafAt? fields op.key with
  | some f =>
    rw [hleaf, hnull] at haccepts
    simp only [leafEffect, hnull, if_true]
    exact if_pos haccepts
  | none =>
    rw [hleaf, hnull, Bool.and_true] at haccepts
    simp only [haccepts, hnull, if_true]

/-- An accepted value is combined with the one that the leaf reads as. -/
theorem effect_of_value (hleaf : leafAt? fields op.key = some f) (hnull : op.value.isNull = false)
    {incoming current : Leaf} (hincoming : Leaf.ofValue? f.kind op.value = some incoming)
    (hcurrent : f.valueIn s = some current) (source : FilePath) :
    effect s op fields source =
      match op.strategy.combine current incoming with
      | some leaf => .assign leaf.toValue
      | none => .keep := by
  rw [Field.valueIn, (of_leafAt?_eq_some hleaf).2] at hcurrent
  simp only [effect, hleaf, leafEffect, hnull, hincoming, hcurrent]
  rfl

theorem action_of_null (haccepts : accepts fields op = true) (hnull : op.value.isNull = true)
    (source : FilePath) : Action fields source op := by
  by_cases hfill : op.strategy = .fill
  · refine .idle fun s _ => ?_
    rw [step, effect_of_null haccepts hnull, clearEffect, if_pos hfill]
  · refine .write .null (leaf_or_record_of_accepts haccepts) fun s _ => ?_
    rw [step, effect_of_null haccepts hnull, clearEffect, if_neg hfill]

theorem action_of_value (hop : ¬ Joins fields op) (haccepts : accepts fields op = true)
    (hnull : op.value.isNull = false) (source : FilePath) : Action fields source op := by
  cases hleaf : leafAt? fields op.key with
  | none =>
    rw [accepts, hleaf, hnull, Bool.and_false] at haccepts
    cases haccepts
  | some f =>
    obtain ⟨hf, hpath⟩ := of_leafAt?_eq_some hleaf
    rw [accepts, hleaf, hnull] at haccepts
    obtain ⟨incoming, hincoming⟩ := Option.isSome_iff_exists.mp haccepts
    by_cases hfill : op.strategy = .fill
    · refine .fill hf hpath (Leaf.kind_of_ofValue? hincoming) fun s current _ hcurrent => ?_
      rw [step, effect_of_value hleaf hnull hincoming hcurrent, hfill, Strategy.combine]
      cases current.isZero <;> rfl
    · refine .write incoming.toValue (.inl ⟨f, hf, hpath⟩) fun s hr => ?_
      obtain ⟨current, hcurrent⟩ := hr f hf
      rw [step, effect_of_value hleaf hnull hincoming hcurrent,
        combine_of_not_joins hop hf hpath hnull hfill hincoming]

/-- An operation that joins no lists acts on all readable documents alike. -/
theorem action (hop : ¬ Joins fields op) (source : FilePath) : Action fields source op := by
  cases haccepts : accepts fields op with
  | false => exact .idle fun s hr => step_of_not_accepts hr haccepts
  | true =>
    cases hnull : op.value.isNull with
    | true => exact action_of_null haccepts hnull source
    | false => exact action_of_value hop haccepts hnull source

/-! ## Two runs that differ in a leaf -/

theorem valueIn_assign_self {leaf : Leaf} (hkind : leaf.kind = f.kind)
    (s : Value) : f.valueIn (s.assign f.path leaf.toValue) = some leaf := by
  rw [Field.valueIn, get?_assign_self, ← hkind, Leaf.ofNode?_toValue]

/-- What stands apart from the place of writing reads the same. -/
theorem valueIn_assign_of_apart {key : String} (h : Apart (segments key) (segments f.path))
    (s v : Value) : f.valueIn (s.assign key v) = f.valueIn s := by
  rw [Field.valueIn, Field.valueIn, get?_assign_of_apart _ _ h]

/-- A document `s` beside the document `t`, when `s` was `t` with a value written at a leaf and both
have gone through the same operations: they have become one, still differ in that value, or the leaf
reads as set in `t` and they agree outside it. -/
inductive Tracks (f : Field) (filled : Leaf) (s t : Value) : Prop
  | same (h : s = t)
  | ahead (h : s = t.assign f.path filled.toValue)
  | set {leaf : Leaf} (hleaf : f.valueIn t = some leaf) (hset : leaf.isZero = false)
    (h : AgreeOutside (segments f.path) s t)

theorem Tracks.agree {filled : Leaf} (h : Tracks f filled s t) :
    AgreeOutside (segments f.path) s t := by
  cases h with
  | same h => exact h ▸ .refl _ _
  | ahead h => exact h ▸ agreeOutside_setAt List.prefix_rfl t _
  | set _ _ h => exact h

/-- A write apart from the leaf changes nothing in what the two differ in. -/
theorem Tracks.assign_of_apart {filled : Leaf} (h : Tracks f filled s t) {key : String}
    (hkey : Apart (segments key) (segments f.path)) (v : Value) :
    Tracks f filled (s.assign key v) (t.assign key v) := by
  cases h with
  | same h => exact .same (h ▸ rfl)
  | ahead h => exact .ahead (h ▸ setAt_comm hkey.symm t filled.toValue v)
  | @set leaf hleaf hset h =>
    exact .set ((valueIn_assign_of_apart hkey t v).trans hleaf) hset (h.setAt hkey.symm v)

/-- Filling the leaf itself. What is filled in stays when it is set, and where it is zero both are
filled alike. -/
theorem Tracks.fill {filled incoming current current' : Leaf} (h : Tracks f filled s t)
    (hkind : filled.kind = f.kind) (hs : f.valueIn s = some current)
    (ht : f.valueIn t = some current') :
    Tracks f filled (if current.isZero then s.assign f.path incoming.toValue else s)
      (if current'.isZero then t.assign f.path incoming.toValue else t) := by
  have hwrite : AgreeOutside (segments f.path) (s.assign f.path incoming.toValue) t :=
    (agreeOutside_setAt List.prefix_rfl s _).trans h.agree
  cases hset : current'.isZero with
  | false =>
    rw [if_neg Bool.false_ne_true]
    split
    · exact .set ht hset hwrite
    · exact .set ht hset h.agree
  | true =>
    rw [if_pos rfl]
    cases h with
    | same h =>
      subst h
      cases hs.symm.trans ht
      rw [if_pos hset]
      exact .same rfl
    | ahead h =>
      subst h
      cases hs.symm.trans (valueIn_assign_self hkind t)
      split
      · exact .same (setAt_setAt_of_isPrefix List.prefix_rfl t _ _)
      · exact .ahead (setAt_setAt_of_isPrefix List.prefix_rfl t _ _).symm
    | @set leaf hleaf hnot _ =>
      cases ht.symm.trans hleaf
      cases hset.symm.trans hnot

theorem Tracks.step {filled : Leaf} (h : Tracks f filled s t) (hs : Separate fields)
    (hf : f ∈ fields) (hkind : filled.kind = f.kind) (hrs : Readable fields s)
    (hrt : Readable fields t) (hop : ¬ Joins fields op) (source : FilePath) :
    Tracks f filled (step s op fields source).1 (step t op fields source).1 := by
  cases action hop source with
  | idle hidle =>
    rw [hidle s hrs, hidle t hrt]
    exact h
  | write v hkey hwrite =>
    rw [hwrite s hrs, hwrite t hrt]
    rcases hkey.prefix_or_apart hs hf with hprefix | hapart
    · exact .same (h.agree.setAt_of_isPrefix hprefix v)
    · exact h.assign_of_apart hapart v
  | @fill g incoming hg hpath _ hfill =>
    obtain ⟨current, hcurrent⟩ := hrs g hg
    obtain ⟨current', hcurrent'⟩ := hrt g hg
    rw [hfill s current hrs hcurrent, hfill t current' hrt hcurrent', ← hpath]
    rcases hs.apart g hg f hf with rfl | hapart
    · exact h.fill hkind hcurrent hcurrent'
    · have hsame : g.valueIn s = g.valueIn t := by
        rw [Field.valueIn, Field.valueIn, get?, get?, h.agree.getAt? hapart.symm]
      cases hcurrent.symm.trans (hsame.trans hcurrent')
      split
      · exact h.assign_of_apart hapart _
      · exact h

theorem Tracks.apply {filled : Leaf} (h : Tracks f filled s t) (hs : Separate fields)
    (hf : f ∈ fields) (hkind : filled.kind = f.kind) (hrs : Readable fields s)
    (hrt : Readable fields t) {ops : List Operation} (hops : ∀ op ∈ ops, ¬ Joins fields op)
    (source : FilePath) :
    Tracks f filled (apply s ops fields source).1 (apply t ops fields source).1 := by
  induction ops generalizing s t with
  | nil => exact h
  | cons op rest ih =>
    obtain ⟨hop, hrest⟩ := List.forall_mem_cons.mp hops
    rw [apply_cons, apply_cons]
    exact ih (h.step hs hf hkind hrs hrt hop source) (readable_step hs hrs op source)
      (readable_step hs hrt op source) hrest

/-! ## Applying twice -/

/-- A leaf that was filled is filled once: when the operations before keep the document that was
filled, they and the fill keep the outcome. -/
theorem fill_after_fill (hs : Separate fields) (hr : Readable fields document)
    {ops : List Operation} (hops : ∀ o ∈ ops, ¬ Joins fields o)
    (hkept : (apply document ops fields source).1 = document) (hf : f ∈ fields)
    (hpath : f.path = op.key) {incoming : Leaf} (hkind : incoming.kind = f.kind)
    (hfill : ∀ s current, Readable fields s → f.valueIn s = some current →
      (step s op fields source).1 =
        if current.isZero then s.assign op.key incoming.toValue else s) :
    (step (apply (step document op fields source).1 ops fields source).1 op fields source).1 =
      (step document op fields source).1 := by
  obtain ⟨current, hcurrent⟩ := hr f hf
  have hfirst := hfill document current hr hcurrent
  have hrnext := readable_step hs hr op source
  cases hzero : current.isZero with
  | false =>
    rw [hzero, if_neg Bool.false_ne_true] at hfirst
    rw [hfirst, hkept, hfirst]
  | true =>
    rw [hzero, if_pos rfl, ← hpath] at hfirst
    have htracks := Tracks.apply (.ahead hfirst) hs hf hkind hrnext hr hops source
    have hrs := readable_apply hs hrnext ops source
    rw [hkept] at htracks
    generalize (apply (step document op fields source).1 ops fields source).1 = s at htracks hrs ⊢
    cases htracks with
    | same h => rw [h]
    | ahead h =>
      obtain ⟨left, hleft⟩ := hrs f hf
      rw [hfill s left hrs hleft, hfirst, h, ← hpath]
      split
      · exact setAt_setAt_of_isPrefix List.prefix_rfl document _ _
      · rfl
    | set hleaf hset _ =>
      cases hcurrent.symm.trans hleaf
      cases hzero.symm.trans hset

/-- An operation after others that keep its document: together they keep what it makes. -/
theorem step_after_step (hs : Separate fields) (hr : Readable fields document)
    {ops : List Operation} (hops : ∀ o ∈ ops, ¬ Joins fields o)
    (hkept : (apply document ops fields source).1 = document) (hop : ¬ Joins fields op) :
    (step (apply (step document op fields source).1 ops fields source).1 op fields source).1 =
      (step document op fields source).1 := by
  cases action hop source with
  | idle hidle => rw [hidle document hr, hkept, hidle document hr]
  | write v hkey hwrite =>
    have hrs := readable_apply hs (readable_step hs hr op source) ops source
    rw [hwrite document hr] at hrs ⊢
    have hagree := agree_apply hs hkey (agreeOutside_setAt List.prefix_rfl document v) ops source
    rw [hkept] at hagree
    rw [hwrite _ hrs]
    exact hagree v
  | fill hf hpath hkind hfill => exact fill_after_fill hs hr hops hkept hf hpath hkind hfill

/-- Operations keep the document that they make. -/
theorem apply_apply (hs : Separate fields) (hr : Readable fields document)
    {ops : List Operation} (hops : ∀ op ∈ ops, ¬ Joins fields op) (source : FilePath) :
    (apply (apply document ops fields source).1 ops fields source).1 =
      (apply document ops fields source).1 := by
  induction ops using List.reverseRecOn with
  | nil => rfl
  | append_singleton ops op ih =>
    have hbefore : ∀ o ∈ ops, ¬ Joins fields o :=
      fun o ho => hops o (List.mem_append_left _ ho)
    have hop : ¬ Joins fields op := hops op (List.mem_append_right _ List.mem_cons_self)
    rw [apply_concat, apply_concat]
    exact step_after_step hs (readable_apply hs hr ops source) hbefore (ih hbefore) hop

/-- Operations that join no lists are idempotent. Over a regular document type, a document whose
leaves are missing, null or of their kind, and operations of which none appends or prepends a value
to a list: applied a second time, they leave the same tree, not only the same leaves, and report the
same problems. -/
theorem apply_idempotent {shape : Shape} (hshape : shape.Regular) {document : Value}
    (hdoc : ∀ f ∈ shape.metadata, ∀ v, document.get? f.path = some v →
      v = .null ∨ ∃ leaf, Leaf.ofValue? f.kind v = some leaf)
    {ops : List Operation} (hops : ∀ op ∈ ops, ¬ Joins shape.metadata op) (source : FilePath) :
    apply (apply document ops shape.metadata source).1 ops shape.metadata source =
      apply document ops shape.metadata source := by
  have hs := Shape.separate_metadata hshape
  have hr := readable_of_kinds hs hdoc
  refine Prod.ext (apply_apply hs hr hops source) ?_
  rw [apply_problems hs (readable_apply hs hr ops source), apply_problems hs hr]

/-- A memo with a title, an optional note, tags, and optional checks. -/
def memoShape : Shape :=
  .record "Memo" [⟨"title", "title", .text⟩, ⟨"note", "note", .optional .text⟩,
    ⟨"tags", "tags", .list .text⟩,
    ⟨"checks", "checks", .optional (.record "Checks"
      [⟨"enabled", "enabled", .flag⟩, ⟨"level", "level", .number⟩])⟩]

/-- A memo without a note. -/
def memoDocument : Value :=
  .object [("checks", .object [("enabled", .bool true), ("level", .int 3)]), ("title", .string "a")]

/-- Fills before the leaf or the record around it is cleared, and two operations that are rejected.
The second run finds the note and the level to be unset, which the first did not. -/
def memoOperations : List Operation :=
  [⟨.fill, "note", .string "b"⟩, ⟨.append, "title", .string "c"⟩, ⟨.prepend, "note", .null⟩,
    ⟨.fill, "checks.level", .int 7⟩, ⟨.set, "checks", .null⟩,
    ⟨.set, "checks.enabled", .bool false⟩, ⟨.append, "tags", .null⟩, ⟨.set, "size", .int 2⟩]

theorem apply_idempotent_memo :
    memoShape.Regular ∧ (∀ op ∈ memoOperations, ¬ Joins memoShape.metadata op) ∧
      apply (apply memoDocument memoOperations memoShape.metadata ⟨"memo.yml"⟩).1 memoOperations
          memoShape.metadata ⟨"memo.yml"⟩ =
        (.object [("checks", .object [("enabled", .bool false)]), ("note", .null),
            ("title", .string "c")],
          [.typeMismatch "tags" "string_list" ⟨"memo.yml"⟩,
            .unknownField "size" ⟨"memo.yml"⟩]) := by
  have hshape : memoShape.Regular := by
    simp [memoShape, Shape.Regular, Shape.FieldsRegular, Shape.isOptional]
  have hnodes : ∀ f ∈ memoShape.metadata, (memoDocument.get? f.path).all
      (fun v => decide (v = .null) || (Leaf.ofValue? f.kind v).isSome) = true := by
    decide +kernel
  have hdoc : ∀ f ∈ memoShape.metadata, ∀ v, memoDocument.get? f.path = some v →
      v = .null ∨ ∃ leaf, Leaf.ofValue? f.kind v = some leaf := by
    intro f hf v hv
    have hnode := hnodes f hf
    rw [hv] at hnode
    simpa [Option.isSome_iff_exists] using hnode
  have hops : ∀ op ∈ memoOperations, ¬ Joins memoShape.metadata op := by
    unfold Joins
    decide +kernel
  refine ⟨hshape, hops, ?_⟩
  rw [apply_idempotent hshape hdoc hops]
  decide +kernel

end Merge

end LayeredConfig
