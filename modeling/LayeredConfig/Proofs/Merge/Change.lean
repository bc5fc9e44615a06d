import LayeredConfig.Merge
import LayeredConfig.Proofs.Leaf.Codec
import LayeredConfig.Proofs.Value.Path

/-
  What merging can do to a document. Every operation, every copied leaf and every variable
  changes the document in one of three ways (`Change`): not at all, by a value that fits a leaf
  at the place of the leaf, or by a null at the place of a record. What an operation writes
  (`assigned_of_effect`) is such a change. So what changes keep, a whole merge keeps (`apply_keeps`,
  `overDefaults_keeps`). Two such properties are that every leaf that is present fits its field
  (`Conforms.change`), and the weaker one that every leaf can be read (`Readable.change`).
-/

namespace LayeredConfig

open Value

namespace Field

/-- A value that may stand at the place of a field. -/
def Fits (f : Field) (v : Value) : Prop :=
  (f.isOptional = true ∧ v = .null) ∨ ∃ leaf : Leaf, leaf.kind = f.kind ∧ v = leaf.toValue

/-- The value of a field in a document. A missing node and null count as zero. -/
def valueIn (f : Field) (document : Value) : Option Leaf :=
  Leaf.ofNode? f.kind (document.get? f.path)

theorem kind_of_valueIn {f : Field} {document : Value} {leaf : Leaf}
    (h : f.valueIn document = some leaf) : leaf.kind = f.kind :=
  Leaf.kind_of_ofNode? h

end Field

namespace Merge

/-! ## Fields that lie apart -/

/-- Fields that are leaves, none of them at or below the place of another. -/
structure Separate (fields : List Field) : Prop where
  isRecord_eq : ∀ f ∈ fields, f.isRecord = false
  kind_ne : ∀ f ∈ fields, f.kind ≠ .record
  apart : ∀ f ∈ fields, ∀ g ∈ fields, f = g ∨ Apart (segments f.path) (segments g.path)

variable {fields : List Field} {document document' : Value} {op : Operation} {source : FilePath}

/-- Of two separate fields, one cannot lie at or below the other. -/
theorem Separate.eq_of_prefix (hs : Separate fields) {f g : Field} (hf : f ∈ fields)
    (hg : g ∈ fields) (h : segments f.path <+: segments g.path) : f = g := by
  rcases hs.apart f hf g hg with heq | happart
  · exact heq
  · exact absurd h happart.1

theorem leafAt?_eq_find? (fields : List Field) (path : String) :
    leafAt? fields path = fields.reverse.find? fun f => !f.isRecord && f.path == path := by
  rw [leafAt?, List.findRev?_eq_findRev?TR]
  rfl

theorem of_leafAt?_eq_some {path : String} {f : Field} (h : leafAt? fields path = some f) :
    f ∈ fields ∧ f.path = path := by
  rw [leafAt?_eq_find?] at h
  have hmem := List.mem_reverse.mp (List.mem_of_find?_eq_some h)
  have hpath := List.find?_some h
  rw [Bool.and_eq_true, beq_iff_eq] at hpath
  exact ⟨hmem, hpath.2⟩

theorem isRecordPath_iff {path : String} :
    isRecordPath fields path = true ↔ ∃ f ∈ fields, ∃ rest, f.path = path ++ "." ++ rest := by
  rw [isRecordPath, List.any_eq_true]
  constructor
  · rintro ⟨f, hf, h⟩
    refine ⟨f, hf, ?_⟩
    split at h
    · next rest heq =>
      refine ⟨String.ofList rest, ?_⟩
      rw [Text.dropStart?_eq_some] at heq
      apply String.toList_injective
      simp [heq]
    · cases h
  · rintro ⟨f, hf, rest, hpath⟩
    refine ⟨f, hf, ?_⟩
    have hdrop : Text.dropStart? path.toList f.path.toList = some ('.' :: rest.toList) := by
      rw [Text.dropStart?_eq_some, hpath]
      simp
    rw [hdrop]
    rfl

/-! ## Changes -/

/-- What merging can make of a document. -/
inductive Change (fields : List Field) (document : Value) : Value → Prop
  | none : Change fields document document
  | leaf {f : Field} {v : Value} (hf : f ∈ fields) (hv : f.Fits v) :
    Change fields document (document.assign f.path v)
  | record {path : String} (h : isRecordPath fields path = true) :
    Change fields document (document.assign path .null)

/-- Every leaf that is present fits its field. -/
def Conforms (fields : List Field) (document : Value) : Prop :=
  ∀ f ∈ fields, ∀ v, document.get? f.path = some v → f.Fits v

/-- Every leaf has a value. -/
def Readable (fields : List Field) (document : Value) : Prop :=
  ∀ f ∈ fields, ∃ leaf, f.valueIn document = some leaf

/-- A value that fits can be read. -/
theorem exists_ofNode?_of_fits {f : Field} (hkind : f.kind ≠ .record) {v : Value}
    (hv : f.Fits v) : ∃ leaf, Leaf.ofNode? f.kind (some v) = some leaf := by
  rcases hv with ⟨-, rfl⟩ | ⟨leaf, hleaf, rfl⟩
  · exact Leaf.exists_zero hkind
  · exact ⟨leaf, by rw [← hleaf, Leaf.ofNode?_toValue]⟩

theorem Conforms.readable (hc : Conforms fields document) (hs : Separate fields) :
    Readable fields document := by
  intro f hf
  unfold Field.valueIn
  cases hnode : document.get? f.path with
  | none => exact Leaf.exists_zero (hs.kind_ne f hf)
  | some v => exact exists_ofNode?_of_fits (hs.kind_ne f hf) (hc f hf v hnode)

/-- A record lies above a field or apart from it. -/
theorem below_or_apart_of_isRecordPath (hs : Separate fields) {path : String}
    (h : isRecordPath fields path = true) {f : Field} (hf : f ∈ fields) :
    (∃ rest, f.path = path ++ "." ++ rest) ∨ Apart (segments path) (segments f.path) := by
  obtain ⟨g, hg, rest, hpath⟩ := isRecordPath_iff.mp h
  have habove : segments path <+: segments g.path := segments_prefix_iff.mpr (.inr ⟨rest, hpath⟩)
  by_cases hbelow : segments path <+: segments f.path
  · rcases segments_prefix_iff.mp hbelow with rfl | hrest
    · -- a leaf at the place of the record would lie above the leaf `g`
      have heq := hs.eq_of_prefix hf hg habove
      subst heq
      exact .inl ⟨rest, hpath⟩
    · exact .inl hrest
  · refine .inr ⟨hbelow, fun hle => hbelow ?_⟩
    have heq := hs.eq_of_prefix hf hg (hle.trans habove)
    subst heq
    exact habove

/-- A change leaves the node of a field as it is, takes it away, or makes it null or a value that
fits. -/
theorem get?_change (hs : Separate fields) (h : Change fields document document') {f : Field}
    (hf : f ∈ fields) :
    document'.get? f.path = document.get? f.path ∨ document'.get? f.path = none ∨
      ∃ v, document'.get? f.path = some v ∧ f.Fits v := by
  cases h with
  | none => exact .inl rfl
  | @leaf g v hg hv =>
    rcases hs.apart g hg f hf with rfl | happart
    · exact .inr (.inr ⟨v, get?_assign_self _ _ _, hv⟩)
    · exact .inl (get?_assign_of_apart _ _ happart)
  | @record path hpath =>
    rcases below_or_apart_of_isRecordPath hs hpath hf with ⟨rest, hrest⟩ | happart
    · rw [hrest]
      exact .inr (.inl (get?_assign_null_below _ _ _))
    · exact .inl (get?_assign_of_apart _ _ happart)

/-- Changes keep the leaves that are present fitting. -/
theorem Conforms.change (hc : Conforms fields document) (hs : Separate fields)
    (h : Change fields document document') : Conforms fields document' := by
  intro f hf v hv
  rcases get?_change hs h hf with hsame | hnone | ⟨w, hw, hfits⟩
  · rw [hsame] at hv
    exact hc f hf v hv
  · rw [hnone] at hv
    cases hv
  · rw [hw] at hv
    cases hv
    exact hfits

/-- Changes keep every leaf readable. -/
theorem Readable.change (hr : Readable fields document) (hs : Separate fields)
    (h : Change fields document document') : Readable fields document' := by
  intro f hf
  unfold Field.valueIn
  rcases get?_change hs h hf with hsame | hnone | ⟨v, hv, hfits⟩
  · rw [hsame]
    exact hr f hf
  · rw [hnone]
    exact Leaf.exists_zero (hs.kind_ne f hf)
  · rw [hv]
    exact exists_ofNode?_of_fits (hs.kind_ne f hf) hfits

/-! ## Operations change documents -/

/-- What an operation writes at its key: a leaf of the kind of the field there, or null, if it is
null that does not only fill and the key is that of an optional leaf or of a record. -/
inductive Assigned (fields : List Field) (op : Operation) : Value → Prop
  | leaf {f : Field} {leaf : Leaf} (hf : f ∈ fields) (hpath : f.path = op.key)
    (hkind : leaf.kind = f.kind) : Assigned fields op leaf.toValue
  | null (hnull : op.value.isNull = true) (hfill : op.strategy ≠ .fill)
    (hkey : (∃ f ∈ fields, f.path = op.key ∧ f.isOptional = true) ∨
      isRecordPath fields op.key = true) : Assigned fields op .null

theorem assigned_of_clearEffect {v : Value} (hnull : op.value.isNull = true)
    (hkey : (∃ f ∈ fields, f.path = op.key ∧ f.isOptional = true) ∨
      isRecordPath fields op.key = true)
    (h : clearEffect op.strategy = .assign v) : Assigned fields op v := by
  unfold clearEffect at h
  split at h
  · cases h
  · next hfill =>
    cases h
    exact .null hnull hfill hkey

theorem assigned_of_leafEffect {f : Field} (hf : f ∈ fields) (hpath : f.path = op.key) {v : Value}
    (h : leafEffect document op f source = .assign v) : Assigned fields op v := by
  unfold leafEffect at h
  split at h
  · next hnull =>
    split at h
    · next hopt => exact assigned_of_clearEffect hnull (.inl ⟨f, hf, hpath, hopt⟩) h
    · cases h
  · split at h
    · next incoming current hincoming hcurrent =>
      split at h <;> cases h
      next leaf hleaf =>
        exact .leaf hf hpath (Strategy.kind_of_combine (Leaf.kind_of_ofNode? hcurrent)
          (Leaf.kind_of_ofValue? hincoming) hleaf)
    · cases h

theorem assigned_of_effect {v : Value} (h : effect document op fields source = .assign v) :
    Assigned fields op v := by
  unfold effect at h
  split at h
  · next f hleaf =>
    obtain ⟨hf, hpath⟩ := of_leafAt?_eq_some hleaf
    exact assigned_of_leafEffect hf hpath h
  · split at h
    · next hrecord =>
      split at h
      · next hnull => exact assigned_of_clearEffect hnull (.inr hrecord) h
      · cases h
    · cases h

theorem Assigned.change {v : Value} (h : Assigned fields op v) :
    Change fields document (document.assign op.key v) := by
  cases h with
  | leaf hf hpath hkind =>
    rw [← hpath]
    exact .leaf hf (.inr ⟨_, hkind, rfl⟩)
  | null _ _ hkey =>
    rcases hkey with ⟨f, hf, hpath, hopt⟩ | hrecord
    · rw [← hpath]
      exact .leaf hf (.inl ⟨hopt, rfl⟩)
    · exact .record hrecord

theorem change_step (document : Value) (op : Operation) (fields : List Field)
    (source : FilePath) : Change fields document (step document op fields source).1 := by
  unfold step
  split
  · exact .none
  · next h => exact (assigned_of_effect h).change
  · exact .none

theorem apply_cons (document : Value) (op : Operation) (rest : List Operation)
    (fields : List Field) (source : FilePath) :
    apply document (op :: rest) fields source =
      ((apply (step document op fields source).1 rest fields source).1,
        (step document op fields source).2.toList ++
          (apply (step document op fields source).1 rest fields source).2) := rfl

/-- Of operations in two parts, the second part starts from the document of the first. -/
theorem apply_append (document : Value) (ops more : List Operation) (fields : List Field)
    (source : FilePath) :
    apply document (ops ++ more) fields source =
      ((apply (apply document ops fields source).1 more fields source).1,
        (apply document ops fields source).2 ++
          (apply (apply document ops fields source).1 more fields source).2) := by
  induction ops generalizing document with
  | nil => rfl
  | cons op rest ih => rw [List.cons_append, apply_cons, apply_cons, ih, List.append_assoc]

/-- What every change keeps, the operations of a file keep. -/
theorem apply_keeps {P : Value → Prop}
    (hP : ∀ {d d' : Value}, P d → Change fields d d' → P d') (h : P document)
    (ops : List Operation) (source : FilePath) : P (apply document ops fields source).1 := by
  induction ops generalizing document with
  | nil => exact h
  | cons op rest ih =>
    rw [apply_cons]
    exact ih (hP h (change_step document op fields source))

/-! ## Copied leaves change documents -/

theorem change_mergeLeaf {loaded : Value} (hl : Conforms fields loaded) (defaults : Value)
    {f : Field} (hf : f ∈ fields) :
    Change fields document (mergeLeaf loaded defaults document f) := by
  unfold mergeLeaf
  dsimp only
  split
  · exact .none
  · split
    · next v hv => exact .leaf hf (hl f hf v hv)
    · exact .none

/-- What every change keeps, a run of changes over the leaves keeps. -/
theorem foldl_leaves_keeps {P : Value → Prop} {change : Value → Field → Value}
    (hP : ∀ {d d' : Value}, P d → Change fields d d' → P d')
    (hchange : ∀ d, ∀ f ∈ fields, Change fields d (change d f)) (h : P document) :
    P ((fields.filter fun f => !f.isRecord).foldl change document) := by
  have hsub : ∀ f ∈ fields.filter fun f => !f.isRecord, f ∈ fields :=
    fun f hf => (List.mem_filter.mp hf).1
  generalize (fields.filter fun f => !f.isRecord) = leaves at hsub ⊢
  induction leaves generalizing document with
  | nil => exact h
  | cons f rest ih =>
    rw [List.foldl_cons]
    exact ih (hP h (hchange _ f (hsub f List.mem_cons_self)))
      fun g hg => hsub g (List.mem_cons_of_mem f hg)

/-- What every change keeps, copying the leaves of a conforming document keeps. -/
theorem overDefaults_keeps {P : Value → Prop} {loaded : Value}
    (hP : ∀ {d d' : Value}, P d → Change fields d d' → P d') (hl : Conforms fields loaded)
    (defaults : Value) (h : P document) : P (overDefaults document loaded defaults fields) :=
  foldl_leaves_keeps hP (fun _ _ hf => change_mergeLeaf hl defaults hf) h

end Merge

end LayeredConfig
