import LayeredConfig.Proofs.Field.Discovery
import LayeredConfig.Proofs.Shape.Descriptions
import LayeredConfig.Proofs.Value.Ordered

/-
  Documents that fit a declared shape, and what discovery keeps of them. Where the leaves of a
  document are absent they count as zero; writing the zeros in gives the document filled out
  (`filled`). The filled document is built from the leaf values of the document (`filled_eq_build`),
  and a document that is built from leaf values has these values (`valueAt_build`). So where every
  field has a supported shape, discovery loses only which values were absent
  (`discovery_loses_nothing`).
-/

namespace LayeredConfig

open Value

namespace Shape

/-! ## Documents -/

/-- The value tree is one of the shape. Optional values may be null. A record is an object with the
tags of its fields as keys; a missing key counts as null, so that only optional fields can miss. -/
inductive Fits : Shape → Value → Prop
  | text (s : String) : Fits .text (.string s)
  | flag (b : Bool) : Fits .flag (.bool b)
  | number (n : Int64) : Fits .number (.int n.toInt)
  | texts (items : List String) : Fits (.list .text) (.array (items.map .string))
  | absent (inner : Shape) : Fits (.optional inner) .null
  | present {inner : Shape} {v : Value} (h : Fits inner v) : Fits (.optional inner) v
  | record {name : String} {declared : List (Declared Shape)} {fields : List (String × Value)}
    (hsorted : Sorted fields) (hkeys : ∀ f ∈ fields, f.1 ∈ declared.map Declared.tag)
    (hfits : ∀ d ∈ declared, Fits d.shape ((findField d.tag fields).getD .null)) :
    Fits (.record name declared) (.object fields)

/-- The value tree of a leaf, null where there is none. -/
def leafTree : Option Leaf → Value
  | some leaf => leaf.toValue
  | none => .null

mutual

/-- The value tree of a shape with the given leaves, each told by its keys and its kind. No value of
the tree is absent. -/
def build : Shape → (List String → Kind → Option Leaf) → Value
  | .text, leaf => leafTree (leaf [] .text)
  | .flag, leaf => leafTree (leaf [] .flag)
  | .number, leaf => leafTree (leaf [] .number)
  | .list _, leaf => leafTree (leaf [] .textList)
  | .optional inner, leaf => inner.build leaf
  | .record _ declared, leaf => .ofFields (buildFields declared leaf)

/-- The fields of a record with the given leaves. -/
def buildFields : List (Declared Shape) → (List String → Kind → Option Leaf) →
    List (String × Value)
  | [], _ => []
  | ⟨_, tag, shape⟩ :: rest, leaf =>
    (tag, shape.build fun keys => leaf (tag :: keys)) :: buildFields rest leaf

end

/-- The value tree of a shape whose leaves are all zero. -/
def zeroTree (shape : Shape) : Value := shape.build fun _ => Leaf.zero?

mutual

/-- The document with every absent value replaced: an optional leaf by its zero value, an optional
record by the record of zero values. -/
def filled : Shape → Value → Value
  | .optional inner, v => if v.isNull then inner.zeroTree else inner.filled v
  | .record _ declared, .object fields => .object (filledFields declared fields)
  | _, v => v

/-- The fields of an object with the absent values of the declared ones replaced. -/
def filledFields : List (Declared Shape) → List (String × Value) → List (String × Value)
  | [], fields => fields
  | ⟨_, tag, shape⟩ :: rest, fields =>
    insertField tag (shape.filled ((findField tag fields).getD .null)) (filledFields rest fields)

end

/-- The value of the leaf below keys. A missing node and null count as zero. -/
def valueAt (v : Value) (keys : List String) (kind : Kind) : Option Leaf :=
  Leaf.ofNode? kind (v.getAt? keys)

variable {name : String} {declared inner above : List (Declared Shape)} {d : Declared Shape}
  {shape : Shape} {kind : Kind} {v a b : Value} {fields : List (String × Value)} {key : String}
  {leaf leaf' : List String → Kind → Option Leaf}

/-! ## Values below keys -/

@[simp] theorem valueAt_null (keys : List String) (kind : Kind) :
    valueAt .null keys kind = Leaf.zero? kind := by
  cases keys <;> rfl

/-- Below a key stands what stands in the field, where a missing field counts as null. -/
@[simp] theorem valueAt_cons (v : Value) (key : String) (keys : List String) (kind : Kind) :
    valueAt v (key :: keys) kind = valueAt ((v.field? key).getD .null) keys kind := by
  unfold valueAt
  rw [getAt?_cons]
  cases v.field? key with
  | none => exact (valueAt_null keys kind).symm
  | some inner => rfl

/-! ## Built documents -/

theorem build_of_leafShape (h : LeafShape shape.required kind)
    (leaf : List String → Kind → Option Leaf) : shape.build leaf = leafTree (leaf [] kind) := by
  cases shape with
  | optional inner =>
    rw [build]
    change LeafShape inner kind at h
    cases h <;> rw [build]
  | _ => cases h <;> rw [build]

theorem build_of_recordFields? (h : shape.recordFields? = some inner)
    (leaf : List String → Kind → Option Leaf) :
    shape.build leaf = .ofFields (buildFields inner leaf) := by
  obtain ⟨name, rfl | rfl⟩ := recordFields?_eq_some_iff.mp h
  · rw [build]
  · rw [build, build]

@[simp] theorem map_fst_buildFields (declared : List (Declared Shape))
    (leaf : List String → Kind → Option Leaf) :
    (buildFields declared leaf).map Prod.fst = declared.map Declared.tag := by
  induction declared with
  | nil => rfl
  | cons d rest ih => rw [buildFields, List.map_cons, List.map_cons, ih]

theorem mem_buildFields (h : d ∈ declared) (leaf : List String → Kind → Option Leaf) :
    (d.tag, d.shape.build fun keys => leaf (d.tag :: keys)) ∈ buildFields declared leaf := by
  induction declared with
  | nil => cases h
  | cons e rest ih =>
    rw [buildFields]
    rcases List.mem_cons.mp h with rfl | h
    · exact List.mem_cons_self
    · exact List.mem_cons_of_mem _ (ih h)

/-- A record gives each of its fields what was built for it. -/
theorem field?_buildFields (hr : FieldsRegular declared) (h : d ∈ declared)
    (leaf : List String → Kind → Option Leaf) :
    (ofFields (buildFields declared leaf)).field? d.tag =
      some (d.shape.build fun keys => leaf (d.tag :: keys)) := by
  refine field?_ofFields ?_ (mem_buildFields h leaf)
  rw [map_fst_buildFields]
  exact hr.nodup

/-- A built document has the leaves that it was built from. -/
theorem valueAt_build (hr : FieldsRegular declared) (h : DeclaredIn declared above d)
    (hleaf : LeafShape d.shape.required kind)
    (hkind : ∀ x, leaf (tagsTo above d) kind = some x → x.kind = kind)
    (hsome : (leaf (tagsTo above d) kind).isSome = true) :
    valueAt (ofFields (buildFields declared leaf)) (tagsTo above d) kind =
      leaf (tagsTo above d) kind := by
  induction h generalizing leaf with
  | @here declared d hd =>
    obtain ⟨x, hx⟩ := Option.isSome_iff_exists.mp hsome
    have hread : tagsTo [] d = [d.tag] := rfl
    rw [hread] at hx hkind ⊢
    rw [valueAt_cons, field?_buildFields hr hd, Option.getD_some, build_of_leafShape hleaf, hx,
      leafTree, valueAt, ← hkind x hx]
    exact Leaf.ofNode?_toValue x
  | @inside declared inner above e d he hinner h ih =>
    have hbelow := (hr.of_mem he).2.recordFields? hinner
    rw [tagsTo_cons] at hkind hsome ⊢
    rw [valueAt_cons, field?_buildFields hr he, Option.getD_some, build_of_recordFields? hinner]
    exact ih hbelow hleaf hkind hsome

/-- Every declared field, at any depth, has a shape that fields can have, in at most one
`optional`. -/
def Supported (declared : List (Declared Shape)) : Prop :=
  ∀ above d, DeclaredIn declared above d → ∃ kind, FieldShape d.shape.required kind

/-- The fields are supported and, where they are records, their fields. -/
theorem supported_iff : Supported declared ↔
    ∀ d ∈ declared, (∃ kind, FieldShape d.shape.required kind) ∧
      ∀ inner, d.shape.recordFields? = some inner → Supported inner := by
  constructor
  · intro h d hd
    exact ⟨h [] d (.here hd),
      fun inner hinner above e he => h (d :: above) e (.inside hd hinner he)⟩
  · intro h above d hd
    cases hd with
    | here hd => exact (h d hd).1
    | inside he hinner hd => exact (h _ he).2 _ hinner _ d hd

theorem Supported.of_subset {rest : List (Declared Shape)} (h : Supported declared)
    (hsub : rest ⊆ declared) : Supported rest :=
  supported_iff.mpr fun d hd => supported_iff.mp h d (hsub hd)

/-- A supported field is a leaf or a record. -/
theorem Supported.leafShape_or_record (h : Supported declared) (hd : d ∈ declared) :
    (∃ kind, LeafShape d.shape.required kind) ∨ ∃ inner, d.shape.recordFields? = some inner := by
  obtain ⟨kind, hkind⟩ := (supported_iff.mp h d hd).1
  unfold recordFields?
  generalize d.shape.required = s at hkind
  cases hkind with
  | leaf h => exact .inl ⟨kind, h⟩
  | record name fields => exact .inr ⟨fields, rfl⟩

/-- The leaves tell what is built. -/
theorem buildFields_congr (hs : Supported declared)
    (h : ∀ above d kind, DeclaredIn declared above d → LeafShape d.shape.required kind →
      leaf (tagsTo above d) kind = leaf' (tagsTo above d) kind) :
    buildFields declared leaf = buildFields declared leaf' := by
  induction declared using declared_induction generalizing leaf leaf' with
  | nil => rw [buildFields, buildFields]
  | cons d rest ihinner ihrest =>
    have hsub : rest ⊆ d :: rest := List.subset_cons_self d rest
    have hrest : buildFields rest leaf = buildFields rest leaf' :=
      ihrest (hs.of_subset hsub)
        fun above e kind he => h above e kind (he.of_subset hsub)
    have hfirst : d.shape.build (fun keys => leaf (d.tag :: keys)) =
        d.shape.build fun keys => leaf' (d.tag :: keys) := by
      have hd : d ∈ d :: rest := List.mem_cons_self
      rcases hs.leafShape_or_record hd with ⟨kind, hleaf⟩ | ⟨inner, hinner⟩
      · rw [build_of_leafShape hleaf, build_of_leafShape hleaf]
        exact congrArg leafTree (h [] d kind (.here hd) hleaf)
      · rw [build_of_recordFields? hinner, build_of_recordFields? hinner]
        have hsinner := (supported_iff.mp hs d hd).2 inner hinner
        refine congrArg ofFields (ihinner inner hinner hsinner ?_)
        exact fun above e kind he => h (d :: above) e kind (.inside hd hinner he)
    rw [buildFields, buildFields, hfirst, hrest]

/-! ## Filled documents -/

theorem findField_filledFields (hnodup : (declared.map Declared.tag).Nodup) (hd : d ∈ declared)
    (fields : List (String × Value)) : findField d.tag (filledFields declared fields) =
      some (d.shape.filled ((findField d.tag fields).getD .null)) := by
  induction declared with
  | nil => cases hd
  | cons e rest ih =>
    rw [List.map_cons, List.nodup_cons] at hnodup
    rw [filledFields]
    rcases List.mem_cons.mp hd with rfl | hd
    · exact findField_insertField_self _ _ _
    · have hne : d.tag ≠ e.tag := by
        intro heq
        exact hnodup.1 (heq ▸ List.mem_map_of_mem hd)
      rw [findField_insertField_of_ne hne]
      exact ih hnodup.2 hd

theorem findField_filledFields_of_not_mem (h : key ∉ declared.map Declared.tag)
    (fields : List (String × Value)) :
    findField key (filledFields declared fields) = findField key fields := by
  induction declared with
  | nil => rw [filledFields]
  | cons e rest ih =>
    rw [List.map_cons, List.mem_cons, not_or] at h
    rw [filledFields, findField_insertField_of_ne h.1]
    exact ih h.2

theorem sorted_filledFields (h : Sorted fields) (declared : List (Declared Shape)) :
    Sorted (filledFields declared fields) := by
  induction declared with
  | nil =>
    rw [filledFields]
    exact h
  | cons e rest ih =>
    rw [filledFields]
    exact sorted_insertField ih _ _

/-- Filling out null is building from zeros, which is what is read from null. -/
theorem zeroTree_eq_build (shape : Shape) : shape.zeroTree = shape.build (valueAt .null) := by
  have hzero : valueAt .null = fun _ => Leaf.zero? := funext fun keys => funext (valueAt_null keys)
  rw [hzero, zeroTree]

theorem filled_of_leafShape (h : LeafShape shape kind) (v : Value) : shape.filled v = v := by
  cases h <;> simp [filled]

/-- A document filled out is the one built from its leaf values. -/
theorem filled_eq_build (h : Fits shape v) (hr : shape.Regular) :
    shape.filled v = shape.build (valueAt v) := by
  induction h with
  | text s =>
    rw [filled_of_leafShape .text, build]
    rfl
  | flag b =>
    rw [filled_of_leafShape .flag, build]
    rfl
  | number n =>
    have hread : valueAt (.int n.toInt) [] .number = some (.number n) :=
      Leaf.ofNode?_toValue (.number n)
    rw [filled_of_leafShape .number, build, hread]
    rfl
  | texts items =>
    have hread : valueAt (.array (items.map .string)) [] .textList = some (.textList items) :=
      Leaf.ofNode?_toValue (.textList items)
    rw [filled_of_leafShape .textList, build, hread]
    rfl
  | absent inner =>
    rw [filled, build, zeroTree_eq_build]
    rfl
  | @present inner v h ih =>
    rw [filled, build]
    split
    · next hnull =>
      cases v with
      | null => exact zeroTree_eq_build inner
      | _ => cases hnull
    · rw [Regular] at hr
      exact ih hr.2
  | @record name declared fields hsorted hkeys hfits ih =>
    rw [Regular] at hr
    rw [filled, build]
    -- both objects have their keys in order, so that it is enough to look at every key
    refine congrArg Value.object (eq_of_findField_eq (sorted_filledFields hsorted declared)
      (sorted_foldl_insertField .nil _) fun key => ?_)
    by_cases hkey : key ∈ declared.map Declared.tag
    · obtain ⟨d, hd, rfl⟩ := List.mem_map.mp hkey
      have hbuilt := field?_buildFields hr hd (valueAt (.object fields))
      refine (findField_filledFields hr.nodup hd fields).trans (Eq.trans ?_ hbuilt.symm)
      rw [ih d hd (hr.of_mem hd).2]
      refine congrArg some (congrArg d.shape.build ?_)
      funext keys kind
      exact (valueAt_cons (.object fields) d.tag keys kind).symm
    · rw [findField_filledFields_of_not_mem hkey, findField_foldl_insertField_of_not_mem]
      · cases hfind : findField key fields with
        | none => rfl
        | some x =>
          exact absurd (hkeys _ ((mem_iff_findField hsorted).mpr hfind)) hkey
      · rw [map_fst_buildFields]
        exact hkey

/-! ## Leaf values -/

/-- A document that fits a record is absent or has values that fit the fields. -/
theorem Fits.eq_null_or_fields (h : Fits shape v) (hinner : shape.recordFields? = some declared) :
    v = .null ∨ ∀ d ∈ declared, Fits d.shape ((v.field? d.tag).getD .null) := by
  obtain ⟨name, rfl | rfl⟩ := recordFields?_eq_some_iff.mp hinner
  · cases h with
    | record _ _ hfits => exact .inr hfits
  · cases h with
    | absent => exact .inl rfl
    | present h =>
      cases h with
      | record _ _ hfits => exact .inr hfits

/-- What fits the shape of a leaf is read as a leaf. -/
theorem Fits.exists_leaf (h : Fits shape v) (hleaf : LeafShape shape.required kind) :
    ∃ x, valueAt v [] kind = some x := by
  induction h with
  | text s =>
    cases hleaf
    exact ⟨.text s, rfl⟩
  | flag b =>
    cases hleaf
    exact ⟨.flag b, rfl⟩
  | number n =>
    cases hleaf
    exact ⟨.number n, Leaf.ofNode?_toValue (.number n)⟩
  | texts items =>
    cases hleaf
    exact ⟨.textList items, Leaf.ofNode?_toValue (.textList items)⟩
  | absent inner => exact Leaf.exists_zero hleaf.kind_ne
  | @present inner v _ ih =>
    change LeafShape inner kind at hleaf
    exact ih (hleaf.required_eq.symm ▸ hleaf)
  | record => cases hleaf

/-- In a document that fits, a leaf is read at every place of a leaf. -/
theorem Fits.exists_valueAt (h : Fits shape v) (hinner : shape.recordFields? = some declared)
    (hd : DeclaredIn declared above d) (hleaf : LeafShape d.shape.required kind) :
    ∃ x, valueAt v (tagsTo above d) kind = some x := by
  rcases h.eq_null_or_fields hinner with rfl | hfits
  · rw [valueAt_null]
    exact Leaf.exists_zero hleaf.kind_ne
  · induction hd generalizing shape v with
    | @here declared d hd =>
      have hread : tagsTo [] d = [d.tag] := rfl
      rw [hread, valueAt_cons]
      exact (hfits d hd).exists_leaf hleaf
    | @inside declared middle above e d he hmiddle hd ih =>
      rw [tagsTo_cons, valueAt_cons]
      -- below an absent record every leaf is zero, whether its own shape is optional or not
      rcases (hfits e he).eq_null_or_fields hmiddle with hnull | hbelow
      · rw [hnull, valueAt_null]
        exact Leaf.exists_zero hleaf.kind_ne
      · exact ih (hfits e he) hmiddle hleaf hbelow

/-! ## Discovery -/

/-- The value of a leaf is read below its tags. -/
theorem refresh_leafField (hd : DeclaredIn declared above d) (hr : FieldsRegular declared)
    (kind : Kind) (v : Value) : (leafField above d kind).refresh v =
      { leafField above d kind with value := valueAt v (tagsTo above d) kind } := by
  have hread : v.get? (pathTo above d) = v.getAt? (tagsTo above d) := by
    rw [Value.get?, hd.segments_pathTo hr]
  unfold Field.refresh leafField valueAt
  rw [hread]
  rfl

/-- Discovery in two documents gives the same exactly when the leaves have the same values. -/
theorem discover_eq_iff (hr : FieldsRegular declared) :
    (Shape.record name declared).discover a = (Shape.record name declared).discover b ↔
      ∀ above d kind, DeclaredIn declared above d → LeafShape d.shape.required kind →
        valueAt a (tagsTo above d) kind = valueAt b (tagsTo above d) kind := by
  rw [discover, discover, List.map_inj_left]
  constructor
  · intro h above d kind hd hleaf
    have hmem : leafField above d kind ∈ (Shape.record name declared).metadata :=
      (mem_metadata_record_iff hr).mpr ⟨above, d, kind, hd, hleaf, rfl⟩
    have heq := h _ hmem
    rw [refresh_leafField hd hr, refresh_leafField hd hr] at heq
    exact congrArg Field.value heq
  · intro h f hf
    obtain ⟨above, d, kind, hd, hleaf, rfl⟩ := (mem_metadata_record_iff hr).mp hf
    rw [refresh_leafField hd hr, refresh_leafField hd hr, h above d kind hd hleaf]

/-- Documents that fit have the same leaf values exactly when they are filled out to the same. -/
theorem filled_eq_iff (hr : FieldsRegular declared) (hs : Supported declared)
    (ha : Fits (.record name declared) a) (hb : Fits (.record name declared) b) :
    (Shape.record name declared).filled a = (Shape.record name declared).filled b ↔
      ∀ above d kind, DeclaredIn declared above d → LeafShape d.shape.required kind →
        valueAt a (tagsTo above d) kind = valueAt b (tagsTo above d) kind := by
  have hregular : (Shape.record name declared).Regular := by rwa [Regular]
  rw [filled_eq_build ha hregular, filled_eq_build hb hregular, build, build]
  constructor
  · intro h above d kind hd hleaf
    have hread : ∀ v, Fits (.record name declared) v →
        valueAt (ofFields (buildFields declared (valueAt v))) (tagsTo above d) kind =
          valueAt v (tagsTo above d) kind := fun v hv =>
      valueAt_build hr hd hleaf (fun x hx => Leaf.kind_of_ofNode? hx)
        (Option.isSome_iff_exists.mpr (hv.exists_valueAt rfl hd hleaf))
    rw [← hread a ha, h, hread b hb]
  · intro h
    rw [buildFields_congr hs h]

/-- Filling in the values of a document does away with those that were there. -/
theorem map_refresh_discover (shape : Shape) (a c : Value) :
    (shape.discover c).map (Field.refresh · a) = shape.discover a := by
  rw [discover, discover, List.map_map]
  rfl

/-- Discovery loses nothing. For a record whose tags hold no dots, whose records give their fields
different tags, and whose fields have supported shapes, at any depth: in a document that fits the
record, each leaf has a value of its own kind, whatever values stood in the descriptions before; and
of two documents that fit, discovery gives the same exactly when they are the same filled out, with
zeros for absent leaves and the record of zeros for absent records. -/
theorem discovery_loses_nothing {name : String} {fields : List (Declared Shape)}
    (hr : (Shape.record name fields).Regular) (hs : Supported fields) :
    (∀ a, Fits (.record name fields) a → ∀ c,
      ((Shape.record name fields).discover c).map (Field.refresh · a) =
          (Shape.record name fields).discover a ∧
        (∀ above d kind, DeclaredIn fields above d → LeafShape d.shape.required kind →
          ∃ x, x.kind = kind ∧ { leafField above d kind with value := some x } ∈
            (Shape.record name fields).discover a) ∧
        ∀ f ∈ (Shape.record name fields).discover a, ∃ x, f.value = some x ∧ x.kind = f.kind) ∧
    ∀ a b, Fits (.record name fields) a → Fits (.record name fields) b →
      ((Shape.record name fields).discover a = (Shape.record name fields).discover b ↔
        (Shape.record name fields).filled a = (Shape.record name fields).filled b) := by
  rw [Regular] at hr
  refine ⟨fun a ha c => ⟨map_refresh_discover _ a c, ?_, ?_⟩, fun a b ha hb => ?_⟩
  · intro above d kind hd hleaf
    obtain ⟨x, hx⟩ := ha.exists_valueAt rfl hd hleaf
    refine ⟨x, Leaf.kind_of_ofNode? hx, List.mem_map.mpr ⟨leafField above d kind, ?_, ?_⟩⟩
    · exact (mem_metadata_record_iff hr).mpr ⟨above, d, kind, hd, hleaf, rfl⟩
    · rw [refresh_leafField hd hr, hx]
  · intro f hf
    obtain ⟨g, hg, rfl⟩ := List.mem_map.mp hf
    obtain ⟨above, d, kind, hd, hleaf, rfl⟩ := (mem_metadata_record_iff hr).mp hg
    obtain ⟨x, hx⟩ := ha.exists_valueAt rfl hd hleaf
    rw [refresh_leafField hd hr, hx]
    exact ⟨x, rfl, Leaf.kind_of_ofNode? hx⟩
  · rw [discover_eq_iff hr, filled_eq_iff hr hs ha hb]

/-- The size of a parcel. -/
def sizeFields : List (Declared Shape) :=
  [⟨"marks", "marks", .optional (.list .text)⟩, ⟨"width", "width", .number⟩]

/-- The fields of a parcel, with a note and a size that may be absent. -/
def parcelFields : List (Declared Shape) :=
  [⟨"title", "title", .text⟩, ⟨"note", "note", .optional .text⟩,
    ⟨"size", "size", .optional (.record "Size" sizeFields)⟩]

/-- A parcel of a width, or of no size. -/
def parcel (size : Option Int64) : Value :=
  .object [("size", (size.map fun n => Value.object [("width", .int n.toInt)]).getD .null),
    ("title", .string "lamp")]

theorem fits_parcel (size : Option Int64) :
    Fits (.record "Parcel" parcelFields) (parcel size) := by
  refine .record ?_ ?_ ?_
  · have hlt : compare "size" "title" = .lt := by decide
    exact List.pairwise_pair.mpr hlt
  · simp [parcelFields]
  · simp only [parcelFields, List.forall_mem_cons, List.not_mem_nil, false_implies, implies_true,
      and_true]
    refine ⟨.text "lamp", .absent .text, ?_⟩
    cases size with
    | none => exact .absent _
    | some n =>
      refine .present (.record (List.pairwise_singleton _ _) ?_ ?_)
      · simp [sizeFields]
      · simp only [sizeFields, List.forall_mem_cons, List.not_mem_nil, false_implies, implies_true,
          and_true]
        exact ⟨.absent _, .number n⟩

/-- A parcel of no size is discovered as one of the width zero, and not as a wide one. -/
theorem discovery_loses_nothing_parcel :
    (Shape.record "Parcel" parcelFields).Regular ∧ Supported parcelFields ∧
      (∀ size, Fits (.record "Parcel" parcelFields) (parcel size)) ∧
      (Shape.record "Parcel" parcelFields).discover (parcel none) =
        (Shape.record "Parcel" parcelFields).discover (parcel (some 0)) ∧
      (Shape.record "Parcel" parcelFields).discover (parcel none) ≠
        (Shape.record "Parcel" parcelFields).discover (parcel (some 3)) := by
  have hregular : (Shape.record "Parcel" parcelFields).Regular := by
    simp [parcelFields, sizeFields, Shape.Regular, Shape.FieldsRegular, Shape.isOptional]
  have hsize : Supported sizeFields := supported_iff.mpr <| by
    simp only [sizeFields, List.forall_mem_cons, List.not_mem_nil, false_implies, implies_true,
      and_true]
    exact ⟨⟨⟨_, .leaf .textList⟩, by simp [recordFields?, required]⟩,
      ⟨⟨_, .leaf .number⟩, by simp [recordFields?, required]⟩⟩
  have hsupported : Supported parcelFields := supported_iff.mpr <| by
    simp only [parcelFields, List.forall_mem_cons, List.not_mem_nil, false_implies, implies_true,
      and_true]
    refine ⟨⟨⟨_, .leaf .text⟩, by simp [recordFields?, required]⟩,
      ⟨⟨_, .leaf .text⟩, by simp [recordFields?, required]⟩, ⟨_, .record _ _⟩, ?_⟩
    rintro _ ⟨⟩
    exact hsize
  obtain ⟨-, hsame⟩ := discovery_loses_nothing hregular hsupported
  refine ⟨hregular, hsupported, fits_parcel, ?_, ?_⟩
  · exact (hsame _ _ (fits_parcel _) (fits_parcel _)).mpr (by decide +kernel)
  · exact (hsame _ _ (fits_parcel _) (fits_parcel _)).not.mpr (by decide +kernel)

end Shape

end LayeredConfig
