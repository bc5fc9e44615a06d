import LayeredConfig.Proofs.Settings.Leaves
import LayeredConfig.Settings.Document

/-
  Value trees that fit the settings. The tree of any settings is such a tree (`typed_toValue`),
  every change that merging can make keeps it one (`Typed.change`), and it can be read as
  settings again (`Typed.decode`). The settings read from it hold the same leaves, except that a
  leaf missing from the record takes the default of the record (`Typed.get?_toValue`).
-/

namespace LayeredConfig

open Value
open VerificationSettings (Part)

/-! ## Values of settings -/

namespace VerificationSettings

/-- A field of the record as a leaf. -/
def part (v : VerificationSettings) : Part → Leaf
  | .verify => .flag v.verifyOnCreate
  | .checksum => .text v.checksumAlgorithm

@[simp] theorem kind_part (v : VerificationSettings) (p : Part) : (v.part p).kind = p.kind := by
  cases p <;> rfl

/-- Every choice of leaves of the right kinds makes a record. -/
theorem exists_part {leaf : Part → Leaf} (h : ∀ p, (leaf p).kind = p.kind) :
    ∃ v : VerificationSettings, ∀ p, v.part p = leaf p := by
  have hverify : ∃ b, leaf .verify = .flag b := by
    have hkind := h .verify
    cases hleaf : leaf .verify <;> rw [hleaf] at hkind <;> cases hkind
    exact ⟨_, rfl⟩
  have hchecksum : ∃ s, leaf .checksum = .text s := by
    have hkind := h .checksum
    cases hleaf : leaf .checksum <;> rw [hleaf] at hkind <;> cases hkind
    exact ⟨_, rfl⟩
  obtain ⟨b, hb⟩ := hverify
  obtain ⟨s, hs⟩ := hchecksum
  refine ⟨⟨b, s⟩, fun p => ?_⟩
  cases p with
  | verify => exact hb.symm
  | checksum => exact hs.symm

@[simp] theorem field?_toValue (v : VerificationSettings) (p : Part) :
    v.toValue.field? p.key = some (v.part p).toValue := by
  have hnodup : [verifyKey, checksumKey].Nodup := by decide
  cases p with
  | verify => exact field?_ofFields hnodup List.mem_cons_self
  | checksum => exact field?_ofFields hnodup (List.mem_cons_of_mem _ List.mem_cons_self)

theorem flagOr_eq_some_iff {fallback b : Bool} {node : Option Value} :
    flagOr fallback node = some b ↔ node.getD (.bool fallback) = .bool b := by
  cases node with
  | none => simp [flagOr]
  | some v => cases v <;> simp [flagOr]

theorem textOr_eq_some_iff {fallback s : String} {node : Option Value} :
    textOr fallback node = some s ↔ node.getD (.string fallback) = .string s := by
  cases node with
  | none => simp [textOr]
  | some v => cases v <;> simp [textOr]

/-- The record of an object holds the leaf of every field, or the default where it is missing. -/
theorem ofValue?_object_eq_some_iff {fields : List (String × Value)} {v : VerificationSettings} :
    ofValue? (.object fields) = some v ↔
      ∀ p : Part, ((Value.object fields).field? p.key).getD (default.part p).toValue =
        (v.part p).toValue := by
  have hparts : (∀ p : Part, ((Value.object fields).field? p.key).getD (default.part p).toValue =
        (v.part p).toValue) ↔
      flagOr default.verifyOnCreate ((Value.object fields).field? verifyKey) =
          some v.verifyOnCreate ∧
        textOr default.checksumAlgorithm ((Value.object fields).field? checksumKey) =
          some v.checksumAlgorithm := by
    rw [flagOr_eq_some_iff, textOr_eq_some_iff]
    constructor
    · intro h
      exact ⟨h .verify, h .checksum⟩
    · rintro ⟨hverify, hchecksum⟩ p
      cases p with
      | verify => exact hverify
      | checksum => exact hchecksum
  rw [hparts, ofValue?, ofNodes?]
  split
  · next b s hb hs =>
    rw [hb, hs]
    cases v
    simp
  · next hnone =>
    constructor
    · intro h
      cases h
    · rintro ⟨hb, hs⟩
      exact absurd hs (hnone _ _ hb)

end VerificationSettings

namespace SettingType

theorem eq_map_of_mapM_string? {items : List Value} {texts : List String}
    (h : items.mapM string? = some texts) : items = texts.map .string := by
  induction items generalizing texts with
  | nil => cases h; rfl
  | cons v rest ih =>
    rw [List.mapM_cons] at h
    obtain ⟨s, hs, hrest⟩ := Option.bind_eq_some_iff.mp h
    obtain ⟨more, hmore, heq⟩ := Option.bind_eq_some_iff.mp hrest
    cases heq
    cases v <;> cases hs
    rw [List.map_cons, ih hmore]

/-- A setting that is no record is written as it was read. -/
theorem toValue_of_ofValue? {t : SettingType} (ht : t ≠ .verification) {v : Value}
    {x : t.Carrier} (h : t.ofValue? v = some x) : t.toValue x = v := by
  cases t with
  | verification => exact absurd rfl ht
  | text => cases v <;> cases h; rfl
  | flag => cases v <;> cases h; rfl
  | number =>
    cases v with
    | int n => rw [toValue, toInt_of_int64? h]
    | _ => cases h
  | texts =>
    cases v with
    | array items => rw [toValue, ← eq_map_of_mapM_string? h]
    | _ => cases h
  | note => cases v <;> cases h <;> rfl

/-- Every setting is read as it was written. -/
@[simp] theorem ofValue?_toValue (t : SettingType) (x : t.Carrier) :
    t.ofValue? (t.toValue x) = some x := by
  cases t with
  | text => rfl
  | flag => rfl
  | number => exact int64?_toInt x
  | texts => exact Leaf.mapM_string (fun _ => rfl) x
  | note => cases x <;> rfl
  | verification =>
    cases x with
    | none => rfl
    | some r =>
      have hread : VerificationSettings.ofValue? r.toValue = some r :=
        VerificationSettings.ofValue?_object_eq_some_iff.mpr fun p => by
          have hnode := r.field?_toValue p
          unfold VerificationSettings.toValue ofFields at hnode
          rw [hnode, Option.getD_some]
      show (VerificationSettings.ofValue? r.toValue).map some = some (some r)
      rw [hread]
      rfl

/-- A value that fits a setting which is no record can be read as the setting. -/
theorem exists_ofValue?_of_fits {s : Setting} (h : s.type ≠ .verification) {v : Value}
    (hv : (SettingLeaf.own s h).field.Fits v) : ∃ x, s.type.ofValue? v = some x := by
  change (s.type.shape.isOptional = true ∧ v = .null) ∨
    ∃ leaf : Leaf, leaf.kind = s.type.kind ∧ v = leaf.toValue at hv
  generalize s.type = t at h hv ⊢
  rcases hv with ⟨hoptional, rfl⟩ | ⟨leaf, hkind, rfl⟩
  · cases t with
    | note => exact ⟨none, rfl⟩
    | verification => exact absurd rfl h
    | _ => cases hoptional
  · cases t with
    | verification => exact absurd rfl h
    | text => cases leaf <;> cases hkind; exact ⟨_, rfl⟩
    | flag => cases leaf <;> cases hkind; exact ⟨_, rfl⟩
    | number => cases leaf <;> cases hkind; exact ⟨_, int64?_toInt _⟩
    | texts => cases leaf <;> cases hkind; exact ⟨_, Leaf.mapM_string (fun _ => rfl) _⟩
    | note => cases leaf <;> cases hkind; exact ⟨_, rfl⟩

/-- The value of a setting which is no record fits it. -/
theorem fits_toValue {s : Setting} (h : s.type ≠ .verification) (x : s.type.Carrier) :
    (SettingLeaf.own s h).field.Fits (s.type.toValue x) := by
  show (s.type.shape.isOptional = true ∧ s.type.toValue x = .null) ∨
    ∃ leaf : Leaf, leaf.kind = s.type.kind ∧ s.type.toValue x = leaf.toValue
  generalize s.type = t at h x ⊢
  cases t with
  | verification => exact absurd rfl h
  | text => exact .inr ⟨.text x, rfl, rfl⟩
  | flag => exact .inr ⟨.flag x, rfl, rfl⟩
  | number => exact .inr ⟨.number x, rfl, rfl⟩
  | texts => exact .inr ⟨.textList x, rfl, rfl⟩
  | note =>
    cases x with
    | none => exact .inl ⟨rfl, rfl⟩
    | some text => exact .inr ⟨.text text, rfl, rfl⟩

end SettingType

/-! ## Trees that fit the settings -/

namespace Settings

@[simp] theorem field?_toValue (c : Settings) (s : Setting) :
    c.toValue.field? s.key = some (s.type.toValue (c s)) := by
  apply field?_ofFields
  · rw [List.map_map]
    exact List.Pairwise.map _ (fun a b hne h => hne (Setting.key_injective h)) Setting.nodup_all
  · exact List.mem_map.mpr ⟨s, s.mem_all, rfl⟩

/-- A tree that fits the settings: an object with a node for every setting, where every leaf that
is present fits its field and the record is null or an object. -/
structure Typed (document : Value) : Prop where
  conforms : Merge.Conforms Settings.shape.metadata document
  isObject : ∃ fields, document = .object fields
  present : ∀ s : Setting, (document.field? s.key).isSome = true
  record : document.field? Setting.verification.key = some .null ∨
    ∃ fields, document.field? Setting.verification.key = some (.object fields)

theorem typed_toValue (c : Settings) : Typed c.toValue where
  conforms := by
    intro f hf v hv
    obtain ⟨leaf, rfl⟩ := SettingLeaf.mem_metadata_iff.mp hf
    cases leaf with
    | own s h =>
      rw [SettingLeaf.get?_own, field?_toValue] at hv
      cases hv
      exact SettingType.fits_toValue h (c s)
    | part p =>
      rw [SettingLeaf.get?_part, field?_toValue, Option.bind_some] at hv
      cases hrecord : c .verification with
      | none => rw [hrecord] at hv; cases hv
      | some r =>
        rw [hrecord] at hv
        have hnode := (r.field?_toValue p).symm.trans hv
        cases hnode
        exact .inr ⟨r.part p, r.kind_part p, rfl⟩
  isObject := ⟨_, rfl⟩
  present s := by rw [field?_toValue]; rfl
  record := by
    rw [field?_toValue]
    cases c .verification with
    | none => exact .inl rfl
    | some r => exact .inr ⟨_, rfl⟩

variable {document document' : Value}

/-- Every change that merging can make gives a tree that fits the settings again. -/
theorem Typed.change (h : Typed document)
    (hchange : Merge.Change Settings.shape.metadata document document') : Typed document' where
  conforms := h.conforms.change SettingLeaf.separate_metadata hchange
  isObject := by
    cases hchange with
    | none => exact h.isObject
    | leaf => exact setAt_eq_object _ _ (segments_ne_nil _)
    | record => exact setAt_eq_object _ _ (segments_ne_nil _)
  present s := by
    cases hchange with
    | none => exact h.present s
    | leaf => exact isSome_field?_setAt (h.present s) _ (segments_ne_nil _)
    | record => exact isSome_field?_setAt (h.present s) _ (segments_ne_nil _)
  record := by
    cases hchange with
    | none => exact h.record
    | @leaf f v hf hv =>
      obtain ⟨leaf, rfl⟩ := SettingLeaf.mem_metadata_iff.mp hf
      rw [assign, leaf.segments_path]
      cases leaf with
      | own s hs =>
        have hne := (SettingLeaf.key_ne_verification hs).symm
        rw [SettingLeaf.keys, field?_setAt_of_ne hne]
        exact h.record
      | part p =>
        rw [SettingLeaf.keys, field?_setAt_self]
        exact .inr ⟨_, rfl⟩
    | @record path hpath =>
      rw [SettingLeaf.isRecordPath_metadata_iff.mp hpath, assign, Setting.segments_key,
        field?_setAt_self]
      exact .inl rfl

/-! ## Reading trees that fit -/

/-- The setting of a node, which is the default where the node is missing. -/
def ofNode? (s : Setting) : Option Value → Option s.type.Carrier
  | none => some s.default
  | some v => s.type.ofValue? v

theorem ofNodes?_eq_some_iff {node : Setting → Option Value} {c : Settings} :
    ofNodes? node = some c ↔ ∀ s, ofNode? s (node s) = some (c s) := by
  have hnode : ∀ s, fits s (node s) = (ofNode? s (node s)).isSome ∧
      ((node s).bind s.type.ofValue?).getD s.default = (ofNode? s (node s)).getD s.default := by
    intro s
    cases node s <;> exact ⟨rfl, rfl⟩
  unfold ofNodes?
  split
  · next hall =>
    rw [Option.some.injEq, funext_iff]
    refine forall_congr' fun s => ?_
    have hread : (ofNode? s (node s)).isSome = true :=
      (hnode s).1 ▸ List.all_eq_true.mp hall s s.mem_all
    obtain ⟨x, hx⟩ := Option.isSome_iff_exists.mp hread
    rw [(hnode s).2, hx, Option.getD_some, Option.some.injEq]
  · next hall =>
    refine iff_of_false (Option.some_ne_none c).symm fun h => hall ?_
    refine List.all_eq_true.mpr fun s _ => ?_
    rw [(hnode s).1, h s]
    rfl

/-- An object is read as the settings of its nodes. -/
theorem decode_object_eq_ok_iff {fields : List (String × Value)} {c : Settings} :
    decode (.object fields) = .ok c ↔
      ∀ s : Setting, ofNode? s ((Value.object fields).field? s.key) = some (c s) := by
  have hobject : Settings.ofValue? (.object fields) =
      ofNodes? fun s => (Value.object fields).field? s.key := rfl
  rw [← ofNodes?_eq_some_iff, Settings.decode, hobject]
  cases (ofNodes? fun s => (Value.object fields).field? s.key) <;> simp

theorem Typed.decode_eq_ok_iff (h : Typed document) {c : Settings} :
    decode document = .ok c ↔
      ∀ s : Setting, (document.field? s.key).bind s.type.ofValue? = some (c s) := by
  obtain ⟨fields, hfields⟩ := h.isObject
  rw [hfields, decode_object_eq_ok_iff, ← hfields]
  refine forall_congr' fun s => ?_
  obtain ⟨v, hv⟩ := Option.isSome_iff_exists.mp (h.present s)
  rw [hv]
  rfl

/-- A node of the record that is null, or an object whose fields fit, can be read. -/
theorem Typed.exists_record (h : Typed document) :
    ∃ x, (document.field? Setting.verification.key).bind SettingType.verification.ofValue? =
      some x := by
  rcases h.record with hnull | ⟨fields, hobject⟩
  · rw [hnull]
    exact ⟨none, rfl⟩
  · have hleaf : ∀ p : Part, ∃ leaf : Leaf, leaf.kind = p.kind ∧
        ((Value.object fields).field? p.key).getD (VerificationSettings.default.part p).toValue =
          leaf.toValue := by
      intro p
      have hfits := h.conforms _ (SettingLeaf.part p).field_mem
      rw [SettingLeaf.get?_part, hobject, Option.bind_some] at hfits
      cases hnode : (Value.object fields).field? p.key with
      | none => exact ⟨_, VerificationSettings.kind_part _ p, rfl⟩
      | some v =>
        rcases hfits v hnode with ⟨hoptional, -⟩ | ⟨leaf, hkind, rfl⟩
        · cases hoptional
        · exact ⟨leaf, hkind, rfl⟩
    obtain ⟨r, hr⟩ := VerificationSettings.exists_part fun p => (hleaf p).choose_spec.1
    have hrecord : VerificationSettings.ofValue? (.object fields) = some r :=
      VerificationSettings.ofValue?_object_eq_some_iff.mpr fun p => by
        rw [hr p]
        exact (hleaf p).choose_spec.2
    refine ⟨some r, ?_⟩
    rw [hobject]
    show (VerificationSettings.ofValue? (.object fields)).map some = some (some r)
    rw [hrecord]
    rfl

/-- A tree that fits the settings can be read as settings. -/
theorem Typed.decode (h : Typed document) : ∃ c, decode document = .ok c := by
  have hread : ∀ s : Setting, ∃ x, (document.field? s.key).bind s.type.ofValue? = some x := by
    intro s
    by_cases hs : s.type = .verification
    · have heq := Setting.eq_verification hs
      subst heq
      exact h.exists_record
    · obtain ⟨v, hv⟩ := Option.isSome_iff_exists.mp (h.present s)
      have hfits := h.conforms _ (SettingLeaf.own s hs).field_mem v
      rw [SettingLeaf.get?_own] at hfits
      rw [hv]
      exact SettingType.exists_ofValue?_of_fits hs (hfits hv)
  exact ⟨fun s => (hread s).choose, h.decode_eq_ok_iff.mpr fun s => (hread s).choose_spec⟩

/-- Settings are read as they were written. -/
@[simp] theorem decode_toValue (c : Settings) : Settings.decode c.toValue = .ok c := by
  rw [(typed_toValue c).decode_eq_ok_iff]
  intro s
  rw [field?_toValue]
  exact s.type.ofValue?_toValue (c s)

/-- The only leaves that settings do not have are those of a record that is missing. -/
theorem get?_toValue_eq_none_iff {c : Settings} {f : Field} (hf : f ∈ Settings.shape.metadata) :
    c.toValue.get? f.path = none ↔
      (∃ p : Part, f = (SettingLeaf.part p).field) ∧ c .verification = none := by
  have hpart : ∀ p : Part,
      c.toValue.get? (SettingLeaf.part p).field.path = none ↔ c .verification = none := by
    intro p
    rw [SettingLeaf.get?_part, field?_toValue, Option.bind_some]
    cases c .verification with
    | none => exact iff_of_true rfl rfl
    | some r =>
      refine iff_of_false (fun h => ?_) (Option.some_ne_none r)
      cases (r.field?_toValue p).symm.trans h
  constructor
  · intro h
    obtain ⟨leaf, rfl⟩ := SettingLeaf.mem_metadata_iff.mp hf
    cases leaf with
    | own s hs =>
      rw [SettingLeaf.get?_own, field?_toValue] at h
      cases h
    | part p => exact ⟨⟨p, rfl⟩, (hpart p).mp h⟩
  · rintro ⟨⟨p, rfl⟩, h⟩
    exact (hpart p).mpr h

/-! ## Settings read from trees that fit -/

/-- The record is there, but the field in it is not. -/
def LeftOut (document : Value) (f : Field) : Prop :=
  document.get? f.path = none ∧
    ∃ fields, document.get? Setting.verification.key = some (.object fields)

/-- The record that is read from a tree: none for null, and for an object its fields, with the
defaults of the record where they are missing. -/
theorem Typed.record_of_decode (h : Typed document) {c : Settings}
    (hc : Settings.decode document = .ok c) :
    (document.field? Setting.verification.key = some .null ∧ c .verification = none) ∨
      ∃ fields r, document.field? Setting.verification.key = some (.object fields) ∧
        c .verification = some r ∧
        ∀ p : Part, ((Value.object fields).field? p.key).getD
          (VerificationSettings.default.part p).toValue = (r.part p).toValue := by
  have hread := h.decode_eq_ok_iff.mp hc .verification
  rcases h.record with hnull | ⟨fields, hobject⟩
  · rw [hnull] at hread
    exact .inl ⟨hnull, (Option.some.inj hread).symm⟩
  · rw [hobject] at hread
    obtain ⟨r, hr, hsome⟩ := Option.map_eq_some_iff.mp hread
    exact .inr ⟨fields, r, hobject, hsome.symm,
      VerificationSettings.ofValue?_object_eq_some_iff.mp hr⟩

theorem Typed.get?_own_toValue (h : Typed document) {c : Settings}
    (hc : Settings.decode document = .ok c) {s : Setting} (hs : s.type ≠ .verification) :
    c.toValue.get? (SettingLeaf.own s hs).field.path =
      document.get? (SettingLeaf.own s hs).field.path := by
  have hread := h.decode_eq_ok_iff.mp hc s
  obtain ⟨v, hv⟩ := Option.isSome_iff_exists.mp (h.present s)
  rw [hv] at hread
  rw [SettingLeaf.get?_own, SettingLeaf.get?_own, field?_toValue, hv,
    SettingType.toValue_of_ofValue? hs hread]

/-- The settings read from a tree hold its leaves, and the defaults of the record for those it
leaves out. -/
theorem Typed.get?_toValue (h : Typed document) {c : Settings}
    (hc : Settings.decode document = .ok c) {f : Field} (hf : f ∈ Settings.shape.metadata) :
    (LeftOut document f →
        c.toValue.get? f.path = VerificationSettings.default.toValue.field? f.tag) ∧
      (¬ LeftOut document f → c.toValue.get? f.path = document.get? f.path) := by
  obtain ⟨leaf, rfl⟩ := SettingLeaf.mem_metadata_iff.mp hf
  unfold LeftOut
  rw [SettingLeaf.get?_key]
  cases leaf with
  | own s hs =>
    refine ⟨?_, fun _ => h.get?_own_toValue hc hs⟩
    rintro ⟨hnone, -⟩
    have hpresent := h.present s
    rw [SettingLeaf.get?_own] at hnone
    rw [hnone] at hpresent
    cases hpresent
  | part p =>
    rw [SettingLeaf.get?_part, SettingLeaf.get?_part, field?_toValue, Option.bind_some]
    rcases h.record_of_decode hc with ⟨hnull, hr⟩ | ⟨fields, r, hobject, hr, hparts⟩
    · rw [hnull, hr]
      refine ⟨?_, fun _ => rfl⟩
      rintro ⟨-, fields, hfields⟩
      cases hfields
    · have hnode : (Setting.verification.type.toValue (some r)).field? p.key =
          some (((Value.object fields).field? p.key).getD
            (VerificationSettings.default.part p).toValue) := by
        rw [hparts p]
        exact r.field?_toValue p
      rw [hobject, hr, Option.bind_some, hnode]
      cases hmissing : (Value.object fields).field? p.key with
      | none =>
        refine ⟨fun _ => (VerificationSettings.field?_toValue _ p).symm, fun hout => ?_⟩
        exact absurd ⟨rfl, fields, rfl⟩ hout
      | some v =>
        refine ⟨fun hout => ?_, fun _ => rfl⟩
        cases hout.1

end Settings

end LayeredConfig
