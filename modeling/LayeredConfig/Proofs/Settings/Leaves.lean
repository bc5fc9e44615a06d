import LayeredConfig.Proofs.Shape.Leaves
import LayeredConfig.Settings

/-
  The leaves of the settings. A leaf is a setting that is no record, or one of the two fields of the
  verification record (`mem_metadata_iff`), and its path tells which (`path_injective`). The shape
  of the settings is regular (`Settings.regular_shape`), so no leaf lies at or below the place of
  another (`separate_metadata`), and the only place above leaves is that of the record
  (`isRecordPath_metadata_iff`).
-/

namespace LayeredConfig

open Value

/-! ## Keys -/

namespace Setting

theorem mem_all (s : Setting) : s ∈ all := by
  cases s <;> decide

theorem nodup_all : all.Nodup := by decide

@[simp] theorem ofKey?_key (s : Setting) : ofKey? s.key = some s := by
  have h : ∀ s ∈ all, ofKey? s.key = some s := by decide +kernel
  exact h s s.mem_all

theorem key_injective {s t : Setting} (h : s.key = t.key) : s = t := by
  have hs := ofKey?_key s
  rw [h, ofKey?_key] at hs
  exact (Option.some.inj hs).symm

/-- A key is made of small letters and underscores. -/
theorem isLower_of_mem_key (s : Setting) {c : Char} (hc : c ∈ s.key.toList) :
    c.isLower = true ∨ c = '_' := by
  have hkey : (s.key.toList.all fun c => c.isLower || c == '_') = true := by
    cases s <;> decide +kernel
  simpa using List.all_eq_true.mp hkey c hc

theorem notMem_key (s : Setting) {c : Char} (hc : c.isLower = false) (hne : c ≠ '_') :
    c ∉ s.key.toList := by
  intro hmem
  rcases s.isLower_of_mem_key hmem with hlower | heq
  · exact Bool.false_ne_true (hc.symm.trans hlower)
  · exact hne heq

theorem dot_notMem_key (s : Setting) : '.' ∉ s.key.toList :=
  s.notMem_key (by decide) (by decide)

@[simp] theorem segments_key (s : Setting) : segments s.key = [s.key] :=
  segments_of_not_mem s.dot_notMem_key

theorem eq_verification {s : Setting} (h : s.type = .verification) : s = .verification := by
  cases s <;> first | rfl | cases h

end Setting

/-! ## Parts of the verification record -/

namespace VerificationSettings

/-- A field of the record. -/
inductive Part where
  | verify
  | checksum
  deriving DecidableEq

namespace Part

/-- The key of a field of the record. -/
def key : Part → String
  | .verify => verifyKey
  | .checksum => checksumKey

/-- The kind of a field of the record. -/
def kind : Part → Kind
  | .verify => .flag
  | .checksum => .text

theorem key_injective {p q : Part} (h : p.key = q.key) : p = q := by
  revert h
  cases p <;> cases q <;> decide

@[simp] theorem segments_key (p : Part) : segments p.key = [p.key] := by
  have hdot : '.' ∉ p.key.toList := by cases p <;> decide
  exact segments_of_not_mem hdot

end Part

end VerificationSettings

/-! ## Regularity -/

theorem SettingType.regular_shape (t : SettingType) : t.shape.Regular := by
  cases t with
  | verification =>
    simp [SettingType.shape, VerificationSettings.shape, VerificationSettings.verifyKey,
      VerificationSettings.checksumKey, Shape.Regular, Shape.FieldsRegular, Shape.isOptional]
  | _ => simp [SettingType.shape, Shape.Regular, Shape.isOptional]

/-- The shape of the settings is regular. -/
theorem Settings.regular_shape : Settings.shape.Regular := by
  rw [Settings.shape, Shape.Regular, Shape.fieldsRegular_iff]
  constructor
  · rw [List.map_map]
    exact Setting.nodup_all.map fun s t h => Setting.key_injective h
  · intro d hd
    obtain ⟨s, -, rfl⟩ := List.mem_map.mp hd
    exact ⟨s.dot_notMem_key, s.type.regular_shape⟩

/-! ## Leaves of the settings -/

open VerificationSettings (Part)

/-- The kind of a setting, looking through optional types. -/
def SettingType.kind : SettingType → Kind
  | .text => .text
  | .flag => .flag
  | .number => .number
  | .texts => .textList
  | .note => .text
  | .verification => .record

/-- The place of a leaf of the settings. -/
inductive SettingLeaf where
  | own (s : Setting) (h : s.type ≠ .verification)
  | part (p : Part)

namespace SettingLeaf

/-- The keys that lead to a leaf. -/
def keys : SettingLeaf → List String
  | .own s _ => [s.key]
  | .part p => [Setting.verification.key, p.key]

/-- The field of a leaf. -/
def field : SettingLeaf → Field
  | .own s _ =>
    { name := s.key
      tag := s.key
      kind := s.type.kind
      category := .ofFieldName s.key
      path := s.key
      isOptional := s.type.shape.isOptional
      isList := s.type.shape.isList
      isRecord := false
      value := none }
  | .part p =>
    { name := p.key
      tag := p.key
      kind := p.kind
      category := .ofFieldName Setting.verification.key
      path := Setting.verification.key ++ "." ++ p.key
      isOptional := false
      isList := false
      isRecord := false
      value := none }

theorem leavesOfField_own {s : Setting} (h : s.type ≠ .verification) :
    Shape.leavesOfField s.key s.key none none s.type.shape = [(own s h).field] := by
  unfold field
  dsimp only
  generalize s.key = key
  generalize s.type = t at h ⊢
  cases t with
  | verification => exact absurd rfl h
  | text => rfl
  | flag => rfl
  | number => rfl
  | texts => rfl
  | note => rfl

theorem leavesOfField_verification :
    Shape.leavesOfField Setting.verification.key Setting.verification.key none none
      SettingType.verification.shape = [(part .verify).field, (part .checksum).field] := rfl

/-- The fields of the settings are those of their leaves. -/
theorem mem_metadata_iff {f : Field} :
    f ∈ Settings.shape.metadata ↔ ∃ leaf : SettingLeaf, f = leaf.field := by
  rw [Settings.shape, Shape.metadata, mem_sortBy, Shape.mem_leavesOfFields]
  constructor
  · rintro ⟨d, hd, hf⟩
    obtain ⟨s, -, rfl⟩ := List.mem_map.mp hd
    by_cases h : s.type = .verification
    · have hs := Setting.eq_verification h
      subst hs
      have hmem : f ∈ [(part .verify).field, (part .checksum).field] :=
        leavesOfField_verification ▸ hf
      rcases List.mem_cons.mp hmem with rfl | hrest
      · exact ⟨.part .verify, rfl⟩
      · exact ⟨.part .checksum, List.mem_singleton.mp hrest⟩
    · rw [leavesOfField_own h] at hf
      exact ⟨.own s h, List.mem_singleton.mp hf⟩
  · rintro ⟨leaf, rfl⟩
    cases leaf with
    | own s h =>
      refine ⟨_, List.mem_map.mpr ⟨s, s.mem_all, rfl⟩, ?_⟩
      rw [leavesOfField_own h]
      exact List.mem_singleton.mpr rfl
    | part p =>
      refine ⟨_, List.mem_map.mpr ⟨.verification, Setting.mem_all _, rfl⟩, ?_⟩
      have hmem : (part p).field ∈ [(part .verify).field, (part .checksum).field] := by
        cases p with
        | verify => exact List.mem_cons_self
        | checksum => exact List.mem_cons_of_mem _ List.mem_cons_self
      exact leavesOfField_verification ▸ hmem

theorem field_mem (leaf : SettingLeaf) : leaf.field ∈ Settings.shape.metadata :=
  mem_metadata_iff.mpr ⟨leaf, rfl⟩

/-! ## Places of leaves -/

theorem segments_path (leaf : SettingLeaf) : segments leaf.field.path = leaf.keys := by
  cases leaf with
  | own s h => exact s.segments_key
  | part p =>
    show segments (Setting.verification.key ++ "." ++ p.key) = [Setting.verification.key, p.key]
    rw [segments_append, Setting.segments_key, p.segments_key]
    rfl

/-- The path tells the leaf. -/
theorem path_injective {leaf leaf' : SettingLeaf}
    (h : leaf.field.path = leaf'.field.path) : leaf = leaf' := by
  have hkeys : leaf.keys = leaf'.keys := by
    rw [← leaf.segments_path, h, leaf'.segments_path]
  cases leaf with
  | own s hs =>
    cases leaf' with
    | own t ht =>
      obtain rfl := Setting.key_injective (List.cons.inj hkeys).1
      rfl
    | part q => cases (List.cons.inj hkeys).2
  | part p =>
    cases leaf' with
    | own t ht => cases (List.cons.inj hkeys).2
    | part q =>
      obtain rfl := VerificationSettings.Part.key_injective
        (List.cons.inj (List.cons.inj hkeys).2).1
      rfl

theorem key_ne_verification {s : Setting} (h : s.type ≠ .verification) :
    s.key ≠ Setting.verification.key := by
  intro heq
  have hs := Setting.key_injective heq
  subst hs
  exact h rfl

/-- The fields of the settings lie apart. -/
theorem separate_metadata : Merge.Separate Settings.shape.metadata :=
  Shape.separate_metadata Settings.regular_shape

/-- Only the place of the verification record lies above leaves. -/
theorem isRecordPath_metadata_iff {path : String} :
    Merge.isRecordPath Settings.shape.metadata path = true ↔
      path = Setting.verification.key := by
  rw [Merge.isRecordPath_iff]
  constructor
  · rintro ⟨f, hf, rest, hpath⟩
    obtain ⟨leaf, rfl⟩ := mem_metadata_iff.mp hf
    have hkeys : leaf.keys = segments path ++ segments rest := by
      rw [← leaf.segments_path, hpath, segments_append]
    obtain ⟨key, more, hsegments⟩ := List.exists_cons_of_ne_nil (segments_ne_nil path)
    obtain ⟨last, final, hlast⟩ := List.exists_cons_of_ne_nil (segments_ne_nil rest)
    rw [hsegments, hlast] at hkeys
    have hkey : [key] = [Setting.verification.key] ∧ more = [] := by
      cases leaf with
      | own s h => simp [keys] at hkeys
      | part p => cases more <;> simp_all [keys]
    rw [hkey.2, hkey.1, ← Setting.segments_key] at hsegments
    exact segments_injective hsegments
  · rintro rfl
    exact ⟨(part .verify).field, field_mem _, Part.verify.key, rfl⟩

/-! ## Nodes of leaves -/

theorem get?_own (document : Value) (s : Setting) (h : s.type ≠ .verification) :
    document.get? (own s h).field.path = document.field? s.key := by
  rw [get?, segments_path, keys, getAt?_singleton]

theorem get?_part (document : Value) (p : Part) :
    document.get? (part p).field.path =
      (document.field? Setting.verification.key).bind (Value.field? · p.key) := by
  rw [get?, segments_path, keys, getAt?_cons]
  congr 1
  funext inner
  exact getAt?_singleton inner p.key

theorem get?_key (document : Value) (s : Setting) :
    document.get? s.key = document.field? s.key := by
  rw [get?, Setting.segments_key, getAt?_singleton]

end SettingLeaf

end LayeredConfig
