import LayeredConfig.Proofs.Merge.Writes
import LayeredConfig.Proofs.Resolution.Layers

/-
  Merging settings over settings, leaf by leaf. A leaf is taken over when its value is not the
  default and it is there, which the leaves of a missing verification record are not (`Takes`), and
  otherwise it stays as it was. One thing more can happen to a leaf that stays: where there was no
  record and the other leaf of it is taken over, the record that comes into being has its own
  default for this one (`Creates`). `merge_takes_leaves` says so of all settings.
-/

namespace LayeredConfig.Resolution

open Value
open VerificationSettings (Part)

variable {result loaded defaults c : Settings} {f : Field}

/-! ## Leaves that are missing or taken over -/

/-- The leaf is one of the verification record, and the settings have no such record. -/
def Lacks (c : Settings) (f : Field) : Prop :=
  (∃ p : Part, f = (SettingLeaf.part p).field) ∧ c .verification = none

/-- The leaf is taken over: its value is not the default, and it is not missing. -/
def Takes (loaded defaults : Settings) (f : Field) : Prop :=
  f.valueIn loaded.toValue ≠ f.valueIn defaults.toValue ∧ ¬ Lacks loaded f

/-- A leaf of the record is taken over into settings that have no record. -/
def Creates (result loaded defaults : Settings) : Prop :=
  ∃ f ∈ fields, Lacks result f ∧ Takes loaded defaults f

theorem lacks_iff (hf : f ∈ fields) : Lacks c f ↔ c.toValue.get? f.path = none :=
  (Settings.get?_toValue_eq_none_iff hf).symm

/-- The leaves that are taken over are those that have a node to copy. -/
theorem takes_iff (hf : f ∈ fields) :
    Takes loaded defaults f ↔ Merge.copied? loaded.toValue defaults.toValue f ≠ none := by
  rw [Takes, lacks_iff hf, Merge.copied?]
  split
  · next hsame => exact iff_of_false (fun h => h.1 hsame) fun h => h rfl
  · next hdiffer => exact and_iff_right hdiffer

/-! ## The merged tree -/

theorem get?_of_takes (hf : f ∈ fields) (h : Takes loaded defaults f) (result : Settings) :
    (Merge.overDefaults result.toValue loaded.toValue defaults.toValue fields).get? f.path =
      loaded.toValue.get? f.path := by
  have hcopied : Merge.copied? loaded.toValue defaults.toValue f = loaded.toValue.get? f.path :=
    if_neg h.1
  obtain ⟨v, hv⟩ := Option.ne_none_iff_exists'.mp ((takes_iff hf).mp h)
  rw [Merge.get?_overDefaults separate_fields hf, ← hcopied, hv, Option.some_or]

theorem get?_of_not_takes (hf : f ∈ fields) (h : ¬ Takes loaded defaults f) (result : Settings) :
    (Merge.overDefaults result.toValue loaded.toValue defaults.toValue fields).get? f.path =
      result.toValue.get? f.path := by
  rw [takes_iff hf, not_not] at h
  rw [Merge.get?_overDefaults separate_fields hf, h, Option.none_or]

/-- Where there was no record, the merged tree has one exactly when a leaf of it is taken over. -/
theorem exists_record_iff (h : result .verification = none) :
    (∃ inner, (Merge.overDefaults result.toValue loaded.toValue defaults.toValue fields).get?
        Setting.verification.key = some (.object inner)) ↔ Creates result loaded defaults := by
  constructor
  · rintro ⟨inner, hinner⟩
    by_contra hnone
    -- only leaves outside the record are written, so the null stays
    have hapart : ∀ f ∈ fields, Merge.copied? loaded.toValue defaults.toValue f ≠ none →
        Apart (segments f.path) (segments Setting.verification.key) := by
      intro f hf hcopied
      have htakes := (takes_iff hf).mpr hcopied
      obtain ⟨leaf, rfl⟩ := SettingLeaf.mem_metadata_iff.mp hf
      cases leaf with
      | own s hs =>
        rw [SettingLeaf.segments_path, Setting.segments_key]
        exact apart_of_head_ne (SettingLeaf.key_ne_verification hs) [] []
      | part p => exact absurd ⟨_, hf, ⟨⟨p, rfl⟩, h⟩, htakes⟩ hnone
    rw [Merge.overDefaults_eq_writeLeaves separate_fields, Merge.get?_writeLeaves_of_apart hapart,
      SettingLeaf.get?_key, Settings.field?_toValue, h] at hinner
    cases hinner
  · rintro ⟨f, hf, ⟨⟨p, rfl⟩, -⟩, htakes⟩
    have hnode := get?_of_takes hf htakes result
    have hpresent : loaded.toValue.get? (SettingLeaf.part p).field.path ≠ none :=
      fun hnone => htakes.2 ((lacks_iff hf).mpr hnone)
    rw [← hnode, SettingLeaf.get?_part] at hpresent
    rw [SettingLeaf.get?_key]
    rcases (typed_overDefaults result loaded defaults).record with hnull | hobject
    · rw [hnull] at hpresent
      exact absurd rfl hpresent
    · exact hobject

/-- A leaf that is not taken over is left out of a record exactly when it was missing and the
record comes into being. -/
theorem leftOut_iff (hf : f ∈ fields) (h : ¬ Takes loaded defaults f) :
    Settings.LeftOut (Merge.overDefaults result.toValue loaded.toValue defaults.toValue fields) f ↔
      Lacks result f ∧ Creates result loaded defaults := by
  rw [Settings.LeftOut, get?_of_not_takes hf h, ← lacks_iff hf]
  exact and_congr_right fun hlacks => exists_record_iff hlacks.2

/-! ## Merged settings -/

theorem valueIn_of_takes (hc : mergeSettings result loaded defaults = .ok c) (hf : f ∈ fields)
    (h : Takes loaded defaults f) : f.valueIn c.toValue = f.valueIn loaded.toValue := by
  have hnode := get?_of_takes hf h result
  unfold Field.valueIn
  rw [((typed_overDefaults result loaded defaults).get?_toValue hc hf).2, hnode]
  rintro ⟨hmissing, -⟩
  exact h.2 ((lacks_iff hf).mpr (hnode.symm.trans hmissing))

theorem valueIn_of_not_takes (hc : mergeSettings result loaded defaults = .ok c)
    (hf : f ∈ fields) (h : ¬ Takes loaded defaults f)
    (hstays : ¬ (Lacks result f ∧ Creates result loaded defaults)) :
    f.valueIn c.toValue = f.valueIn result.toValue := by
  unfold Field.valueIn
  rw [((typed_overDefaults result loaded defaults).get?_toValue hc hf).2
    fun hout => hstays ((leftOut_iff hf h).mp hout), get?_of_not_takes hf h]

theorem valueIn_of_creates (hc : mergeSettings result loaded defaults = .ok c) {p : Part}
    (h : ¬ Takes loaded defaults (SettingLeaf.part p).field) (hrecord : result .verification = none)
    (hcreates : Creates result loaded defaults) :
    (SettingLeaf.part p).field.valueIn c.toValue = some (VerificationSettings.default.part p) := by
  have hf := (SettingLeaf.part p).field_mem
  have hout := (leftOut_iff hf h).mpr ⟨⟨⟨p, rfl⟩, hrecord⟩, hcreates⟩
  have hnode : VerificationSettings.default.toValue.field? (SettingLeaf.part p).field.tag =
      some (VerificationSettings.default.part p).toValue :=
    VerificationSettings.default.field?_toValue p
  have hkind : (SettingLeaf.part p).field.kind = (VerificationSettings.default.part p).kind :=
    (VerificationSettings.default.kind_part p).symm
  unfold Field.valueIn
  rw [((typed_overDefaults result loaded defaults).get?_toValue hc hf).1 hout, hnode, hkind,
    Leaf.ofNode?_toValue]

/-- Merging is a choice for each leaf. Whatever settings are merged over settings, with whatever
defaults, and whether or not each of the three has a note and a record: the merge succeeds. A leaf
that is taken over has the loaded value. Any other leaf has the value it had, except that of a
record that was missing and comes into being the leaf that is not taken over has the default of the
record. -/
theorem merge_takes_leaves (result loaded defaults : Settings) :
    ∃ c, mergeSettings result loaded defaults = .ok c ∧ ∀ f ∈ fields,
      (Takes loaded defaults f → f.valueIn c.toValue = f.valueIn loaded.toValue) ∧
      (¬ Takes loaded defaults f → ¬ (Lacks result f ∧ Creates result loaded defaults) →
        f.valueIn c.toValue = f.valueIn result.toValue) ∧
      (¬ Takes loaded defaults f → Lacks result f → Creates result loaded defaults →
        ∃ p : Part, f = (SettingLeaf.part p).field ∧
          f.valueIn c.toValue = some (VerificationSettings.default.part p)) := by
  obtain ⟨c, hc⟩ := exists_mergeSettings result loaded defaults
  refine ⟨c, hc, fun f hf => ⟨valueIn_of_takes hc hf, valueIn_of_not_takes hc hf, ?_⟩⟩
  rintro h ⟨⟨p, rfl⟩, hrecord⟩ hcreates
  exact ⟨p, rfl, valueIn_of_creates hc h hrecord hcreates⟩

/-! ## Records that are missing -/

theorem valueIn_part (p : Part) (c : Settings) : (SettingLeaf.part p).field.valueIn c.toValue =
    match c .verification with
    | some r => some (r.part p)
    | none => Leaf.zero? p.kind := by
  rw [Field.valueIn, SettingLeaf.get?_part, Settings.field?_toValue, Option.bind_some]
  cases c .verification with
  | none => rfl
  | some r =>
    have hkind : (SettingLeaf.part p).field.kind = (r.part p).kind := (r.kind_part p).symm
    have hnode : (Setting.verification.type.toValue (some r)).field? p.key =
        some (r.part p).toValue := r.field?_toValue p
    rw [hnode, hkind, Leaf.ofNode?_toValue]

theorem takes_part_iff {p : Part} {r : VerificationSettings}
    (hloaded : loaded .verification = some r) {d : VerificationSettings}
    (hdefaults : defaults .verification = some d) :
    Takes loaded defaults (SettingLeaf.part p).field ↔ r.part p ≠ d.part p := by
  have hpresent : ¬ Lacks loaded (SettingLeaf.part p).field := by
    rintro ⟨-, hnone⟩
    rw [hloaded] at hnone
    cases hnone
  rw [Takes, valueIn_part, valueIn_part, hloaded, hdefaults, and_iff_left hpresent]
  exact not_congr Option.some_inj

/-- A record that is missing from what is loaded has no say. -/
theorem valueIn_part_of_missing (hc : mergeSettings result loaded defaults = .ok c)
    (hloaded : loaded .verification = none) (p : Part) :
    (SettingLeaf.part p).field.valueIn c.toValue =
      (SettingLeaf.part p).field.valueIn result.toValue := by
  refine valueIn_of_not_takes hc (SettingLeaf.part p).field_mem
    (fun h => h.2 ⟨⟨p, rfl⟩, hloaded⟩) ?_
  rintro ⟨-, f, -, ⟨hpart, -⟩, htakes⟩
  exact htakes.2 ⟨hpart, hloaded⟩

/-- The default settings with a record, or without one. -/
def withRecord (record : Option VerificationSettings) : Settings :=
  Settings.default.update .verification record

/-- The checksum algorithm reads as empty where the record is missing. If it is missing from what is
loaded, it differs from the default and yet stays. If it is missing from the result, it changes
although what is loaded has the default. -/
theorem missing_record_is_no_choice :
    (∃ c, mergeSettings (withRecord (some ⟨true, "md5"⟩)) (withRecord none) Settings.default =
        .ok c ∧
      (SettingLeaf.part .checksum).field.valueIn (withRecord none).toValue ≠
        (SettingLeaf.part .checksum).field.valueIn Settings.default.toValue ∧
      (SettingLeaf.part .checksum).field.valueIn c.toValue ≠
        (SettingLeaf.part .checksum).field.valueIn (withRecord none).toValue) ∧
    ∃ c, mergeSettings (withRecord none) (withRecord (some ⟨true, "sha256"⟩)) Settings.default =
        .ok c ∧
      (SettingLeaf.part .checksum).field.valueIn (withRecord (some ⟨true, "sha256"⟩)).toValue =
        (SettingLeaf.part .checksum).field.valueIn Settings.default.toValue ∧
      (SettingLeaf.part .checksum).field.valueIn c.toValue ≠
        (SettingLeaf.part .checksum).field.valueIn (withRecord none).toValue := by
  have hdefault : Settings.default .verification = some VerificationSettings.default := rfl
  have hrecord : ∀ r, withRecord r .verification = r := fun _ => rfl
  constructor
  · obtain ⟨c, hc⟩ :=
      exists_mergeSettings (withRecord (some ⟨true, "md5"⟩)) (withRecord none) Settings.default
    refine ⟨c, hc, ?_, ?_⟩
    · rw [valueIn_part, valueIn_part, hrecord, hdefault]
      decide
    · rw [valueIn_part_of_missing hc (hrecord none), valueIn_part, valueIn_part, hrecord, hrecord]
      decide
  · obtain ⟨c, hc⟩ :=
      exists_mergeSettings (withRecord none) (withRecord (some ⟨true, "sha256"⟩)) Settings.default
    have htakes : ∀ p : Part, Takes (withRecord (some ⟨true, "sha256"⟩)) Settings.default
        (SettingLeaf.part p).field ↔
          (VerificationSettings.mk true "sha256").part p ≠ VerificationSettings.default.part p :=
      fun p => takes_part_iff (hrecord _) hdefault
    have hcreates :
        Creates (withRecord none) (withRecord (some ⟨true, "sha256"⟩)) Settings.default :=
      ⟨_, (SettingLeaf.part .verify).field_mem, ⟨⟨.verify, rfl⟩, hrecord none⟩,
        (htakes .verify).mpr (by decide)⟩
    have hstays : ¬ Takes (withRecord (some ⟨true, "sha256"⟩)) Settings.default
        (SettingLeaf.part .checksum).field := fun h => (htakes .checksum).mp h rfl
    refine ⟨c, hc, ?_, ?_⟩
    · rw [valueIn_part, valueIn_part, hrecord, hdefault]
      rfl
    · rw [valueIn_of_creates hc hstays (hrecord none) hcreates, valueIn_part, hrecord]
      decide

end LayeredConfig.Resolution
