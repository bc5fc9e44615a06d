import LayeredConfig.Proofs.Settings.Typed
import LayeredConfig.Proofs.Value.Ordered

/-
  Settings from documents with some keys left out and others that no setting has. Leaving keys out
  of an object of known fields takes just their values away (`field?_ofFields_without`), more keys
  change no other (`field?_extended`), and a change below one key is seen at that key alone
  (`field?_mapField`). As an object is read setting by setting, what is left out takes its default,
  at the root and in the verification record, and what no setting has is never read
  (`decode_fills_defaults`).
-/

namespace LayeredConfig

open VerificationSettings (Part)

/-! ## Objects with fewer and with more keys -/

namespace Value

/-- An object without some of its keys. What is no object has none. -/
def without (keys : List String) : Value → Value
  | .object fields => .object (fields.filter fun f => f.1 ∉ keys)
  | v => v

/-- An object with more keys set. What is no object takes none. -/
def extended (more : List (String × Value)) : Value → Value
  | .object fields => .object (more.foldl (fun acc f => insertField f.1 f.2 acc) fields)
  | v => v

/-- A tree with the value of a key changed, if there is one. -/
def mapField (key : String) (change : Value → Value) (v : Value) : Value :=
  match v.field? key with
  | some inner => v.setAt [key] (change inner)
  | none => v

variable {key : String} {keys : List String} {fields more : List (String × Value)}

theorem findField_filter (h : Sorted fields) (keys : List String) (key : String) :
    findField key (fields.filter fun f => f.1 ∉ keys) =
      if key ∈ keys then none else findField key fields := by
  have hfilter : Sorted (fields.filter fun f => f.1 ∉ keys) := List.Pairwise.filter _ h
  ext value
  rw [← mem_iff_findField hfilter, List.mem_filter]
  split
  · next hkey => simp [hkey]
  · next hkey => simp [hkey, mem_iff_findField h]

/-- Of an object made of fields, just the keys that are left out are missing. -/
theorem field?_ofFields_without (fields : List (String × Value)) (keys : List String)
    (key : String) : ((ofFields fields).without keys).field? key =
      if key ∈ keys then none else (ofFields fields).field? key :=
  findField_filter (sorted_foldl_insertField List.Pairwise.nil fields) keys key

/-- More keys change no other. -/
theorem field?_extended (h : key ∉ more.map Prod.fst) (v : Value) :
    (v.extended more).field? key = v.field? key := by
  cases v with
  | object fields => exact findField_foldl_insertField_of_not_mem h fields
  | _ => rfl

/-- A change below a key is seen at that key alone. -/
theorem field?_mapField (key other : String) (change : Value → Value) (v : Value) :
    (v.mapField key change).field? other =
      if other = key then (v.field? key).map change else v.field? other := by
  unfold mapField
  split
  · next inner hinner =>
    split
    · next heq => rw [heq, field?_setAt_self, hinner]; rfl
    · next hne => exact field?_setAt_of_ne hne _ _ _
  · next hnone =>
    split
    · next heq => rw [heq, hnone]; rfl
    · rfl

theorem mapField_object (key : String) (change : Value → Value) (fields : List (String × Value)) :
    ∃ fields', (Value.object fields).mapField key change = .object fields' := by
  unfold mapField
  split
  · exact ⟨_, rfl⟩
  · exact ⟨fields, rfl⟩

theorem mapField_of_not_object {v : Value} (h : v.fields? = none) (key : String)
    (change : Value → Value) : v.mapField key change = v := by
  rw [mapField, field?_eq_none h]

end Value

open Value

/-! ## Settings with some of them at their defaults -/

/-- The record with the given keys at their defaults. -/
def VerificationSettings.reset (r : VerificationSettings) (keys : List String) :
    VerificationSettings :=
  { verifyOnCreate := if verifyKey ∈ keys then default.verifyOnCreate else r.verifyOnCreate
    checksumAlgorithm :=
      if checksumKey ∈ keys then default.checksumAlgorithm else r.checksumAlgorithm }

/-- A value with the given keys below it at their defaults. Only the record has keys below it. -/
def SettingType.reset (keys : List String) : (t : SettingType) → t.Carrier → t.Carrier
  | .verification, x => x.map fun r => r.reset keys
  | .text, x | .flag, x | .number, x | .texts, x | .note, x => x

/-- The settings with the given keys at their defaults, and those below the record as well. -/
def Settings.reset (c : Settings) (keys inside : List String) : Settings :=
  fun s => if s.key ∈ keys then s.default else s.type.reset inside (c s)

theorem VerificationSettings.part_reset (r : VerificationSettings) (keys : List String) (p : Part) :
    (r.reset keys).part p = if p.key ∈ keys then default.part p else r.part p := by
  cases p with
  | verify => exact apply_ite Leaf.flag _ _ _
  | checksum => exact apply_ite Leaf.text _ _ _

theorem SettingType.reset_of_ne {t : SettingType} (h : t ≠ .verification) (keys : List String)
    (x : t.Carrier) : t.reset keys x = x := by
  cases t with
  | verification => exact absurd rfl h
  | _ => rfl

/-! ## Reading what is left -/

/-- The record without some of its keys is read with these at their defaults. -/
theorem VerificationSettings.ofValue?_without (r : VerificationSettings) (keys : List String) :
    ofValue? (r.toValue.without keys) = some (r.reset keys) := by
  have hobject : ∃ fields, r.toValue.without keys = .object fields := ⟨_, rfl⟩
  obtain ⟨fields, hfields⟩ := hobject
  rw [hfields, ofValue?_object_eq_some_iff, ← hfields]
  intro p
  have hnode := field?_ofFields_without
    [(verifyKey, .bool r.verifyOnCreate), (checksumKey, .string r.checksumAlgorithm)] keys p.key
  change (r.toValue.without keys).field? p.key =
    if p.key ∈ keys then none else r.toValue.field? p.key at hnode
  rw [hnode, part_reset]
  split
  · rfl
  · rw [r.field?_toValue p, Option.getD_some]

theorem SettingType.ofValue?_without (x : SettingType.verification.Carrier) (keys : List String) :
    SettingType.verification.ofValue? ((SettingType.verification.toValue x).without keys) =
      some (SettingType.verification.reset keys x) := by
  cases x with
  | none => rfl
  | some r =>
    show (VerificationSettings.ofValue? (r.toValue.without keys)).map some =
      some (some (r.reset keys))
    rw [r.ofValue?_without keys]
    rfl

namespace Settings

theorem field?_toValue_without (c : Settings) (keys : List String) (s : Setting) :
    (c.toValue.without keys).field? s.key =
      if s.key ∈ keys then none else some (s.type.toValue (c s)) := by
  rw [← field?_toValue]
  exact field?_ofFields_without _ keys s.key

/-- What is left out of the document of settings takes its default. -/
theorem decode_without (c : Settings) (keys inside : List String) :
    decode ((c.toValue.without keys).mapField Setting.verification.key (without inside)) =
      .ok (c.reset keys inside) := by
  have hobject : ∃ fields,
      (c.toValue.without keys).mapField Setting.verification.key (without inside) =
        .object fields := mapField_object _ _ _
  obtain ⟨fields, hfields⟩ := hobject
  rw [hfields, decode_object_eq_ok_iff, ← hfields]
  intro s
  rw [field?_mapField, field?_toValue_without, field?_toValue_without, reset]
  by_cases hkey : s.key = Setting.verification.key
  · obtain rfl := Setting.key_injective hkey
    rw [if_pos rfl]
    split
    · rfl
    · exact SettingType.ofValue?_without (c .verification) inside
  · have hs : s.type ≠ .verification := by
      intro htype
      rw [Setting.eq_verification htype] at hkey
      exact hkey rfl
    rw [if_neg hkey, SettingType.reset_of_ne hs]
    split
    · rfl
    · exact s.type.ofValue?_toValue (c s)

/-! ## Keys of no setting -/

variable {more moreInside : List (String × Value)}

/-- Objects are read alike when their nodes are. -/
theorem decode_congr {fields fields' : List (String × Value)}
    (h : ∀ s : Setting, ofNode? s ((Value.object fields).field? s.key) =
      ofNode? s ((Value.object fields').field? s.key)) :
    decode (.object fields) = decode (.object fields') := by
  have hread : ofNodes? (fun s => (Value.object fields).field? s.key) =
      ofNodes? fun s => (Value.object fields').field? s.key := by
    ext c
    rw [ofNodes?_eq_some_iff, ofNodes?_eq_some_iff]
    exact forall_congr' fun s => by rw [h s]
  simp only [decode, Settings.ofValue?, hread]

theorem decode_extended (h : ∀ f ∈ more, f.1 ∉ Setting.all.map Setting.key) (v : Value) :
    decode (v.extended more) = decode v := by
  have hkey : ∀ s : Setting, s.key ∉ more.map Prod.fst := by
    intro s hs
    obtain ⟨f, hf, hfs⟩ := List.mem_map.mp hs
    exact h f hf (hfs ▸ List.mem_map_of_mem s.mem_all)
  cases v with
  | object fields =>
    exact decode_congr fun s => congrArg (ofNode? s) (field?_extended (hkey s) (.object fields))
  | _ => rfl

/-- A change of the record that is read alike is not noticed. -/
theorem decode_mapField {change : Value → Value}
    (h : ∀ r, SettingType.verification.ofValue? (change r) = SettingType.verification.ofValue? r)
    (v : Value) : decode (v.mapField Setting.verification.key change) = decode v := by
  cases v with
  | object fields =>
    obtain ⟨fields', hfields⟩ := mapField_object Setting.verification.key change fields
    rw [hfields]
    refine decode_congr fun s => ?_
    rw [← hfields, field?_mapField]
    split
    · next hkey =>
      obtain rfl := Setting.key_injective hkey
      cases (Value.object fields).field? Setting.verification.key with
      | none => rfl
      | some r => exact h r
    · rfl
  | _ => rw [mapField_of_not_object rfl]

theorem ofValue?_extended
    (h : ∀ f ∈ moreInside, f.1 ∉ [VerificationSettings.verifyKey, VerificationSettings.checksumKey])
    (r : Value) : SettingType.verification.ofValue? (r.extended moreInside) =
      SettingType.verification.ofValue? r := by
  have hkey : ∀ key ∈ [VerificationSettings.verifyKey, VerificationSettings.checksumKey],
      key ∉ moreInside.map Prod.fst := by
    intro key hmem hin
    obtain ⟨f, hf, rfl⟩ := List.mem_map.mp hin
    exact h f hf hmem
  cases r with
  | object fields =>
    show (VerificationSettings.ofNodes? (((Value.object fields).extended moreInside).field? _)
        (((Value.object fields).extended moreInside).field? _)).map some = _
    rw [field?_extended (hkey _ List.mem_cons_self),
      field?_extended (hkey _ (List.mem_cons_of_mem _ List.mem_cons_self))]
    rfl
  | _ => rfl

/-- Settings are read from their document as they were written. When any keys are left out of the
document and of its record, these are read at their defaults and all others as they were. Keys
that no setting and no part of the record has change nothing, whatever they hold. -/
theorem decode_fills_defaults (c : Settings) :
    decode c.toValue = .ok c ∧
      (∀ keys inside,
        decode ((c.toValue.without keys).mapField Setting.verification.key (without inside)) =
          .ok (c.reset keys inside)) ∧
      ∀ v more moreInside, (∀ f ∈ more, f.1 ∉ Setting.all.map Setting.key) →
        (∀ f ∈ moreInside,
          f.1 ∉ [VerificationSettings.verifyKey, VerificationSettings.checksumKey]) →
        decode ((v.mapField Setting.verification.key (extended moreInside)).extended more) =
          decode v := by
  refine ⟨decode_toValue c, decode_without c, fun v more moreInside hmore hinside => ?_⟩
  rw [decode_extended hmore, decode_mapField (ofValue?_extended hinside)]

/-- Settings with a number and a record of their own. -/
def ownSettings : Settings :=
  (Settings.default.update .maxBackups (7 : Int64)).update .verification (some ⟨true, "md5"⟩)

/-- Their document without the number and the checksum. -/
def ownDocument : Value :=
  (ownSettings.toValue.without ["max_backups"]).mapField Setting.verification.key
    (without ["checksum_algorithm"])

/-- Keys that nearly are those left out do not stand in for them. -/
theorem decode_fills_defaults_own_document :
    (∀ f ∈ [("backups", Value.int 3)], f.1 ∉ Setting.all.map Setting.key) ∧
      (∀ f ∈ [("algorithm", Value.null)],
        f.1 ∉ [VerificationSettings.verifyKey, VerificationSettings.checksumKey]) ∧
      decode ((ownDocument.mapField Setting.verification.key
          (extended [("algorithm", .null)])).extended [("backups", .int 3)]) =
        .ok (ownSettings.reset ["max_backups"] ["checksum_algorithm"]) ∧
      ownSettings.reset ["max_backups"] ["checksum_algorithm"] .verification =
        some ⟨true, "sha256"⟩ := by
  have hmore : ∀ f ∈ [("backups", Value.int 3)], f.1 ∉ Setting.all.map Setting.key := by
    decide +kernel
  have hinside : ∀ f ∈ [("algorithm", Value.null)],
      f.1 ∉ [VerificationSettings.verifyKey, VerificationSettings.checksumKey] := by decide
  obtain ⟨-, hread, hforeign⟩ := decode_fills_defaults ownSettings
  refine ⟨hmore, hinside, ?_, rfl⟩
  rw [hforeign ownDocument _ _ hmore hinside]
  exact hread ["max_backups"] ["checksum_algorithm"]

end Settings

end LayeredConfig
