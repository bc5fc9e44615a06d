import LayeredConfig.Proofs.Merge.Rejection
import LayeredConfig.Proofs.Operation.Written
import LayeredConfig.Proofs.Settings.Typed
import Mathlib.Data.List.Induction

/-
  A complete file wins over everything before it. The operations of settings that are written as a
  file are the leaves of their tree, with a null for a record that is missing (`Written`). Each of
  them writes its value at its own place (`step_of_writes`), and the places lie apart, so all
  values stand in the document afterwards (`get?_writeAll`). What settings can be read from such a
  document is what was written (`decode_of_written`), whatever it held before
  (`complete_file_wins`).
-/

namespace LayeredConfig

open Value
open Yaml (Datum)
open VerificationSettings (Part)

/-! ## Operations that write -/

namespace Merge

variable {fields : List Field} {document : Value} {ops : List Operation} {op : Operation}

/-- The operation sets a leaf to a value that fits it, or clears a record. -/
inductive Writes (fields : List Field) (op : Operation) : Prop
  | leaf {f : Field} (hset : op.strategy = .set) (hf : f ∈ fields) (hpath : f.path = op.key)
    (hv : f.Fits op.value) : Writes fields op
  | record (hset : op.strategy = .set) (hpath : isRecordPath fields op.key = true)
    (hv : op.value = .null) : Writes fields op

/-- Such an operation is accepted, and its value stands at its key as it is. -/
theorem step_of_writes (hs : Separate fields) (hr : Readable fields document)
    (h : Writes fields op) (source : FilePath) :
    step document op fields source = (document.assign op.key op.value, none) := by
  have heffect : effect document op fields source = .assign op.value := by
    unfold effect
    cases h with
    | @leaf f hset hf hpath hv =>
      rw [(leafAt?_eq_some_iff hs).mpr ⟨hf, hpath⟩]
      obtain ⟨current, hcurrent⟩ := hr f hf
      rw [Field.valueIn, hpath] at hcurrent
      rcases hv with ⟨hopt, hnull⟩ | ⟨leaf, hkind, hleaf⟩
      · simp [leafEffect, clearEffect, hopt, hnull, hset, Value.isNull]
      · have hincoming : Leaf.ofValue? f.kind op.value = some leaf := by
          rw [← hkind, hleaf, Leaf.ofValue?_toValue]
        have hnull : op.value.isNull = false := by
          rw [hleaf]
          cases leaf <;> rfl
        have hcombine : op.strategy.combine current leaf = some leaf := by
          rw [hset]
          cases current <;> cases leaf <;> rfl
        simp [leafEffect, hnull, hincoming, hcurrent, hcombine, ← hleaf]
    | record hset hpath hv =>
      rw [leafAt?_of_isRecordPath hs hpath]
      simp [hpath, hv, hset, clearEffect, Value.isNull]
  rw [step, heffect]

/-- The document with the value of every operation at its key. -/
def writeAll (document : Value) (ops : List Operation) : Value :=
  ops.foldl (fun document op => document.assign op.key op.value) document

theorem apply_of_writes (hs : Separate fields) (hr : Readable fields document)
    (h : ∀ op ∈ ops, Writes fields op) (source : FilePath) :
    apply document ops fields source = (writeAll document ops, []) := by
  induction ops generalizing document with
  | nil => rfl
  | cons op rest ih =>
    have hstep := step_of_writes hs hr (h op List.mem_cons_self) source
    have hnext := readable_step hs hr op source
    rw [hstep] at hnext
    rw [apply_cons, hstep, ih hnext fun o ho => h o (List.mem_cons_of_mem op ho)]
    rfl

/-- Of operations at places that lie apart, each has its value in the end. -/
theorem get?_writeAll (document : Value)
    (hapart : ∀ a ∈ ops, ∀ b ∈ ops, a = b ∨ Apart (segments a.key) (segments b.key))
    (hop : op ∈ ops) : (writeAll document ops).get? op.key = some op.value := by
  -- from the end, because the last operation is written over what the others left
  induction ops using List.reverseRecOn with
  | nil => cases hop
  | append_singleton first last ih =>
    have hlast : last ∈ first ++ [last] := List.mem_append_right first (List.mem_singleton.mpr rfl)
    have hwrite : writeAll document (first ++ [last]) =
        (writeAll document first).assign last.key last.value := by
      simp [writeAll]
    rw [hwrite]
    rcases hapart last hlast op hop with rfl | hplaces
    · exact get?_assign_self _ _ _
    · have hfirst : op ∈ first := by
        rcases List.mem_append.mp hop with hfirst | hsame
        · exact hfirst
        · rw [List.mem_singleton.mp hsame] at hplaces
          exact absurd rfl hplaces.ne_path
      rw [get?_assign_of_apart _ _ hplaces]
      exact ih (fun a ha b hb => hapart a (List.mem_append_left _ ha) b (List.mem_append_left _ hb))
        hfirst

end Merge

/-! ## Keys without marks -/

@[simp] theorem Setting.ofKey_key (s : Setting) : Strategy.ofKey s.key = (.set, s.key) := by
  have h : ∀ s ∈ all, Strategy.ofKey s.key = (.set, s.key) := by decide +kernel
  exact h s s.mem_all

@[simp] theorem VerificationSettings.Part.ofKey_key (p : Part) :
    Strategy.ofKey p.key = (.set, p.key) := by
  cases p <;> decide +kernel

/-! ## Leaves of written settings -/

@[simp] theorem Leaf.fields?_toValue (leaf : Leaf) : leaf.toValue.fields? = none := by
  cases leaf <;> rfl

theorem VerificationSettings.exists_part_of_field?_toValue {r : VerificationSettings}
    {key : String} {v : Value} (h : r.toValue.field? key = some v) :
    ∃ p : Part, key = p.key ∧ v = (r.part p).toValue := by
  have hkey : ∃ p : Part, key = p.key := by
    have hmem : key ∈ [verifyKey, checksumKey] := key_mem_of_field?_ofFields h
    rcases List.mem_cons.mp hmem with hverify | hrest
    · exact ⟨.verify, hverify⟩
    · exact ⟨.checksum, List.mem_singleton.mp hrest⟩
  obtain ⟨p, rfl⟩ := hkey
  rw [field?_toValue] at h
  exact ⟨p, rfl, (Option.some.inj h).symm⟩

theorem VerificationSettings.exists_part_of_getAt? {r : VerificationSettings}
    {keys : List String} {v : Value} (h : r.toValue.getAt? keys = some v)
    (hleaf : v.fields? = none) : ∃ p : Part, keys = [p.key] ∧ v = (r.part p).toValue := by
  cases keys with
  | nil =>
    cases h
    cases hleaf
  | cons key rest =>
    rw [getAt?_cons] at h
    obtain ⟨node, hnode, hrest⟩ := Option.bind_eq_some_iff.mp h
    obtain ⟨p, rfl, rfl⟩ := exists_part_of_field?_toValue hnode
    obtain ⟨rfl, rfl⟩ := eq_nil_of_getAt? (r.part p).fields?_toValue hrest
    exact ⟨p, rfl, rfl⟩

namespace Settings

variable {c : Settings} {document : Value} {keys : List String} {v : Value}

theorem exists_setting_of_field?_toValue {key : String} (h : c.toValue.field? key = some v) :
    ∃ s : Setting, key = s.key ∧ v = s.type.toValue (c s) := by
  have hmem := key_mem_of_field?_ofFields h
  rw [List.map_map] at hmem
  obtain ⟨s, -, rfl⟩ := List.mem_map.mp hmem
  exact ⟨s, rfl, Option.some.inj (h.symm.trans (field?_toValue c s))⟩

theorem ordered_toValue (c : Settings) : c.toValue.Ordered := by
  refine Ordered.ofFields fun f hf => ?_
  obtain ⟨s, -, rfl⟩ := List.mem_map.mp hf
  show (s.type.toValue (c s)).Ordered
  generalize c s = x
  generalize s.type = t at x
  cases t with
  | text => exact .string x
  | flag => exact .bool x
  | number => exact .int _
  | texts =>
    refine .array fun v hv => ?_
    obtain ⟨text, -, rfl⟩ := List.mem_map.mp hv
    exact .string text
  | note =>
    cases x with
    | none => exact .null
    | some text => exact .string text
  | verification =>
    cases x with
    | none => exact .null
    | some r => exact Ordered.ofFields (by simp [Ordered.bool, Ordered.string])

/-- The leaves of the tree of settings, and the null of a record that is missing. -/
inductive Written (c : Settings) : List String → Value → Prop
  | own {s : Setting} (hs : s.type ≠ .verification) : Written c [s.key] (s.type.toValue (c s))
  | noRecord (h : c .verification = none) : Written c [Setting.verification.key] .null
  | part {r : VerificationSettings} (h : c .verification = some r) (p : Part) :
    Written c [Setting.verification.key, p.key] (r.part p).toValue

theorem fields?_toValue {s : Setting} (hs : s.type ≠ .verification) (x : s.type.Carrier) :
    (s.type.toValue x).fields? = none := by
  generalize s.type = t at hs x
  cases t with
  | verification => exact absurd rfl hs
  | note => cases x <;> rfl
  | _ => rfl

theorem written_of_getAt? (hne : keys ≠ []) (hv : c.toValue.getAt? keys = some v)
    (hleaf : v.fields? = none) : Written c keys v := by
  obtain ⟨key, rest, rfl⟩ := List.exists_cons_of_ne_nil hne
  rw [getAt?_cons] at hv
  obtain ⟨node, hnode, hrest⟩ := Option.bind_eq_some_iff.mp hv
  obtain ⟨s, rfl, rfl⟩ := exists_setting_of_field?_toValue hnode
  -- only the record has keys below its own, so any other path ends here
  by_cases hs : s.type = .verification
  · have heq := Setting.eq_verification hs
    subst heq
    cases hrecord : c .verification with
    | none =>
      rw [hrecord] at hrest
      obtain ⟨rfl, rfl⟩ := eq_nil_of_getAt? (v := .null) rfl hrest
      exact .noRecord hrecord
    | some r =>
      rw [hrecord] at hrest
      obtain ⟨p, rfl, rfl⟩ := VerificationSettings.exists_part_of_getAt? (r := r) hrest hleaf
      exact .part hrecord p
  · obtain ⟨rfl, rfl⟩ := eq_nil_of_getAt? (fields?_toValue hs (c s)) hrest
    exact .own hs

theorem Written.getAt? (h : Written c keys v) :
    keys ≠ [] ∧ c.toValue.getAt? keys = some v ∧ v.fields? = none := by
  cases h with
  | @own s hs =>
    exact ⟨List.cons_ne_nil _ _, (getAt?_singleton _ _).trans (field?_toValue c s),
      fields?_toValue hs (c s)⟩
  | noRecord h =>
    refine ⟨List.cons_ne_nil _ _, ?_, rfl⟩
    rw [getAt?_singleton, field?_toValue, h]
    rfl
  | @part r h p =>
    refine ⟨List.cons_ne_nil _ _, ?_, (r.part p).fields?_toValue⟩
    rw [getAt?_cons, field?_toValue, Option.bind_some, getAt?_singleton, h]
    exact r.field?_toValue p

/-- The keys of settings have neither marks nor dots. -/
theorem Written.segments_dotted (h : Written c keys v) :
    segments (Operation.dotted keys) = keys ∧ Operation.innermost? keys = none := by
  have hplain : ∀ s : Setting,
      Operation.plain s.key = s.key ∧ Operation.ownStrategy? s.key = none := fun s => by
    simp [Operation.plain, Operation.ownStrategy?]
  cases h with
  | @own s hs =>
    refine ⟨?_, by simp [Operation.innermost?, hplain s]⟩
    rw [Operation.dotted_singleton, (hplain s).1, s.segments_key]
  | noRecord h =>
    refine ⟨?_, by simp [Operation.innermost?, hplain .verification]⟩
    rw [Operation.dotted_singleton, (hplain .verification).1, Setting.segments_key]
  | part h p =>
    have hpart : Operation.plain p.key = p.key ∧ Operation.ownStrategy? p.key = none := by
      simp [Operation.plain, Operation.ownStrategy?]
    refine ⟨?_, by simp [Operation.innermost?, hplain .verification, hpart]⟩
    rw [Operation.dotted_cons _ (List.cons_ne_nil _ _), Operation.dotted_singleton,
      (hplain .verification).1, hpart.1, segments_append, Setting.segments_key, p.segments_key]
    rfl

theorem Written.writes (h : Written c keys v) :
    Merge.Writes Settings.shape.metadata ⟨.set, Operation.dotted keys, v⟩ := by
  have hsegments := h.segments_dotted.1
  cases h with
  | @own s hs =>
    refine .leaf rfl (SettingLeaf.own s hs).field_mem ?_ (SettingType.fits_toValue hs (c s))
    exact segments_injective ((SettingLeaf.segments_path _).trans hsegments.symm)
  | noRecord h =>
    refine .record rfl (SettingLeaf.isRecordPath_metadata_iff.mpr ?_) rfl
    exact segments_injective (hsegments.trans (Setting.segments_key _).symm)
  | @part r h p =>
    refine .leaf rfl (SettingLeaf.part p).field_mem ?_ (.inr ⟨r.part p, r.kind_part p, rfl⟩)
    exact segments_injective ((SettingLeaf.segments_path _).trans hsegments.symm)

/-- Two operations that are written are the same or lie apart. -/
theorem Written.eq_or_apart {p q : List String} {x y : Value} (hx : Written c p x)
    (hy : Written c q y) :
    (⟨.set, Operation.dotted p, x⟩ : Operation) = ⟨.set, Operation.dotted q, y⟩ ∨
      Apart (segments (Operation.dotted p)) (segments (Operation.dotted q)) := by
  obtain ⟨-, hxat, hxleaf⟩ := hx.getAt?
  obtain ⟨-, hyat, hyleaf⟩ := hy.getAt?
  rw [hx.segments_dotted.1, hy.segments_dotted.1]
  rcases eq_or_apart_of_getAt? hxat hxleaf hyat hyleaf with rfl | happart
  · cases hxat.symm.trans hyat
    exact .inl rfl
  · exact .inr happart

/-- The operations of settings that are written as a file are what is written. -/
theorem mem_operations_iff {fields : List (String × Value)} {ops : List Operation}
    (hfields : c.toValue = .object fields)
    (hops : Operation.collect (Datum.ofFields fields) = .ok ops) {op : Operation} :
    op ∈ ops ↔ ∃ keys v, Written c keys v ∧ op = ⟨.set, Operation.dotted keys, v⟩ := by
  have hordered := c.ordered_toValue
  rw [hfields] at hordered
  rw [Operation.mem_operations_iff hordered hops, ← hfields]
  constructor
  · rintro ⟨keys, v, hne, hv, hleaf, rfl⟩
    have hwritten := written_of_getAt? hne hv hleaf
    exact ⟨keys, v, hwritten, by rw [hwritten.segments_dotted.2, Option.getD_none]⟩
  · rintro ⟨keys, v, hwritten, rfl⟩
    obtain ⟨hne, hv, hleaf⟩ := hwritten.getAt?
    exact ⟨keys, v, hne, hv, hleaf, by rw [hwritten.segments_dotted.2, Option.getD_none]⟩

/-! ## Reading what was written -/

/-- A document that holds everything that is written is read as the settings. -/
theorem decode_of_written (h : Typed document)
    (hall : ∀ keys v, Written c keys v → document.getAt? keys = some v) :
    decode document = .ok c := by
  refine h.decode_eq_ok_iff.mpr fun s => ?_
  by_cases hs : s.type = .verification
  · have heq := Setting.eq_verification hs
    subst heq
    cases hrecord : c .verification with
    | none =>
      have hnode := hall _ _ (.noRecord hrecord)
      rw [getAt?_singleton] at hnode
      rw [hnode]
      rfl
    | some r =>
      have hpart : ∀ p : Part, (document.field? Setting.verification.key).bind
          (Value.field? · p.key) = some (r.part p).toValue := by
        intro p
        rw [← SettingLeaf.get?_part, Value.get?, SettingLeaf.segments_path]
        exact hall _ _ (.part hrecord p)
      rcases h.record with hnull | ⟨fields, hobject⟩
      · have hverify := hpart .verify
        rw [hnull] at hverify
        cases hverify
      · have hread : VerificationSettings.ofValue? (.object fields) = some r := by
          refine VerificationSettings.ofValue?_object_eq_some_iff.mpr fun p => ?_
          have hnode := hpart p
          rw [hobject, Option.bind_some] at hnode
          rw [hnode, Option.getD_some]
        rw [hobject]
        show (VerificationSettings.ofValue? (.object fields)).map some = some (some r)
        rw [hread]
        rfl
  · have hnode := hall _ _ (.own hs)
    rw [getAt?_singleton] at hnode
    rw [hnode]
    exact s.type.ofValue?_toValue (c s)

/-- The settings `c`, written as a file and merged into the document of any settings `b`: the tree
of `c` is a mapping that is read as the same tree, its operations are collected and all accepted,
and the merged document is read as exactly `c`. -/
theorem complete_file_wins (b c : Settings) (source : FilePath) :
    ∃ entries ops document,
      Datum.ofValue c.toValue = .mapping entries ∧
      (Datum.mapping entries).toValue = .ok c.toValue ∧
      Operation.collect entries = .ok ops ∧
      Merge.apply b.toValue ops Settings.shape.metadata source = (document, []) ∧
      decode document = .ok c := by
  have hs := SettingLeaf.separate_metadata
  have htyped := typed_toValue b
  have hordered := c.ordered_toValue
  obtain ⟨fields, hfields⟩ := (typed_toValue c).isObject
  have hmapping : Datum.ofValue c.toValue = .mapping (Datum.ofFields fields) := by
    rw [hfields, Datum.ofValue]
  have hvalue : (Datum.mapping (Datum.ofFields fields)).toValue = .ok c.toValue := by
    rw [← hmapping]
    exact Datum.toValue_ofValue hordered
  obtain ⟨ops, hops⟩ := Operation.exists_collect (hfields ▸ hordered)
  have hmem : ∀ op, op ∈ ops ↔ ∃ keys v, Written c keys v ∧ op = ⟨.set, Operation.dotted keys, v⟩ :=
    fun _ => mem_operations_iff hfields hops
  have hwrites : ∀ op ∈ ops, Merge.Writes Settings.shape.metadata op := by
    intro op hop
    obtain ⟨keys, v, hwritten, rfl⟩ := (hmem op).mp hop
    exact hwritten.writes
  have hplaces : ∀ a ∈ ops, ∀ b ∈ ops, a = b ∨ Apart (segments a.key) (segments b.key) := by
    intro a ha b hb
    obtain ⟨p, x, hx, rfl⟩ := (hmem a).mp ha
    obtain ⟨q, y, hy, rfl⟩ := (hmem b).mp hb
    exact hx.eq_or_apart hy
  have happly := Merge.apply_of_writes hs (htyped.conforms.readable hs) hwrites source
  have hdocument : Typed (Merge.writeAll b.toValue ops) := by
    have hkeeps : Typed (Merge.apply b.toValue ops Settings.shape.metadata source).1 :=
      Merge.apply_keeps Typed.change htyped ops source
    rw [happly] at hkeeps
    exact hkeeps
  -- what `b` had is gone: every leaf of `c` was written, and no later operation touched it
  refine ⟨_, ops, _, hmapping, hvalue, hops, happly, decode_of_written hdocument ?_⟩
  intro keys v hv
  have hread := Merge.get?_writeAll b.toValue hplaces ((hmem _).mpr ⟨keys, v, hv, rfl⟩)
  rw [Value.get?, hv.segments_dotted.1] at hread
  exact hread

end Settings

end LayeredConfig
