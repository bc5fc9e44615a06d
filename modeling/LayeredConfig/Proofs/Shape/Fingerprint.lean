import LayeredConfig.Proofs.Text.Utf8
import LayeredConfig.Shape.Fingerprint

/-
  The bytes of a shape can be read back, so a fingerprint stands for one shape.

  A name without NUL can be cut off the front of a longer byte list, for its zero byte is the first
  one there (`nameBytes_append_inj`). The first two names of a shape give its form and so what comes
  next (`bytes_eq`), and the closing brace after the fields of a record begins no declared name
  (`closingByte_cons_ne`). `bytes_append_inj` puts these together by induction over the shape, in
  front of any bytes that follow, and `fingerprint_separates` is the result.
-/

namespace LayeredConfig

/-! ## Hexadecimal text -/

namespace Sha256

theorem digitChar_inj : ∀ m < 16, ∀ n < 16, Nat.digitChar m = Nat.digitChar n → m = n := by
  decide

/-- Two byte lists with the same hexadecimal text are equal. -/
theorem hexText_injective {bytes other : List UInt8} (h : hexText bytes = hexText other) :
    bytes = other := by
  unfold hexText at h
  replace h := String.ofList_injective h
  induction bytes generalizing other with
  | nil =>
    cases other with
    | nil => rfl
    | cons b rest => simp at h
  | cons a more ih =>
    cases other with
    | nil => simp at h
    | cons b rest =>
      simp only [List.flatMap_cons, List.cons_append, List.nil_append, List.cons.injEq] at h
      obtain ⟨hhigh, hlow, hrest⟩ := h
      have ha := a.toNat_lt
      have hb := b.toNat_lt
      have hdiv := digitChar_inj _ (by omega) _ (by omega) hhigh
      have hmod := digitChar_inj _ (by omega) _ (by omega) hlow
      rw [ih hrest, UInt8.toNat_inj.mp (show a.toNat = b.toNat by omega)]

end Sha256

namespace Shape

/-! ## Shapes with plain names -/

/-- A name as declarations have it: without NUL and without a closing brace. -/
def IsPlainName (name : String) : Prop := '\x00' ∉ name.toList ∧ '}' ∉ name.toList

mutual

/-- At every depth the names of records and of declared fields are plain, and no tag holds NUL. -/
def WellNamed : Shape → Prop
  | .text | .flag | .number => True
  | .list element => element.WellNamed
  | .optional inner => inner.WellNamed
  | .record name fields => IsPlainName name ∧ FieldsWellNamed fields

/-- The fields of a record are well named. -/
def FieldsWellNamed : List (Declared Shape) → Prop
  | [] => True
  | ⟨name, tag, shape⟩ :: rest =>
    IsPlainName name ∧ '\x00' ∉ tag.toList ∧ shape.WellNamed ∧ FieldsWellNamed rest

end

/-- The name of the type of a well-named shape holds no NUL. -/
theorem WellNamed.typeName {shape : Shape} (h : shape.WellNamed) :
    '\x00' ∉ shape.typeName.toList := by
  cases shape with
  | record name fields =>
    rw [WellNamed] at h
    exact h.1.1
  | _ => simp [Shape.typeName]

theorem zero_notMem_formName (shape : Shape) : '\x00' ∉ shape.formName.toList := by
  cases shape <;> simp [formName]

/-! ## Names in front of other bytes -/

/-- Two byte lists are cut at the first of their separators in only one way. -/
theorem append_cons_inj {sep : UInt8} {a b u v : List UInt8} (ha : sep ∉ a) (hb : sep ∉ b)
    (h : a ++ sep :: u = b ++ sep :: v) : a = b ∧ u = v := by
  induction a generalizing b with
  | nil =>
    cases b with
    | nil => exact ⟨rfl, (List.cons.inj h).2⟩
    | cons y b =>
      have hy : sep = y := (List.cons.inj h).1
      exact absurd (hy ▸ List.mem_cons_self) hb
  | cons x a ih =>
    cases b with
    | nil =>
      have hx : x = sep := (List.cons.inj h).1
      exact absurd (hx ▸ List.mem_cons_self) ha
    | cons y b =>
      obtain ⟨rfl, hrest⟩ := List.cons.inj h
      obtain ⟨rfl, huv⟩ := ih (fun hm => ha (List.mem_cons_of_mem _ hm))
        (fun hm => hb (List.mem_cons_of_mem _ hm)) hrest
      exact ⟨rfl, huv⟩

/-- A name without NUL can be read off the front of a byte list. -/
theorem nameBytes_append_inj {s t : String} {u v : List UInt8} (hs : '\x00' ∉ s.toList)
    (ht : '\x00' ∉ t.toList) (h : nameBytes s ++ u = nameBytes t ++ v) : s = t ∧ u = v := by
  have zero (r : String) (hr : '\x00' ∉ r.toList) : (0 : UInt8) ∉ Text.utf8 r := fun hm =>
    hr (Text.mem_of_mem_utf8 (c := '\x00') (by decide) hm)
  simp only [nameBytes, List.append_assoc, List.singleton_append] at h
  obtain ⟨hst, huv⟩ := append_cons_inj (zero s hs) (zero t ht) h
  exact ⟨Text.utf8_injective hst, huv⟩

/-- No plain name begins with the closing brace of a record. -/
theorem closingByte_cons_ne {name : String} (h : '}' ∉ name.toList) (u v : List UInt8) :
    closingByte :: u ≠ nameBytes name ++ v := by
  intro heq
  have hmem : closingByte ∈ nameBytes name := by
    cases hn : nameBytes name with
    | nil => simp [nameBytes] at hn
    | cons b rest =>
      rw [hn, List.cons_append] at heq
      rw [(List.cons.inj heq).1]
      exact List.mem_cons_self
  rcases List.mem_append.mp hmem with hm | hm
  · exact h (Text.mem_of_mem_utf8 (c := '}') (by decide) hm)
  · exact absurd (List.mem_singleton.mp hm) (by decide)

/-! ## Reading a shape back -/

/-- The bytes of a shape after its two names. -/
def bodyBytes : Shape → List UInt8
  | .text | .flag | .number => []
  | .list shape | .optional shape => shape.bytes
  | .record _ fields => fieldBytes fields ++ [closingByte]

theorem bytes_eq (shape : Shape) :
    shape.bytes = nameBytes shape.typeName ++ (nameBytes shape.formName ++ shape.bodyBytes) := by
  cases shape <;> simp [bytes, bodyBytes, typeName, formName]

/-- Equal bytes in front of any others begin with the same two names. -/
theorem names_of_bytes_append {s t : Shape} {u v : List UInt8} (hs : s.WellNamed)
    (ht : t.WellNamed) (h : s.bytes ++ u = t.bytes ++ v) :
    s.typeName = t.typeName ∧ s.formName = t.formName ∧
      s.bodyBytes ++ u = t.bodyBytes ++ v := by
  rw [bytes_eq s, bytes_eq t] at h
  simp only [List.append_assoc] at h
  obtain ⟨htype, hrest⟩ := nameBytes_append_inj hs.typeName ht.typeName h
  obtain ⟨hform, hbody⟩ :=
    nameBytes_append_inj (zero_notMem_formName s) (zero_notMem_formName t) hrest
  exact ⟨htype, hform, hbody⟩

mutual

/-- A well-named shape can be read off the front of a byte list. -/
theorem bytes_append_inj : ∀ {s t : Shape} {u v : List UInt8}, s.WellNamed → t.WellNamed →
    s.bytes ++ u = t.bytes ++ v → s = t ∧ u = v
  | .text, t, u, v, hs, ht, h | .flag, t, u, v, hs, ht, h | .number, t, u, v, hs, ht, h => by
    obtain ⟨-, hform, hbody⟩ := names_of_bytes_append hs ht h
    cases t <;> first | exact ⟨rfl, hbody⟩ | simp [formName] at hform
  | .list element, t, u, v, hs, ht, h => by
    obtain ⟨-, hform, hbody⟩ := names_of_bytes_append hs ht h
    cases t with
    | list other =>
      rw [WellNamed] at hs ht
      obtain ⟨rfl, huv⟩ := bytes_append_inj hs ht hbody
      exact ⟨rfl, huv⟩
    | _ => simp [formName] at hform
  | .optional inner, t, u, v, hs, ht, h => by
    obtain ⟨-, hform, hbody⟩ := names_of_bytes_append hs ht h
    cases t with
    | optional other =>
      rw [WellNamed] at hs ht
      obtain ⟨rfl, huv⟩ := bytes_append_inj hs ht hbody
      exact ⟨rfl, huv⟩
    | _ => simp [formName] at hform
  | .record name fields, t, u, v, hs, ht, h => by
    obtain ⟨htype, hform, hbody⟩ := names_of_bytes_append hs ht h
    cases t with
    | record other more =>
      rw [WellNamed] at hs ht
      simp only [bodyBytes, List.append_assoc, List.singleton_append] at hbody
      obtain ⟨rfl, huv⟩ := fieldBytes_append_inj hs.2 ht.2 hbody
      obtain rfl : name = other := htype
      exact ⟨rfl, huv⟩
    | _ => simp [formName] at hform

/-- The fields of a record and its closing brace can be read off the front of a byte list. -/
theorem fieldBytes_append_inj : ∀ {fields others : List (Declared Shape)} {u v : List UInt8},
    FieldsWellNamed fields → FieldsWellNamed others →
    fieldBytes fields ++ closingByte :: u = fieldBytes others ++ closingByte :: v →
    fields = others ∧ u = v
  | [], [], u, v, _, _, h => ⟨rfl, (List.cons.inj h).2⟩
  | [], ⟨name, tag, shape⟩ :: rest, u, v, _, ht, h => by
    rw [FieldsWellNamed] at ht
    simp only [fieldBytes, List.nil_append, List.append_assoc] at h
    exact absurd h (closingByte_cons_ne ht.1.2 _ _)
  | ⟨name, tag, shape⟩ :: rest, [], u, v, hs, _, h => by
    rw [FieldsWellNamed] at hs
    simp only [fieldBytes, List.nil_append, List.append_assoc] at h
    exact absurd h.symm (closingByte_cons_ne hs.1.2 _ _)
  | ⟨name, tag, shape⟩ :: rest, ⟨name', tag', shape'⟩ :: rest', u, v, hs, ht, h => by
    rw [FieldsWellNamed] at hs ht
    obtain ⟨hname, htag, hshape, hrest⟩ := hs
    obtain ⟨hname', htag', hshape', hrest'⟩ := ht
    simp only [fieldBytes, List.append_assoc] at h
    obtain ⟨rfl, hfromTag⟩ := nameBytes_append_inj hname.1 hname'.1 h
    obtain ⟨rfl, hfromShape⟩ := nameBytes_append_inj htag htag' hfromTag
    obtain ⟨rfl, hfromRest⟩ := bytes_append_inj hshape hshape' hfromShape
    obtain ⟨rfl, huv⟩ := fieldBytes_append_inj hrest hrest' hfromRest
    exact ⟨rfl, huv⟩

end

/-! ## Fingerprints -/

/-- Well-named shapes with the same bytes are equal, and so are those with the same fingerprint
as long as the digest tells their bytes apart. -/
theorem fingerprint_separates {s t : Shape} (hs : s.WellNamed) (ht : t.WellNamed) :
    (s.bytes = t.bytes → s = t) ∧
      ((Sha256.digest s.bytes = Sha256.digest t.bytes → s.bytes = t.bytes) →
        (s.fingerprint = t.fingerprint ↔ s = t)) := by
  have hbytes : s.bytes = t.bytes → s = t := fun h =>
    (bytes_append_inj hs ht (congrArg (· ++ []) h)).1
  refine ⟨hbytes, fun hdigest => ⟨fun h => ?_, fun h => congrArg fingerprint h⟩⟩
  exact hbytes (hdigest (Sha256.hexText_injective h))

/-- A record of one text. -/
def namedShape : Shape := .record "Sample" [⟨"name", "name", .text⟩]

/-- The same record with the text declared as optional. -/
def maybeNamedShape : Shape := .record "Sample" [⟨"name", "name", .optional .text⟩]

/-- The two records have different fingerprints. -/
theorem fingerprint_separates_optional :
    namedShape.WellNamed ∧ maybeNamedShape.WellNamed ∧
      (namedShape.bytes = maybeNamedShape.bytes → namedShape = maybeNamedShape) ∧
      (namedShape.fingerprint = maybeNamedShape.fingerprint ↔ namedShape = maybeNamedShape) := by
  have hnamed : namedShape.WellNamed := by
    simp [namedShape, WellNamed, FieldsWellNamed, IsPlainName]
  have hmaybe : maybeNamedShape.WellNamed := by
    simp [maybeNamedShape, WellNamed, FieldsWellNamed, IsPlainName]
  have hdigest : Sha256.digest namedShape.bytes ≠ Sha256.digest maybeNamedShape.bytes := by
    decide +kernel
  obtain ⟨hbytes, hfingerprint⟩ := fingerprint_separates hnamed hmaybe
  exact ⟨hnamed, hmaybe, hbytes, hfingerprint fun h => absurd h hdigest⟩

end Shape

end LayeredConfig
