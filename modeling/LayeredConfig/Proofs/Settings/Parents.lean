import LayeredConfig.ConfigFile
import LayeredConfig.Proofs.Settings.Leaves
import LayeredConfig.Proofs.Yaml.Budget

/-
  Parents read alone and with all settings. Reading a record for fewer keys gives the fields that
  reading it for more keys gives under them (`knownEntries_restrict`). No key is given twice
  (`nodup_keys_knownEntries`), so the setting of the parents has the value that its one field was
  read as, or its default without a field (`inherit_of_foldlM_readField`). That field is read later
  among all settings than alone, with no more aliases left, so it is read alone as well. Hence a
  file that can be decoded as a whole names the parents that are among its settings
  (`parents_of_settings`).
-/

namespace LayeredConfig

open Yaml

/-! ## Records read for some of their keys -/

namespace Yaml.Document

variable {d : Document} {keys : List String} {seen fields : List (String × Node)}
  {entries : List (Node × Node)} {b b' : Nat}

/-- An entry with a known key is taken unless the key was seen before; any other is passed over. -/
theorem knownEntries_cons {k v : Node} {key : String} {b₁ : Nat}
    (hkey : d.readText k b = .ok (key, b₁)) :
    d.knownEntries keys seen ((k, v) :: entries) b =
      if key ∈ keys then
        if key ∈ seen.map Prod.fst then .error .duplicateKey
        else d.knownEntries keys ((key, v) :: seen) entries b₁
      else d.knownEntries keys seen entries b₁ := by
  have hseen : (seen.any fun e => e.1 == key) = true ↔ key ∈ seen.map Prod.fst := by
    simp
  rw [knownEntries, reading_bind hkey]
  split
  · simp only [hseen]
    split <;> rfl
  · rfl

/-- What holds after an entry was taken or passed over holds after all entries. -/
theorem knownEntries_cons_eq_ok {k v : Node}
    (h : d.knownEntries keys seen ((k, v) :: entries) b = .ok (fields, b')) :
    ∃ key b₁, d.readText k b = .ok (key, b₁) ∧
      ((key ∈ keys ∧ key ∉ seen.map Prod.fst ∧
          d.knownEntries keys ((key, v) :: seen) entries b₁ = .ok (fields, b')) ∨
        (key ∉ keys ∧ d.knownEntries keys seen entries b₁ = .ok (fields, b'))) := by
  obtain ⟨key, b₁, hkey, -⟩ := reading_bind_eq_ok.mp h
  refine ⟨key, b₁, hkey, ?_⟩
  rw [knownEntries_cons hkey] at h
  split at h
  · next hknown =>
    split at h
    · cases h
    · next hnew => exact .inl ⟨hknown, hnew, h⟩
  · next hknown => exact .inr ⟨hknown, h⟩

/-- No key is given twice. -/
theorem nodup_keys_knownEntries (h : d.knownEntries keys seen entries b = .ok (fields, b'))
    (hseen : (seen.map Prod.fst).Nodup) : (fields.map Prod.fst).Nodup := by
  induction entries generalizing seen b with
  | nil =>
    cases h
    rw [List.map_reverse, List.nodup_reverse]
    exact hseen
  | cons entry rest ih =>
    obtain ⟨key, b₁, -, ⟨-, hnew, hrest⟩ | ⟨-, hrest⟩⟩ := knownEntries_cons_eq_ok h
    · exact ih hrest (List.nodup_cons.mpr ⟨hnew, hseen⟩)
    · exact ih hrest hseen

/-- Read for fewer keys, a record gives the fields under them. -/
theorem knownEntries_restrict {fewer : List String} (hfewer : ∀ key ∈ fewer, key ∈ keys)
    (h : d.knownEntries keys seen entries b = .ok (fields, b')) :
    d.knownEntries fewer (seen.filter (·.1 ∈ fewer)) entries b =
      .ok (fields.filter (·.1 ∈ fewer), b') := by
  induction entries generalizing seen b with
  | nil =>
    cases h
    rw [List.filter_reverse]
    rfl
  | cons entry rest ih =>
    obtain ⟨key, b₁, hkey, ⟨-, hnew, hrest⟩ | ⟨hknown, hrest⟩⟩ := knownEntries_cons_eq_ok h
    · have hlater := ih hrest
      rw [knownEntries_cons hkey]
      split
      · next hwanted =>
        -- A key that is new among all that were seen is new among the wanted ones.
        have hnew' : key ∉ (seen.filter (·.1 ∈ fewer)).map Prod.fst :=
          fun hmem => hnew (((List.filter_sublist).map Prod.fst).subset hmem)
        rw [if_neg hnew']
        rw [List.filter_cons_of_pos (by simpa using hwanted)] at hlater
        exact hlater
      · next hwanted =>
        rw [List.filter_cons_of_neg (by simpa using hwanted)] at hlater
        exact hlater
    · rw [knownEntries_cons hkey, if_neg fun hwanted => hknown (hfewer key hwanted)]
      exact ih hrest

end Yaml.Document

/-! ## The field of the parents -/

namespace Settings

variable {d : Document} {c c' : Settings} {fields : List (String × Node)} {b b' : Nat}

/-- A field with another key leaves the parents as they are. -/
theorem inherit_of_readField_ne {field : String × Node} (hne : field.1 ≠ Setting.inherit.key)
    (h : readField d c field b = .ok (c', b')) : c' .inherit = c .inherit := by
  rw [readField] at h
  cases hs : Setting.ofKey? field.1 with
  | none =>
    rw [hs] at h
    cases h
    rfl
  | some s =>
    rw [hs] at h
    obtain ⟨value, b₁, -, hupdate⟩ := reading_bind_eq_ok.mp h
    cases hupdate
    have hs' : Setting.inherit ≠ s := by
      rintro rfl
      rw [Setting.ofKey?] at hs
      have hkey := List.find?_some hs
      exact hne (beq_iff_eq.mp hkey).symm
    exact dif_neg hs'

/-- The field of the parents gives them the list that it holds. -/
theorem inherit_of_readField {node : Node}
    (h : readField d c (Setting.inherit.key, node) b = .ok (c', b')) :
    d.readTexts node b = .ok (c' .inherit, b') := by
  rw [readField, Setting.ofKey?_key] at h
  obtain ⟨value, b₁, hvalue, hupdate⟩ := reading_bind_eq_ok.mp h
  cases hupdate
  exact hvalue

/-- Fields with other keys leave the parents as they are. -/
theorem inherit_of_foldlM_readField_ne (hne : ∀ field ∈ fields, field.1 ≠ Setting.inherit.key)
    (h : fields.foldlM (readField d) c b = .ok (c', b')) : c' .inherit = c .inherit := by
  induction fields generalizing c b with
  | nil =>
    cases h
    rfl
  | cons field rest ih =>
    rw [List.foldlM_cons] at h
    obtain ⟨c₁, b₁, hfirst, hrest⟩ := reading_bind_eq_ok.mp h
    rw [ih (fun g hg => hne g (List.mem_cons_of_mem _ hg)) hrest,
      inherit_of_readField_ne (hne field List.mem_cons_self) hfirst]

/-- Among fields with different keys, the one of the parents gives them the list that it holds,
read with no more aliases than there were at first. -/
theorem inherit_of_foldlM_readField {node : Node} (hnodup : (fields.map Prod.fst).Nodup)
    (hfield : (Setting.inherit.key, node) ∈ fields)
    (h : fields.foldlM (readField d) c b = .ok (c', b')) :
    ∃ b₁ b₂, b₁ ≤ b ∧ d.readTexts node b₁ = .ok (c' .inherit, b₂) := by
  induction fields generalizing c b with
  | nil => exact absurd hfield List.not_mem_nil
  | cons field rest ih =>
    rw [List.foldlM_cons] at h
    obtain ⟨c₁, b₁, hfirst, hrest⟩ := reading_bind_eq_ok.mp h
    rw [List.map_cons, List.nodup_cons] at hnodup
    rcases List.mem_cons.mp hfield with rfl | hfield
    · have hothers : ∀ g ∈ rest, g.1 ≠ Setting.inherit.key := by
        intro g hg heq
        have hmem : g.1 ∈ rest.map Prod.fst := List.mem_map_of_mem hg
        rw [heq] at hmem
        exact hnodup.1 hmem
      rw [inherit_of_foldlM_readField_ne hothers hrest]
      exact ⟨b, b₁, Nat.le_refl b, inherit_of_readField hfirst⟩
    · obtain ⟨b₂, b₃, hle, hread⟩ := ih hnodup.2 hfield hrest
      have hthrifty := (thrifty_readField d c field b c₁ b₁ hfirst).1
      exact ⟨b₂, b₃, Nat.le_trans hle hthrifty, hread⟩

/-! ## Parents of a text -/

/-- The node is a mapping. -/
def isMapping : Node → Bool
  | .mapping .. => true
  | _ => false

/-- The text is blank, or a document with a mapping or nothing at its root. -/
def holdsMapping (text : String) : Bool :=
  Text.isBlankText text || (Document.parse text).toOption.any fun d => d.root.all isMapping

/-- A mapping read for the parents alone gives the field under their key, if it is there. -/
theorem readRecord_inherit {p : NodeProperties} {entries : List (Node × Node)}
    (h : d.readRecord (Setting.all.map Setting.key) (.mapping p entries) b = .ok (fields, b')) :
    d.readRecord [Setting.inherit.key] (.mapping p entries) b =
      .ok (fields.filter (·.1 ∈ [Setting.inherit.key]), b') := by
  refine Document.knownEntries_restrict (fun key hkey => ?_) h
  rw [List.mem_singleton.mp hkey]
  exact List.mem_map_of_mem (Setting.mem_all _)

/-- The parents of a mapping that can be read as settings are those of the settings. -/
theorem readParents_of_read {p : NodeProperties} {entries : List (Node × Node)}
    (h : read d (.mapping p entries) b = .ok (c, b')) :
    ∃ b₂, readParents d (.mapping p entries) b = .ok (c .inherit, b₂) := by
  obtain ⟨fields, b₁, hfields, hfold⟩ := reading_bind_eq_ok.mp h
  have hnodup := Document.nodup_keys_knownEntries hfields List.nodup_nil
  rw [readParents, reading_bind (readRecord_inherit hfields)]
  cases hfilter : fields.filter (·.1 ∈ [Setting.inherit.key]) with
  | nil =>
    have hne : ∀ field ∈ fields, field.1 ≠ Setting.inherit.key := by
      intro field hfield heq
      have hmem := List.filter_eq_nil_iff.mp hfilter field hfield
      simp [heq] at hmem
    rw [inherit_of_foldlM_readField_ne hne hfold]
    exact ⟨b₁, rfl⟩
  | cons field rest =>
    have hmem : field ∈ fields.filter (·.1 ∈ [Setting.inherit.key]) := by
      rw [hfilter]
      exact List.mem_cons_self
    obtain ⟨hmem, hkey⟩ := List.mem_filter.mp hmem
    have hkey' : field = (Setting.inherit.key, field.2) := by
      rw [← List.mem_singleton.mp (of_decide_eq_true hkey)]
    rw [hkey'] at hmem
    -- Among all settings the field may be read with fewer aliases left than alone.
    obtain ⟨b₂, b₃, hle, htexts⟩ := inherit_of_foldlM_readField hnodup hmem hfold
    obtain ⟨more, rfl⟩ := Nat.exists_eq_add_of_le hle
    exact ⟨b₃ + more, (d.thrifty_readTexts field.2 _ _ _ htexts).2 more⟩

/-- A mapping is not absent. -/
theorem readOptional_mapping {α : Type} {read : Node → Reading α} {p : NodeProperties}
    {entries : List (Node × Node)} {a : α} (h : read (.mapping p entries) b = .ok (a, b')) :
    d.readOptional read (.mapping p entries) b = .ok (some a, b') := by
  have hbind : d.readOptional read (.mapping p entries) b =
      (read (.mapping p entries) >>= fun a => pure (some a)) b := rfl
  rw [hbind, reading_bind h]
  rfl

/-- A text that can be read as settings names the parents that are among them. -/
theorem parseParents_of_parse {text : String} (hmapping : holdsMapping text = true)
    (h : parse text = .ok c) : parseParents text = .ok (c .inherit) := by
  rw [parse] at h
  rw [parseParents]
  by_cases hblank : Text.isBlankText text = true
  · rw [if_pos hblank] at h ⊢
    cases h
    rfl
  · rw [if_neg hblank] at h ⊢
    obtain ⟨d, hd, hread⟩ := bind_eq_ok.mp h
    rw [holdsMapping, Bool.or_eq_true, hd] at hmapping
    have hroot : d.root.all isMapping = true := hmapping.resolve_left hblank
    rw [hd, ok_bind]
    cases hr : d.root with
    | none =>
      rw [hr] at hread
      cases hread
      rfl
    | some root =>
      rw [hr] at hread hroot
      cases root with
      | scalar | sequence | aliasOf => cases hroot
      | mapping p entries =>
        obtain ⟨b, hread⟩ := run_eq_ok.mp hread
        obtain ⟨b₂, hparents⟩ := readParents_of_read hread
        dsimp only
        rw [run_eq_ok.mpr ⟨b₂, readOptional_mapping hparents⟩]
        rfl

end Settings

/-! ## Parents of a file -/

namespace ConfigFile

/-- A file names the same parents alone and among its settings. If a file whose text is blank or a
mapping can be decoded as a whole, its parents can be decoded alone, and they are those among its
settings, whatever else the file holds. -/
theorem parents_of_settings (fs : FileSystem) (p : FilePath) (text : String) (c : Settings)
    (htext : fs.readText p = .ok text) (hmapping : Settings.holdsMapping text = true)
    (h : loadSettings fs p = .ok c) : loadParents fs p = .ok (c .inherit) := by
  rw [loadSettings, htext, ok_bind] at h
  rw [loadParents, htext, ok_bind]
  cases hparse : Settings.parse text with
  | error fault =>
    rw [hparse] at h
    cases h
  | ok settings =>
    rw [hparse] at h
    cases h
    rw [Settings.parseParents_of_parse hmapping hparse]
    rfl

/-- A text that names its parents between other keys, one of them through an alias. -/
def aliasedText : String :=
  "first: &p base.yml\n+exclude_patterns: [x]\nmax_backups: 0x10\n" ++
    "inherit: [*p, 7]\nother: \x7bdeep: [1, \x7binherit: z\x7d]\x7d\n"

/-- A file with this text. -/
def aliasedFile : FileSystem := ⟨[(["r", "a.yml"], .file aliasedText.toUTF8)], []⟩

/-- The parents are an alias and a number, and a nested key of the same name does not count. -/
theorem parents_of_settings_aliased :
    ∃ c, aliasedFile.readText ⟨"/r/a.yml"⟩ = .ok aliasedText ∧
      Settings.holdsMapping aliasedText = true ∧
      loadSettings aliasedFile ⟨"/r/a.yml"⟩ = .ok c ∧
      loadParents aliasedFile ⟨"/r/a.yml"⟩ = .ok (c .inherit) ∧
      c .inherit = ["base.yml", "7"] := by
  have htext : (aliasedFile.readText ⟨"/r/a.yml"⟩).toOption = some aliasedText := by
    decide +kernel
  have hmapping : Settings.holdsMapping aliasedText = true := by decide +kernel
  have hload : (loadSettings aliasedFile ⟨"/r/a.yml"⟩).toOption.map
      (fun c => (c .inherit : List String)) = some ["base.yml", "7"] := by decide +kernel
  obtain ⟨c, hc, hinherit⟩ := Option.map_eq_some_iff.mp hload
  rw [toOption_eq_some_iff] at htext hc
  exact ⟨c, htext, hmapping, hc, parents_of_settings aliasedFile _ aliasedText c htext hmapping hc,
    hinherit⟩

end ConfigFile

end LayeredConfig
