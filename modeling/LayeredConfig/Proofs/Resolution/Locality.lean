import LayeredConfig.Proofs.Merge.Locality
import LayeredConfig.Proofs.Resolution.Fallback

/-
  Inheritance mode resolves each leaf on its own. The value of a leaf in the merged tree is the
  fold over the accepted operations of the applied files that have its key or clear the record
  around it (`valueIn_applyFiles`), and the settings hold that value, except for a leaf that is
  missing from a record that is there (`inheritance_is_local`).
-/

namespace LayeredConfig.Resolution

open Value

variable {fs : FileSystem} {document : Value}

/-! ## Operations of files -/

/-- The operations of files in the order they are applied. A file that cannot be decoded has
none. -/
def operationsOf (fs : FileSystem) (files : List FilePath) : List Operation :=
  files.flatMap fun p =>
    match ConfigFile.loadOperations fs p with
    | .ok ops => ops
    | .error _ => []

/-- The operations of a file that are not rejected when their turn comes. -/
def acceptedOf (fs : FileSystem) (document : Value) (p : FilePath) : List Operation :=
  match ConfigFile.loadOperations fs p with
  | .ok ops => Merge.accepted document ops fields p
  | .error _ => []

/-- The operations of files that are not rejected when their turn comes. -/
def acceptedIn (fs : FileSystem) (document : Value) : List FilePath → List Operation
  | [] => []
  | p :: rest => acceptedOf fs document p ++ acceptedIn fs (applyFile fs document p).1 rest

theorem readable_applyFile (hr : Merge.Readable fields document) (fs : FileSystem)
    (p : FilePath) : Merge.Readable fields (applyFile fs document p).1 := by
  unfold applyFile
  split
  · exact Merge.apply_keeps (fun hd hchange => hd.change separate_fields hchange) hr _ p
  · exact hr

theorem acceptedOf_eq_filter (hr : Merge.Readable fields document) (fs : FileSystem)
    (p : FilePath) :
    acceptedOf fs document p = (operationsOf fs [p]).filter (Merge.accepts fields) := by
  rw [acceptedOf, operationsOf, List.flatMap_singleton]
  split
  · exact Merge.accepted_eq_filter separate_fields hr _ p
  · rfl

/-- What stands in the document has no say in which operations are accepted. -/
theorem acceptedIn_eq_filter (hr : Merge.Readable fields document) (fs : FileSystem)
    (files : List FilePath) :
    acceptedIn fs document files = (operationsOf fs files).filter (Merge.accepts fields) := by
  induction files generalizing document with
  | nil => rfl
  | cons p rest ih =>
    have hcons : operationsOf fs (p :: rest) = operationsOf fs [p] ++ operationsOf fs rest := by
      simp [operationsOf]
    rw [acceptedIn, acceptedOf_eq_filter hr, ih (readable_applyFile hr fs p), hcons,
      List.filter_append]

/-! ## Values of leaves -/

theorem valueIn_applyFile (hr : Merge.Readable fields document) {f : Field} (hf : f ∈ fields)
    {current : Leaf} (hcurrent : f.valueIn document = some current) (p : FilePath) :
    f.valueIn (applyFile fs document p).1 =
      some (((acceptedOf fs document p).filter f.concernedBy).foldl f.after current) := by
  unfold applyFile acceptedOf
  cases ConfigFile.loadOperations fs p with
  | ok ops => exact Merge.valueIn_apply separate_fields hr hf hcurrent ops p
  | error problem => exact hcurrent

/-- The value of a leaf after files is the fold over their accepted operations that concern it. -/
theorem valueIn_applyFiles (hr : Merge.Readable fields document) {f : Field} (hf : f ∈ fields)
    {current : Leaf} (hcurrent : f.valueIn document = some current) (fs : FileSystem)
    (files : List FilePath) :
    f.valueIn (applyFiles fs document files).1 =
      some (((acceptedIn fs document files).filter f.concernedBy).foldl f.after current) := by
  induction files generalizing document current with
  | nil => exact hcurrent
  | cons p rest ih =>
    rw [applyFiles_cons, ih (readable_applyFile hr fs p) (valueIn_applyFile hr hf hcurrent p),
      acceptedIn, List.filter_append, List.foldl_append]

/-- When all chains can be built, each leaf is resolved on its own. In the merged tree it has the
value that the accepted operations with its key, and those that clear the record around it, make of
its default; which operations are accepted depends on no document. The settings before the
environment hold that value, but a leaf missing from a record that is there has the default of the
record. -/
theorem inheritance_is_local (fs : FileSystem) (home : Option FilePath) (search : SearchPath)
    (hbuild : ∀ c ∈ search.existing fs, ∃ chain, Chain.build fs home c = .ok chain)
    (f : Field) (hf : f ∈ fields) :
    ∃ files settings initial leaf,
      chainFiles fs home (search.existing fs) = .ok files ∧
      inheritanceLayers fs home search =
        ⟨settings, files, (applyFiles fs Settings.default.toValue files).2⟩ ∧
      acceptedIn fs Settings.default.toValue files =
        (operationsOf fs files).filter (Merge.accepts fields) ∧
      f.valueIn Settings.default.toValue = some initial ∧
      leaf = ((acceptedIn fs Settings.default.toValue files).filter f.concernedBy).foldl
        f.after initial ∧
      f.valueIn (applyFiles fs Settings.default.toValue files).1 = some leaf ∧
      (¬ Settings.LeftOut (applyFiles fs Settings.default.toValue files).1 f →
        f.valueIn settings.toValue = some leaf) ∧
      (Settings.LeftOut (applyFiles fs Settings.default.toValue files).1 f →
        settings.toValue.get? f.path = VerificationSettings.default.toValue.field? f.tag) := by
  obtain ⟨files, hfiles⟩ : ∃ files, chainFiles fs home (search.existing fs) = .ok files := by
    rcases chainFiles_cases fs home (search.existing fs) with ⟨-, hfiles⟩ | ⟨problem, hfails, -⟩
    · exact hfiles
    · obtain ⟨c, hc, herror⟩ := hfails.exists_mem
      obtain ⟨chain, hchain⟩ := hbuild c (List.mem_reverse.mp hc)
      cases hchain.symm.trans herror
  have hdefault : Merge.Readable fields Settings.default.toValue :=
    (Settings.typed_toValue Settings.default).conforms.readable separate_fields
  obtain ⟨initial, hinitial⟩ := hdefault f hf
  have hvalue := valueIn_applyFiles hdefault hf hinitial fs files
  obtain ⟨settings, hdecode, hlayers⟩ := inheritanceLayers_of_chainFiles hfiles
  obtain ⟨hout, hin⟩ := (typed_applyFiles fs files).get?_toValue hdecode hf
  refine ⟨files, settings, initial, _, hfiles, hlayers, acceptedIn_eq_filter hdefault fs files,
    hinitial, rfl, hvalue, fun h => ?_, hout⟩
  rw [← hvalue, Field.valueIn, hin h, Field.valueIn]

/-- A file that sets a field of the record, and one of lower priority that clears the record. -/
def clearedRecord : FileSystem :=
  ⟨[(["r", "a.yml"], .file "verification:\n  verify_on_create: true\n".toUTF8),
    (["r", "b.yml"], .file "verification: ~\n".toUTF8)], []⟩

/-- The field that was not set again is zero in the merged tree and has the default of the record
in the settings. -/
theorem inheritance_is_local_cleared_record :
    (∀ c ∈ SearchPath.existing clearedRecord [⟨"/r/a.yml"⟩, ⟨"/r/b.yml"⟩],
      ∃ chain, Chain.build clearedRecord none c = .ok chain) ∧
    (SettingLeaf.part .checksum).field ∈ fields ∧
    ∃ files settings,
      inheritanceLayers clearedRecord none [⟨"/r/a.yml"⟩, ⟨"/r/b.yml"⟩] =
        ⟨settings, files, (applyFiles clearedRecord Settings.default.toValue files).2⟩ ∧
      (SettingLeaf.part .checksum).field.valueIn
        (applyFiles clearedRecord Settings.default.toValue files).1 = some (.text "") ∧
      settings.toValue.get? (SettingLeaf.part .checksum).field.path = some (.string "sha256") := by
  have hbuild : ∀ c ∈ SearchPath.existing clearedRecord [⟨"/r/a.yml"⟩, ⟨"/r/b.yml"⟩],
      ∃ chain, Chain.build clearedRecord none c = .ok chain := by
    have hisOk : ∀ c ∈ SearchPath.existing clearedRecord [⟨"/r/a.yml"⟩, ⟨"/r/b.yml"⟩],
        (Chain.build clearedRecord none c).isOk = true := by decide +kernel
    exact fun c hc => isOk_iff.mp (hisOk c hc)
  have hmem : (SettingLeaf.part .checksum).field ∈ fields := SettingLeaf.field_mem _
  refine ⟨hbuild, hmem, ?_⟩
  obtain ⟨files, settings, initial, leaf, hfiles, hlayers, -, -, -, hleaf, -, hout⟩ :=
    inheritance_is_local clearedRecord none _ hbuild _ hmem
  have happlied : (chainFiles clearedRecord none
      (SearchPath.existing clearedRecord [⟨"/r/a.yml"⟩, ⟨"/r/b.yml"⟩])).toOption =
        some [⟨"/r/b.yml"⟩, ⟨"/r/a.yml"⟩] := by decide +kernel
  rw [hfiles] at happlied
  cases happlied
  have hrecord : (applyFiles clearedRecord Settings.default.toValue
      [⟨"/r/b.yml"⟩, ⟨"/r/a.yml"⟩]).1.get? Setting.verification.key =
        some (.object [(VerificationSettings.verifyKey, .bool true)]) := by decide +kernel
  have hmissing : (applyFiles clearedRecord Settings.default.toValue
      [⟨"/r/b.yml"⟩, ⟨"/r/a.yml"⟩]).1.get? (SettingLeaf.part .checksum).field.path = none := by
    rw [SettingLeaf.get?_part, ← SettingLeaf.get?_key, hrecord]
    decide
  refine ⟨_, settings, hlayers, ?_, ?_⟩
  · rw [Field.valueIn, hmissing]
    rfl
  · rw [hout ⟨hmissing, _, hrecord⟩]
    exact VerificationSettings.field?_toValue _ .checksum

end LayeredConfig.Resolution
