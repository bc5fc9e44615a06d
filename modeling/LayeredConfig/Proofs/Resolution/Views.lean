import LayeredConfig.Proofs.Field.Cache
import LayeredConfig.Proofs.Field.Discovery
import LayeredConfig.Proofs.Resolution.Origin

/-
  The two ways to ask where a value comes from: for all leaves at once, and for the leaf at a path.
  Both read the leaves through a cache, first those of the resolved settings and then those of the
  defaults. Resolving leaves the cache with the leaves of the settings and no question changes it
  (`cacheAfter_eq`), so that the answers are those without a cache (`originsAfter_eq`,
  `originAfter?_eq`). There is one entry for each leaf, in strict order (`perm_name_origins`,
  `pairwise_origins`), and there is an origin just at the paths of leaves (`origin?_eq_some_iff`).
  `views_agree` puts the two answers side by side.
-/

namespace LayeredConfig.Resolution

open FieldCache (holding)

variable {r : Resolution} {f : Field} {a : Attribution} {path : String} {p : FilePath}

/-! ## Questions through the cache -/

/-- A question about a resolution: its leaves, all origins, or the origin at a path. -/
inductive Question where
  | leaves
  | origins
  | origin (path : String)

/-- The leaves of the resolved settings and then those of the defaults, and the cache afterwards. -/
def bothLeaves (r : Resolution) (cache : FieldCache) : (List Field × List Field) × FieldCache :=
  cache.discoverBoth Settings.shape r.settings.toValue Settings.default.toValue

/-- The cache after a question. -/
def next (r : Resolution) (cache : FieldCache) : Question → FieldCache
  | .leaves => (cache.discover Settings.shape r.settings.toValue).2
  | .origins | .origin _ => (r.bothLeaves cache).2

/-- The cache after some questions, the first one first. Resolving looks for the leaves of the
settings in an empty cache. -/
def cacheAfter (r : Resolution) (asked : List Question) : FieldCache :=
  asked.foldl r.next (FieldCache.empty.metadata Settings.shape).2

/-- Every leaf with its origin, as it is asked after some questions. -/
def originsAfter (r : Resolution) (asked : List Question) : List Attribution :=
  let (resolved, defaults) := (r.bothLeaves (r.cacheAfter asked)).1
  Attribution.all resolved defaults r.active

/-- The leaf at a path with its origin, as it is asked after some questions. -/
def originAfter? (r : Resolution) (asked : List Question) (path : String) : Option Attribution :=
  let (resolved, defaults) := (r.bothLeaves (r.cacheAfter asked)).1
  match resolved.find? (·.path == path), defaults.find? (·.path == path) with
  | some resolved, some default => some (.one resolved default r.environment)
  | _, _ => none

theorem bothLeaves_holding (r : Resolution) : r.bothLeaves (holding Settings.shape) =
    ((r.leaves, defaultLeaves), holding Settings.shape) :=
  FieldCache.discoverBoth_holding Settings.shape r.settings.toValue Settings.default.toValue

/-- No question changes the cache. -/
theorem next_holding (r : Resolution) (q : Question) :
    r.next (holding Settings.shape) q = holding Settings.shape := by
  cases q with
  | leaves => rw [next, FieldCache.discover_holding]
  | origins => rw [next, bothLeaves_holding]
  | origin path => rw [next, bothLeaves_holding]

theorem cacheAfter_eq (r : Resolution) (asked : List Question) :
    r.cacheAfter asked = holding Settings.shape := by
  rw [cacheAfter, FieldCache.metadata_empty]
  induction asked with
  | nil => rfl
  | cons q rest ih => rw [List.foldl_cons, next_holding, ih]

/-- All origins are the same after whatever questions. -/
theorem originsAfter_eq (r : Resolution) (asked : List Question) :
    r.originsAfter asked = r.origins := by
  simp only [originsAfter, cacheAfter_eq, bothLeaves_holding, origins]

/-- The origin at a path is the same after whatever questions. -/
theorem originAfter?_eq (r : Resolution) (asked : List Question) (path : String) :
    r.originAfter? asked path = r.origin? path := by
  cases hresolved : r.leaves.find? (·.path == path) <;>
    cases hdefault : defaultLeaves.find? (·.path == path) <;>
    simp only [originAfter?, origin?, cacheAfter_eq, bothLeaves_holding, hresolved, hdefault]

/-! ## The origin at a path -/

/-- There is an origin at the paths of leaves. -/
theorem origin?_eq_some_iff : r.origin? path = some a ↔ ∃ f ∈ fields, f.path = path ∧
    a = .one (f.refresh r.settings.toValue) (f.refresh Settings.default.toValue) r.environment := by
  constructor
  · intro h
    have hleaf : ∃ f ∈ fields, f.path = path := by
      cases hfind : r.leaves.find? (·.path == path) with
      | none =>
        rw [origin?, hfind] at h
        cases h
      | some resolved =>
        have hpath : resolved.path = path := by simpa using List.find?_some hfind
        obtain ⟨f, hf, rfl⟩ := List.mem_map.mp (List.mem_of_find?_eq_some hfind)
        exact ⟨f, hf, hpath⟩
    obtain ⟨f, hf, rfl⟩ := hleaf
    rw [origin?_eq r hf] at h
    exact ⟨f, hf, rfl, (Option.some.inj h).symm⟩
  · rintro ⟨f, hf, rfl, rfl⟩
    exact origin?_eq r hf

theorem origin_one_eq_default_iff {resolved default : Field} {environment : Environment} :
    (Attribution.one resolved default environment).origin = .default ↔
      resolved.value = default.value := by
  unfold Attribution.one
  by_cases hvalue : resolved.value = default.value
  · simp [hvalue]
  · cases (environment.lookup (Environment.variableOf resolved.path)).isSome <;> simp [hvalue]

/-! ## All origins -/

@[simp] theorem name_ofLeaf (defaults : List Field) (active : Option FilePath) (f : Field) :
    (Attribution.ofLeaf defaults active f).name = f.path := rfl

/-- The names of all origins are the paths of the leaves. -/
theorem perm_name_origins (r : Resolution) :
    (r.origins.map Attribution.name).Perm (fields.map Field.path) := by
  have hall : r.leaves.filter (fun f => !f.isRecord) = r.leaves := by
    refine List.filter_eq_self.mpr fun g hg => ?_
    obtain ⟨f, hf, rfl⟩ := List.mem_map.mp hg
    have hleaf : (f.refresh r.settings.toValue).isRecord = false := separate_fields.isRecord_eq f hf
    rw [hleaf]
    rfl
  have hnames : (r.leaves.map (Attribution.ofLeaf defaultLeaves r.active)).map Attribution.name =
      fields.map Field.path := by
    rw [leaves, Shape.discover, List.map_map, List.map_map]
    rfl
  rw [origins, Attribution.all, hall, ← hnames]
  exact (perm_sortBy _ _).map Attribution.name

/-- All origins are in order of their names, strictly. -/
theorem pairwise_origins (r : Resolution) : r.origins.Pairwise fun a b => a.name < b.name := by
  have hsorted : r.origins.Pairwise fun a b => (compare a.name b.name).isLE = true := by
    refine pairwise_sortBy (fun a b => ?_) (fun a b c => Std.TransCmp.isLE_trans) _
    have hswap : compare b.name a.name = (compare a.name b.name).swap := Std.OrientedCmp.eq_swap
    rw [hswap]
    cases compare a.name b.name <;> simp
  have hnodup : (r.origins.map Attribution.name).Nodup :=
    r.perm_name_origins.nodup_iff.mpr (Shape.nodup_path_metadata Settings.regular_shape)
  exact (hsorted.and (List.pairwise_map.mp hnodup)).imp fun hboth =>
    Field.lt_of_isLE_compare hboth.1 hboth.2

/-- The entry with the path of a leaf is that of the leaf. -/
theorem mem_origins_and_name_iff (hf : f ∈ fields) : a ∈ r.origins ∧ a.name = f.path ↔
    a = .ofLeaf defaultLeaves r.active (f.refresh r.settings.toValue) := by
  rw [mem_origins_iff]
  constructor
  · rintro ⟨⟨g, hg, rfl⟩, hname⟩
    have hpath : g.path = f.path := hname
    rw [separate_fields.eq_of_prefix hg hf (hpath ▸ List.prefix_rfl)]
  · rintro rfl
    exact ⟨⟨f, hf, rfl⟩, rfl⟩

/-- Where a file is active, an entry is attributed to the default exactly when the leaf has its
default value. -/
theorem origin_ofLeaf_eq_default_iff (hf : f ∈ fields) (hactive : r.active = some p) :
    (Attribution.ofLeaf defaultLeaves r.active (f.refresh r.settings.toValue)).origin = .default ↔
      ¬ r.Changed f := by
  have hdefault := isDefault_iff (r := r) hf
  rw [hactive]
  unfold Attribution.ofLeaf
  dsimp only
  split
  · next h => simp [hdefault.mp h]
  · next h => simpa using hdefault.not.mp h

/-! ## Both views -/

/-- The views agree. For every load, and whatever was asked of it before: both views are what they
are without a cache. There is an origin at a path exactly when one entry has the path as its name,
which is then the only one and has the same value text. The entries are in strict order of their
names, and there is one for each leaf of the settings and no other. If a file is active, an entry is
attributed to the default exactly when the leaf at its path is, which is so exactly when the
resolved value and the default are the same. -/
theorem views_agree (fs : FileSystem) (home : Option FilePath) (search : SearchPath) (mode : Mode)
    (environment : Environment) (asked asked' : List Question) :
    ∃ run all one, load fs home search mode environment = run ∧
      (run.originsAfter asked = all ∧ run.origins = all) ∧
      (run.originAfter? asked' = one ∧ run.origin? = one) ∧
      (∀ path, (one path).isSome = true ↔ ∃ e ∈ all, e.name = path) ∧
      (∀ path a, one path = some a → ∃ e, e.value = a.value ∧
        ∀ e', e' ∈ all ∧ e'.name = path ↔ e' = e) ∧
      all.Pairwise (fun a b => a.name < b.name) ∧
      (∀ leaf : SettingLeaf, ∃! e, e ∈ all ∧ e.name = leaf.field.path) ∧
      (∀ e ∈ all, ∃! leaf : SettingLeaf, e.name = leaf.field.path) ∧
      ∀ file, run.active = some file → ∀ path a e, one path = some a → e ∈ all → e.name = path →
        ∃ f ∈ fields, f.path = path ∧ (e.origin = .default ↔ a.origin = .default) ∧
          (a.origin = .default ↔ (f.refresh run.settings.toValue).value =
            (f.refresh Settings.default.toValue).value) := by
  generalize load fs home search mode environment = r
  refine ⟨r, r.origins, r.origin?, rfl, ⟨r.originsAfter_eq asked, rfl⟩,
    ⟨funext (r.originAfter?_eq asked'), rfl⟩, fun path => ⟨fun h => ?_, ?_⟩, fun path a h => ?_,
    r.pairwise_origins, fun leaf => ?_, fun e he => ?_,
    fun file hactive path a e ha he hname => ?_⟩
  · obtain ⟨a, ha⟩ := Option.isSome_iff_exists.mp h
    obtain ⟨f, hf, rfl, -⟩ := origin?_eq_some_iff.mp ha
    exact ⟨_, (mem_origins_and_name_iff hf).mpr rfl⟩
  · rintro ⟨e, he, rfl⟩
    obtain ⟨f, hf, rfl⟩ := mem_origins_iff.mp he
    rw [name_ofLeaf, path_refresh, origin?_eq r hf]
    rfl
  · obtain ⟨f, hf, rfl, rfl⟩ := origin?_eq_some_iff.mp h
    exact ⟨.ofLeaf defaultLeaves r.active (f.refresh r.settings.toValue), rfl,
      fun e' => mem_origins_and_name_iff hf⟩
  · exact ⟨_, (mem_origins_and_name_iff leaf.field_mem).mpr rfl,
      fun e he => (mem_origins_and_name_iff leaf.field_mem).mp he⟩
  · obtain ⟨f, hf, rfl⟩ := mem_origins_iff.mp he
    obtain ⟨leaf, rfl⟩ := SettingLeaf.mem_metadata_iff.mp hf
    exact ⟨leaf, rfl, fun leaf' hpath => (SettingLeaf.path_injective hpath).symm⟩
  · obtain ⟨f, hf, rfl, rfl⟩ := origin?_eq_some_iff.mp ha
    obtain rfl := (mem_origins_and_name_iff hf).mp ⟨he, hname⟩
    refine ⟨f, hf, rfl, ?_, origin_one_eq_default_iff⟩
    rw [origin_ofLeaf_eq_default_iff hf hactive, origin_one_eq_default_iff, Changed, ne_eq,
      Classical.not_not]

/-- A number from a file is attributed to the default in neither view. -/
theorem views_agree_number :
    ∃ run all one, load numberCandidate none [⟨"/r/c.yml"⟩] .inheritance [] = run ∧
      run.originsAfter [.origins] = all ∧ run.originAfter? [.leaves, .origins] = one ∧
      run.active = some ⟨"/r/c.yml"⟩ ∧
      ∃ a e, one numberLeaf.path = some a ∧ e ∈ all ∧ e.name = numberLeaf.path ∧
        e.value = a.value ∧ a.origin ≠ .default ∧ e.origin ≠ .default := by
  obtain ⟨run, all, one, hrun, ⟨hall, -⟩, ⟨hone, -⟩, hsome, hvalue, -, hleaf, -, hdefault⟩ :=
    views_agree numberCandidate none [⟨"/r/c.yml"⟩] .inheritance [] [.origins] [.leaves, .origins]
  have hactive : run.active = some ⟨"/r/c.yml"⟩ := by
    have hfirst : (SearchPath.existing numberCandidate [⟨"/r/c.yml"⟩]).head? =
        some ⟨"/r/c.yml"⟩ := by decide +kernel
    obtain ⟨c, -, hload⟩ := load_eq numberCandidate none [⟨"/r/c.yml"⟩] .inheritance []
    rw [← hrun, hload]
    exact hfirst
  -- both views have the number, and the last part says what they make of it
  obtain ⟨e, ⟨he, hname⟩, -⟩ := hleaf (.own .maxBackups (by decide))
  obtain ⟨a, ha⟩ := Option.isSome_iff_exists.mp ((hsome numberLeaf.path).mpr ⟨e, he, hname⟩)
  obtain ⟨e', htext, hentry⟩ := hvalue _ a ha
  obtain rfl := (hentry e).mp ⟨he, hname⟩
  obtain ⟨f, hf, hpath, hsame, horigin⟩ := hdefault _ hactive _ a e ha he hname
  have hnumber : a.origin ≠ .default := by
    rw [ne_eq, horigin]
    rw [separate_fields.eq_of_prefix hf numberLeaf_mem (hpath ▸ List.prefix_rfl), ← hrun]
    exact changed_numberLeaf (by decide) (load_numberCandidate (Environment.override?_nil _))
  exact ⟨run, all, one, hrun, hall, hone, hactive, a, e, ha, he, hname, htext, hnumber,
    hsame.not.mpr hnumber⟩

end LayeredConfig.Resolution
