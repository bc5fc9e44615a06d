import LayeredConfig.Proofs.Chain.Build

/-
  Chains put parents first. A chain that was built, from whatever start, is the post-order of an
  unfolding (`unfolding_of_build`), so each of its files stands after its parents
  (`parentsFirst_of_build`). The parents of a file depend on the steps of its path alone
  (`parentPaths_eq_of_sameAs`): under every spelling, and so in every chain, it has the same ones.
-/

namespace LayeredConfig.Chain

variable {fs : FileSystem} {home : Option FilePath} {start : FilePath}

/-! ## Listed paths -/

/-- The path is among the files in some spelling with the same steps. -/
def Listed (files : List FilePath) (p : FilePath) : Prop := ∃ q ∈ files, p.sameAs q = true

theorem any_sameAs_iff {files : List FilePath} {p : FilePath} :
    files.any p.sameAs = true ↔ Listed files p := List.any_eq_true

@[simp] theorem sameAs_refl (p : FilePath) : p.sameAs p = true := sameAs_iff.mpr rfl

theorem listed_of_mem {files : List FilePath} {p : FilePath} (h : p ∈ files) : Listed files p :=
  ⟨p, h, sameAs_refl p⟩

theorem Listed.mono {files more : List FilePath} (hsub : files ⊆ more) {p : FilePath}
    (h : Listed files p) : Listed more p := by
  obtain ⟨q, hq, hsame⟩ := h
  exact ⟨q, hsub hq, hsame⟩

theorem Listed.of_sameAs {files : List FilePath} {p q : FilePath} (h : Listed files p)
    (hsame : p.sameAs q = true) : Listed files q := by
  obtain ⟨r, hr, hpr⟩ := h
  refine ⟨r, hr, ?_⟩
  rw [sameAs_iff] at hsame hpr ⊢
  exact hsame.symm.trans hpr

/-! ## Parents of a file -/

/-- Two spellings of a regular file with the same steps have the same parents. -/
theorem parentPaths_eq_of_sameAs {p q : FilePath} (h : p.sameAs q = true)
    (hp : fs.isFile p = true) (hq : fs.isFile q = true) :
    parentPaths fs home p = parentPaths fs home q := by
  obtain ⟨content, hcontent⟩ :=
    FileSystem.validate_eq_ok_iff.mp (FileSystem.isFile_iff.mp hp)
  obtain ⟨content', hcontent'⟩ :=
    FileSystem.validate_eq_ok_iff.mp (FileSystem.isFile_iff.mp hq)
  have hsteps : p.steps = q.steps := sameAs_iff.mp h
  have hsame := FileSystem.find_unique hsteps hcontent hcontent'
  cases hsame
  rw [parentPaths, parentPaths, FileSystem.parentsOf_eq_parentsIn hcontent,
    FileSystem.parentsOf_eq_parentsIn hcontent']
  refine List.map_congr_left fun reference _ => ?_
  exact FilePath.resolve_eq_of_steps_eq _ hsteps (FileSystem.text_ne_empty_of_find hcontent)
    (FileSystem.text_ne_empty_of_find hcontent')

/-- Every parent of a file stands before it, or is among the files `earlier`. -/
def ParentsFirst (fs : FileSystem) (home : Option FilePath) :
    List FilePath → List FilePath → Prop
  | _, [] => True
  | earlier, p :: rest =>
    (∀ parent ∈ parentPaths fs home p, Listed earlier parent) ∧
      ParentsFirst fs home (p :: earlier) rest

theorem parentsFirst_append {earlier files more : List FilePath} :
    ParentsFirst fs home earlier (files ++ more) ↔
      ParentsFirst fs home earlier files ∧
        ParentsFirst fs home (files.reverse ++ earlier) more := by
  induction files generalizing earlier with
  | nil => simp [ParentsFirst]
  | cons p rest ih =>
    simp only [List.cons_append, ParentsFirst, ih, List.reverse_cons, List.append_assoc,
      List.nil_append, and_assoc]

/-- A file with its parents before it, in a list that puts parents first. -/
theorem listed_of_parentsFirst {before after : List FilePath} {p : FilePath}
    (h : ParentsFirst fs home [] (before ++ p :: after)) :
    ∀ parent ∈ parentPaths fs home p, Listed before parent := by
  intro parent hparent
  have hlisted := (parentsFirst_append.mp h).2.1 parent hparent
  rw [List.append_nil] at hlisted
  exact hlisted.mono fun _ hq => List.mem_reverse.mp hq

/-! ## Chains that were built -/

/-- Every path of a list is in the post-order of its unfolding. -/
theorem mem_postOrder {ps : List FilePath} (t : Unfolding fs home ps) :
    ∀ p ∈ ps, p ∈ t.postOrder := by
  induction t with
  | nil =>
    intro p hp
    cases hp
  | cons parents rest _ ihr =>
    intro p hp
    rw [Unfolding.postOrder, List.mem_append]
    rcases List.mem_cons.mp hp with rfl | hp
    · exact .inr List.mem_cons_self
    · exact .inr (List.mem_cons_of_mem _ (ihr p hp))

theorem parentsFirst_postOrder {ps : List FilePath} (t : Unfolding fs home ps)
    (earlier : List FilePath) : ParentsFirst fs home earlier t.postOrder := by
  induction t generalizing earlier with
  | nil => trivial
  | @cons p more parents rest ihp ihr =>
    rw [Unfolding.postOrder, parentsFirst_append]
    refine ⟨ihp earlier, fun parent hparent => ?_, ihr _⟩
    refine listed_of_mem (List.mem_append_left _ (List.mem_reverse.mpr ?_))
    exact mem_postOrder parents parent hparent

/-- Paths one after another that were all visited, given what a visit of each was. -/
theorem unfolding_of_foldlM {depth : Nat}
    (hvisit : ∀ {w w' : Walk} {p : FilePath}, visit fs home depth w p = .ok w' →
      ∃ t : Unfolding fs home [p], Enterable fs w.met t.preOrder ∧ w' = w.follow t)
    {w w' : Walk} {ps : List FilePath} (h : ps.foldlM (visit fs home depth) w = .ok w') :
    ∃ t : Unfolding fs home ps, Enterable fs w.met t.preOrder ∧ w' = w.follow t := by
  induction ps generalizing w with
  | nil =>
    cases h
    exact ⟨.nil, trivial, rfl⟩
  | cons p more ih =>
    rw [List.foldlM_cons] at h
    obtain ⟨next, hnext, hmore⟩ := bind_eq_ok.mp h
    obtain ⟨t, ht, rfl⟩ := hvisit hnext
    obtain ⟨rest, hrest, rfl⟩ := ih hmore
    cases t with
    | cons parents last =>
      cases last with
      | nil =>
        refine ⟨.cons parents rest, ?_, (follow_cons parents rest).symm⟩
        rw [Walk.follow] at hrest
        rw [Unfolding.preOrder, Unfolding.preOrder, List.append_nil] at ht hrest
        rw [Unfolding.preOrder, ← List.cons_append, enterable_append]
        exact ⟨ht, hrest⟩

/-- A visit that succeeds has followed a whole unfolding, whatever its depth was. -/
theorem unfolding_of_visit {depth : Nat} {w w' : Walk} {p : FilePath}
    (h : visit fs home depth w p = .ok w') :
    ∃ t : Unfolding fs home [p], Enterable fs w.met t.preOrder ∧ w' = w.follow t := by
  induction depth generalizing w w' p with
  | zero => cases h
  | succ depth ih =>
    rw [visit_succ] at h
    obtain ⟨_, henter, hparents⟩ := bind_eq_ok.mp h
    obtain ⟨next, hnext, hdone⟩ := bind_eq_ok.mp hparents
    obtain ⟨parents, hentered, rfl⟩ := unfolding_of_foldlM (fun hv => ih hv) hnext
    cases hdone
    refine ⟨.cons parents .nil, ?_, ?_⟩
    · rw [Unfolding.preOrder, Unfolding.preOrder, List.append_nil]
      exact ⟨henter, hentered⟩
    · simp [Walk.follow, Unfolding.preOrder, Unfolding.postOrder]

/-- A chain that was built is the post-order of an unfolding, also from a relative start. -/
theorem unfolding_of_build {files : List FilePath} (h : build fs home start = .ok files) :
    ∃ t : Unfolding fs home [start.normalize], Sound fs t.preOrder ∧ files = t.postOrder := by
  obtain ⟨w, hvisit, hdone⟩ := bind_eq_ok.mp h
  obtain ⟨t, ht, rfl⟩ := unfolding_of_visit hvisit
  cases hdone
  refine ⟨t, enterable_nil_iff.mp ht, ?_⟩
  simp [Walk.follow]

theorem parentsFirst_of_build {files : List FilePath} (h : build fs home start = .ok files)
    (earlier : List FilePath) : ParentsFirst fs home earlier files := by
  obtain ⟨t, -, rfl⟩ := unfolding_of_build h
  exact parentsFirst_postOrder t earlier

theorem isFile_of_mem_build {files : List FilePath} (h : build fs home start = .ok files) :
    ∀ p ∈ files, fs.isFile p = true := by
  obtain ⟨t, ht, rfl⟩ := unfolding_of_build h
  exact fun p hp => ht.2 p ((postOrder_perm_preOrder t).subset hp)

theorem pairwise_of_build {files : List FilePath} (h : build fs home start = .ok files) :
    files.Pairwise fun p q => p.sameAs q = false := by
  obtain ⟨t, ht, rfl⟩ := unfolding_of_build h
  exact pairwise_postOrder ht

theorem getLast?_of_build {files : List FilePath} (h : build fs home start = .ok files) :
    files.getLast? = some start.normalize := by
  obtain ⟨t, -, rfl⟩ := unfolding_of_build h
  exact getLast?_postOrder t

end LayeredConfig.Chain
