import LayeredConfig.Proofs.Chain.Run

/-
  What building a chain gives. A run along references either follows a whole unfolding, or breaks
  off with the problem of the first path that cannot be entered (`Run.outcome`). From an absolute
  start there always is a run, and `build` computes it (`build_outcome`), so a chain is the
  post-order of the unfolding of its start, and a problem is the first defect of that unfolding
  (`build_follows_unfolding`).
-/

namespace LayeredConfig.Chain

variable {fs : FileSystem} {home : Option FilePath} {start : FilePath}

/-! ## Walks -/

/-- The walk after an unfolding was followed. -/
def Walk.follow {ps : List FilePath} (w : Walk) (t : Unfolding fs home ps) : Walk :=
  ⟨t.preOrder.reverse ++ w.met, t.postOrder.reverse ++ w.chain⟩

/-- What a walk along the unfolding of `ps` can give: the whole unfolding, or the problem of the
first path that cannot be entered. -/
def Outcome (fs : FileSystem) (home : Option FilePath) (w : Walk) (ps : List FilePath)
    (result : Except Problem Walk) : Prop :=
  (∃ t : Unfolding fs home ps, Enterable fs w.met t.preOrder ∧ result = .ok (w.follow t)) ∨
    ∃ e, BreaksOff fs home w.met ps e ∧ result = .error e

/-- Following one path and then others is following all of them. -/
theorem follow_cons {w : Walk} {p : FilePath} {more : List FilePath}
    (parents : Unfolding fs home (parentPaths fs home p)) (rest : Unfolding fs home more) :
    w.follow (.cons parents rest) = (w.follow (.cons parents .nil)).follow rest := by
  simp [Walk.follow, Unfolding.preOrder, Unfolding.postOrder]

/-- A run follows a whole unfolding or breaks off. -/
theorem Run.outcome {w : Walk} {ps reads : List FilePath} {result : Except Problem Walk}
    (h : Run fs home w ps reads result) : Outcome fs home w ps result := by
  induction h with
  | done => exact .inl ⟨.nil, trivial, rfl⟩
  | @refused w p more e hp => exact .inr ⟨e, breaksOff_append more (breaksOff_of_enter hp), rfl⟩
  | @broken w p more reads e hp _ ih =>
    rcases ih with ⟨_, -, hresult⟩ | ⟨_, hbreak, hresult⟩
    · cases hresult
    · cases hresult
      exact .inr ⟨e, breaksOff_append more (breaksOff_of_parents hp hbreak), rfl⟩
  | @visited w next p more reads later result hp _ _ ihp ihm =>
    rcases ihp with ⟨parents, hparents, hresult⟩ | ⟨_, -, hresult⟩
    · cases hresult
      -- the walk after the path and its parents, which the paths after it go on from
      have hnext : (⟨(Walk.follow ⟨p :: w.met, w.chain⟩ parents).met,
          p :: (Walk.follow ⟨p :: w.met, w.chain⟩ parents).chain⟩ : Walk) =
            w.follow (.cons parents .nil) := by
        simp [Walk.follow, Unfolding.preOrder, Unfolding.postOrder]
      have hfirst : Enterable fs w.met (Unfolding.cons parents .nil).preOrder := by
        rw [Unfolding.preOrder, Unfolding.preOrder, List.append_nil]
        exact ⟨hp, hparents⟩
      rw [hnext] at ihm
      rcases ihm with ⟨rest, hrest, hresult⟩ | ⟨e, hbreak, hresult⟩
      · refine .inl ⟨.cons parents rest, ?_, ?_⟩
        · have hpre : (Unfolding.cons parents rest).preOrder =
              (Unfolding.cons parents .nil).preOrder ++ rest.preOrder := by
            simp [Unfolding.preOrder]
          rw [hpre, enterable_append]
          exact ⟨hfirst, hrest⟩
        · rw [hresult, ← follow_cons]
      · exact .inr ⟨e, breaksOff_after_unfolding _ hfirst hbreak, hresult⟩
    · cases hresult

/-! ## Chains -/

/-- Building a chain follows the unfolding of the normalized start or breaks off. -/
theorem build_outcome (fs : FileSystem) (home : Option FilePath) (hs : start.isAbsolute = true) :
    (∃ t : Unfolding fs home [start.normalize], Sound fs t.preOrder ∧
      build fs home start = .ok t.postOrder) ∨
      ∃ e, BreaksOff fs home [] [start.normalize] e ∧ build fs home start = .error e := by
  obtain ⟨reads, result, hrun⟩ := exists_run fs home hs
  rcases hrun.outcome with ⟨t, ht, hresult⟩ | ⟨e, hbreak, hresult⟩
  · refine .inl ⟨t, enterable_nil_iff.mp ht, ?_⟩
    rw [hrun.build_eq hs, hresult]
    simp [Walk.follow, Except.map]
  · refine .inr ⟨e, hbreak, ?_⟩
    rw [hrun.build_eq hs, hresult]
    rfl

theorem build_eq_ok_iff (hs : start.isAbsolute = true) {files : List FilePath} :
    build fs home start = .ok files ↔
      ∃ t : Unfolding fs home [start.normalize], Sound fs t.preOrder ∧ files = t.postOrder := by
  constructor
  · intro h
    rcases build_outcome fs home hs with ⟨t, ht, hresult⟩ | ⟨e, -, hresult⟩
    · rw [h] at hresult
      exact ⟨t, ht, Except.ok.inj hresult⟩
    · rw [h] at hresult
      cases hresult
  · rintro ⟨t, ht, rfl⟩
    rcases build_outcome fs home hs with ⟨u, -, hresult⟩ | ⟨e, hbreak, -⟩
    · rw [hresult, unfolding_unique u t]
    · exact absurd hbreak (not_breaksOff_of_enterable t (enterable_nil_iff.mpr ht) e)

theorem build_eq_error_iff (hs : start.isAbsolute = true) {e : Problem} :
    build fs home start = .error e ↔ BreaksOff fs home [] [start.normalize] e := by
  constructor
  · intro h
    rcases build_outcome fs home hs with ⟨t, -, hresult⟩ | ⟨e', hbreak, hresult⟩
    · rw [h] at hresult
      cases hresult
    · rw [h] at hresult
      rw [Except.error.inj hresult]
      exact hbreak
  · intro h
    rcases build_outcome fs home hs with ⟨t, ht, -⟩ | ⟨e', hbreak, hresult⟩
    · exact absurd h (not_breaksOff_of_enterable t (enterable_nil_iff.mpr ht) e)
    · rw [hresult, breaksOff_unique hbreak h]

theorem preOrder_eq_meets {ps : List FilePath} (t : Unfolding fs home ps) :
    meets fs home t.preOrder.length ps = t.preOrder := by
  have h := meets_preOrder_length_add t 0 []
  rwa [List.append_nil, Nat.add_zero, meets_nil, List.append_nil] at h

theorem getLast?_postOrder {p : FilePath} (t : Unfolding fs home [p]) :
    t.postOrder.getLast? = some p := by
  cases t with
  | cons parents rest =>
    cases rest with
    | nil => rw [Unfolding.postOrder, Unfolding.postOrder, List.getLast?_concat]

/-- The paths of a sound unfolding differ in either order. -/
theorem pairwise_postOrder {ps : List FilePath} {t : Unfolding fs home ps}
    (h : Sound fs t.preOrder) : t.postOrder.Pairwise (fun p q => p.sameAs q = false) := by
  refine (postOrder_perm_preOrder t).symm.pairwise h.1 fun {p q} hpq => ?_
  rw [sameAs_comm]
  exact hpq

/-- The problem is that of the first path of the unfolding that cannot be entered: one that was
met before, or else one that is no regular file. -/
theorem breaksOff_iff {ps : List FilePath} {e : Problem} :
    BreaksOff fs home [] ps e ↔
      ∃ before p, meets fs home (before.length + 1) ps = before ++ [p] ∧ Sound fs before ∧
        (((∃ q ∈ before, p.sameAs q = true) ∧ e = .circularDependency p) ∨
          ((∀ q ∈ before, p.sameAs q = false) ∧ fs.isFile p = false ∧
            fs.validate p = .error e ∧ ∃ reason, e = .pathInvalid p reason)) := by
  unfold BreaksOff
  simp only [List.append_nil, enterable_nil_iff, enter_eq_error_iff, List.mem_reverse]
  constructor
  · rintro ⟨before, p, hmeets, hsound, hcircular | ⟨hnew, hp⟩⟩
    · exact ⟨before, p, hmeets, hsound, .inl hcircular⟩
    · refine ⟨before, p, hmeets, hsound, .inr ⟨hnew, ?_, hp, FileSystem.validate_eq_error hp⟩⟩
      exact FileSystem.isFile_eq_false hp
  · rintro ⟨before, p, hmeets, hsound, hcircular | ⟨hnew, -, hp, -⟩⟩
    · exact ⟨before, p, hmeets, hsound, .inl hcircular⟩
    · exact ⟨before, p, hmeets, hsound, .inr ⟨hnew, hp⟩⟩

/-- Chains follow the unfolding of references. From an absolute start, a chain is built exactly when
the depth-first unfolding of its normalized form never meets a path twice and meets regular files
only. The chain is then the post-order of that unfolding. Otherwise the problem is that of its first
defect, where a path met before counts as circular even when it is no file. -/
theorem build_follows_unfolding (fs : FileSystem) (home : Option FilePath) (start : FilePath)
    (hs : start.isAbsolute = true) :
    ((∃ files, build fs home start = .ok files) ↔
      ∀ n, Sound fs (meets fs home n [start.normalize])) ∧
    (∀ files, build fs home start = .ok files ↔
      ∃ t : Unfolding fs home [start.normalize], Sound fs t.preOrder ∧ files = t.postOrder) ∧
    (∀ files, build fs home start = .ok files →
      files.Pairwise (fun p q => p.sameAs q = false) ∧ files.getLast? = some start.normalize ∧
        ∀ p, p ∈ files ↔ ∃ n, p ∈ meets fs home n [start.normalize]) ∧
    (∀ e, build fs home start = .error e ↔
      ∃ before p, meets fs home (before.length + 1) [start.normalize] = before ++ [p] ∧
        Sound fs before ∧
        (((∃ q ∈ before, p.sameAs q = true) ∧ e = .circularDependency p) ∨
          ((∀ q ∈ before, p.sameAs q = false) ∧ fs.isFile p = false ∧
            fs.validate p = .error e ∧ ∃ reason, e = .pathInvalid p reason))) := by
  refine ⟨⟨?_, ?_⟩, fun files => build_eq_ok_iff hs, ?_, ?_⟩
  · rintro ⟨files, hfiles⟩ n
    obtain ⟨t, ht, -⟩ := (build_eq_ok_iff hs).mp hfiles
    exact sound_of_prefix (meets_prefix_preOrder t n) ht
  · intro hsound
    rcases build_outcome fs home hs with ⟨t, -, hresult⟩ | ⟨e, hbreak, -⟩
    · exact ⟨_, hresult⟩
    · obtain ⟨before, p, hmeets, -, hp⟩ := hbreak
      have henter := enterable_nil_iff.mpr (hsound (before.length + 1))
      rw [hmeets] at henter
      exact absurd henter (not_enterable_of_enter_error hp (List.prefix_refl _))
  · intro files hfiles
    obtain ⟨t, ht, rfl⟩ := (build_eq_ok_iff hs).mp hfiles
    refine ⟨pairwise_postOrder ht, getLast?_postOrder t, fun p => ?_⟩
    rw [(postOrder_perm_preOrder t).mem_iff]
    constructor
    · intro hp
      exact ⟨t.preOrder.length, by rwa [preOrder_eq_meets]⟩
    · rintro ⟨n, hp⟩
      exact (meets_prefix_preOrder t n).subset hp
  · intro e
    rw [build_eq_error_iff hs, breaksOff_iff]

/-- Two files that share a parent. -/
def sharedParent : FileSystem :=
  ⟨[(["r", "a.yml"], .file "inherit: [b.yml, c.yml]\n".toUTF8),
    (["r", "b.yml"], .file "inherit: [d.yml]\n".toUTF8),
    (["r", "c.yml"], .file "inherit: [./d.yml]\n".toUTF8),
    (["r", "d.yml"], .file "".toUTF8)], []⟩

/-- A parent that two files share is met twice, so it counts as circular. -/
theorem build_follows_unfolding_shared_parent :
    (FilePath.mk "/r/x/../a.yml").isAbsolute = true ∧
      build sharedParent none ⟨"/r/x/../a.yml"⟩ = .error (.circularDependency ⟨"/r/d.yml"⟩) := by
  have hs : (FilePath.mk "/r/x/../a.yml").isAbsolute = true := by decide
  refine ⟨hs, ((build_follows_unfolding sharedParent none _ hs).2.2.2 _).mpr ?_⟩
  refine ⟨[⟨"/r/a.yml"⟩, ⟨"/r/b.yml"⟩, ⟨"/r/d.yml"⟩, ⟨"/r/c.yml"⟩], ⟨"/r/d.yml"⟩, ?_, ⟨?_, ?_⟩,
    .inl ⟨⟨⟨"/r/d.yml"⟩, ?_, ?_⟩, rfl⟩⟩
  · decide +kernel
  · decide +kernel
  · decide +kernel
  · decide
  · decide

end LayeredConfig.Chain
