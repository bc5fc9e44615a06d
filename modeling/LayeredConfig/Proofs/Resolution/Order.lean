import LayeredConfig.Proofs.Chain.ParentsFirst
import LayeredConfig.Proofs.Resolution.Layers

/-
  The order in which inheritance mode applies files. The chains of the candidates stand one after
  another, lowest priority first, and of each file only the first occurrence is kept
  (`chainFiles_eq`). What is kept still puts parents first (`parentsFirst_extend`), because the
  parents of a first occurrence stand before it in its own chain, and a file has the same parents
  in every chain. `applied_in_order` says so of whole resolutions.
-/

namespace LayeredConfig.Resolution

open Chain (Listed ParentsFirst)

variable {fs : FileSystem} {home : Option FilePath} {files more : List FilePath} {p : FilePath}

/-! ## Files after files -/

theorem extend_cons (files : List FilePath) (p : FilePath) (more : List FilePath) :
    extend files (p :: more) =
      extend (if files.any p.sameAs then files else files ++ [p]) more := rfl

theorem extend_append (files more others : List FilePath) :
    extend files (more ++ others) = extend (extend files more) others := List.foldl_append

/-- A file that is listed already is left out. -/
theorem extend_of_listed (h : Listed files p) (more : List FilePath) :
    extend files (p :: more) = extend files more := by
  rw [extend_cons, if_pos (Chain.any_sameAs_iff.mpr h)]

theorem extend_of_not_listed (h : ¬ Listed files p) (more : List FilePath) :
    extend files (p :: more) = extend (files ++ [p]) more := by
  rw [extend_cons, if_neg fun hany => h (Chain.any_sameAs_iff.mp hany)]

theorem mem_extend {q : FilePath} (h : q ∈ extend files more) : q ∈ files ∨ q ∈ more := by
  induction more generalizing files with
  | nil => exact .inl h
  | cons p rest ih =>
    by_cases hp : Listed files p
    · rw [extend_of_listed hp] at h
      exact (ih h).imp_right (List.mem_cons_of_mem p)
    · rw [extend_of_not_listed hp] at h
      rcases ih h with hmem | hrest
      · rw [List.mem_append, List.mem_singleton] at hmem
        rcases hmem with hmem | rfl
        · exact .inl hmem
        · exact .inr List.mem_cons_self
      · exact .inr (List.mem_cons_of_mem p hrest)

theorem prefix_extend (files more : List FilePath) : files <+: extend files more := by
  induction more generalizing files with
  | nil => exact List.prefix_refl _
  | cons p rest ih =>
    by_cases hp : Listed files p
    · rw [extend_of_listed hp]
      exact ih files
    · rw [extend_of_not_listed hp]
      exact (List.prefix_append _ _).trans (ih _)

/-- Every file that is added is listed in the end. -/
theorem listed_extend (files : List FilePath) {q : FilePath} (h : q ∈ more) :
    Listed (extend files more) q := by
  induction more generalizing files with
  | nil => cases h
  | cons p rest ih =>
    rw [extend_cons]
    rcases List.mem_cons.mp h with rfl | h
    · refine Listed.mono (prefix_extend _ rest).subset ?_
      split
      · next hany => exact Chain.any_sameAs_iff.mp hany
      · exact Chain.listed_of_mem (List.mem_append_right _ (List.mem_singleton.mpr rfl))
    · exact ih _ h

/-- Files that differ go on to differ. -/
theorem pairwise_extend (h : files.Pairwise fun p q => p.sameAs q = false) (more : List FilePath) :
    (extend files more).Pairwise fun p q => p.sameAs q = false := by
  induction more generalizing files with
  | nil => exact h
  | cons p rest ih =>
    by_cases hp : Listed files p
    · rw [extend_of_listed hp]
      exact ih h
    · rw [extend_of_not_listed hp]
      refine ih (List.pairwise_append.mpr ⟨h, List.pairwise_singleton _ _, ?_⟩)
      intro q hq r hr
      rw [List.mem_singleton] at hr
      subst hr
      rw [Chain.sameAs_comm, Bool.eq_false_iff]
      exact fun hsame => hp ⟨q, hq, hsame⟩

/-- Adding files is appending the first occurrences of those that are not listed yet. -/
theorem extend_eq_append_eraseDupsBy (files more : List FilePath) :
    extend files more =
      files ++ (more.filter fun p => !files.any p.sameAs).eraseDupsBy FilePath.sameAs := by
  induction more generalizing files with
  | nil => exact (List.append_nil files).symm
  | cons p rest ih =>
    rw [extend_cons, ih, List.filter_cons]
    cases hany : files.any p.sameAs with
    | true => simp
    | false =>
      simp [List.eraseDupsBy_cons, List.filter_filter, Bool.and_comm]

/-- Files added with their parents before them leave a list that puts parents first. -/
theorem parentsFirst_extend (h : ParentsFirst fs home [] files) {earlier : List FilePath}
    (hearlier : ∀ q ∈ earlier, Listed files q) (hmore : ParentsFirst fs home earlier more) :
    ParentsFirst fs home [] (extend files more) := by
  induction more generalizing files earlier with
  | nil => exact h
  | cons p rest ih =>
    obtain ⟨hparents, hrest⟩ := hmore
    by_cases hp : Listed files p
    · rw [extend_of_listed hp]
      refine ih h (fun q hq => ?_) hrest
      rcases List.mem_cons.mp hq with rfl | hq
      · exact hp
      · exact hearlier q hq
    · rw [extend_of_not_listed hp]
      refine ih (Chain.parentsFirst_append.mpr ⟨h, fun parent hparent => ?_, trivial⟩)
        (fun q hq => ?_) hrest
      · obtain ⟨q, hq, hsame⟩ := hparents parent hparent
        rw [List.append_nil]
        refine Listed.mono (fun r hr => List.mem_reverse.mpr hr) ((hearlier q hq).of_sameAs ?_)
        rw [Chain.sameAs_comm]
        exact hsame
      · rcases List.mem_cons.mp hq with rfl | hq
        · exact Chain.listed_of_mem (List.mem_append_right _ (List.mem_singleton.mpr rfl))
        · exact (hearlier q hq).mono fun r hr => List.mem_append_left _ hr

/-- The last of different files is the last in the end, unless it was listed before. -/
theorem getLast?_extend (h : ¬ Listed files p) (hmore : more.getLast? = some p)
    (hpairwise : more.Pairwise fun p q => p.sameAs q = false) :
    (extend files more).getLast? = some p := by
  obtain ⟨init, rfl⟩ := List.getLast?_eq_some_iff.mp hmore
  rw [List.pairwise_append] at hpairwise
  have hnew : ¬ Listed (extend files init) p := by
    rintro ⟨q, hq, hsame⟩
    rcases mem_extend hq with hold | hinit
    · exact h ⟨q, hold, hsame⟩
    · have hdiffer := hpairwise.2.2 q hinit p (List.mem_singleton.mpr rfl)
      rw [Chain.sameAs_comm, hsame] at hdiffer
      cases hdiffer
  rw [extend_append, extend_of_not_listed hnew]
  exact List.getLast?_concat

/-! ## Files of all chains -/

/-- Candidates whose chains can all be built have them in their order. -/
theorem exists_mapM_build {candidates : List FilePath}
    (h : ∀ c ∈ candidates, ∃ chain, Chain.build fs home c = .ok chain) :
    ∃ chains, candidates.mapM (Chain.build fs home) = .ok chains := by
  induction candidates with
  | nil => exact ⟨[], rfl⟩
  | cons c rest ih =>
    obtain ⟨chain, hchain⟩ := h c List.mem_cons_self
    obtain ⟨chains, hchains⟩ := ih fun d hd => h d (List.mem_cons_of_mem _ hd)
    refine ⟨chain :: chains, ?_⟩
    rw [List.mapM_cons, hchain, ok_bind, hchains, ok_bind]
    rfl

theorem build_of_mem_mapM {candidates : List FilePath} {chains : List (List FilePath)}
    (h : candidates.mapM (Chain.build fs home) = .ok chains) :
    ∀ chain ∈ chains, ∃ c ∈ candidates, Chain.build fs home c = .ok chain := by
  induction candidates generalizing chains with
  | nil =>
    cases h
    intro chain hchain
    cases hchain
  | cons c rest ih =>
    rw [List.mapM_cons] at h
    obtain ⟨first, hfirst, hmore⟩ := bind_eq_ok.mp h
    obtain ⟨others, hothers, hdone⟩ := bind_eq_ok.mp hmore
    cases hdone
    intro chain hchain
    rcases List.mem_cons.mp hchain with rfl | hchain
    · exact ⟨c, List.mem_cons_self, hfirst⟩
    · obtain ⟨d, hd, hbuild⟩ := ih hothers chain hchain
      exact ⟨d, List.mem_cons_of_mem _ hd, hbuild⟩

theorem exists_chain_of_mem {candidates : List FilePath} {chains : List (List FilePath)}
    (h : candidates.mapM (Chain.build fs home) = .ok chains) {c : FilePath}
    (hc : c ∈ candidates) : ∃ chain ∈ chains, Chain.build fs home c = .ok chain := by
  induction candidates generalizing chains with
  | nil => cases hc
  | cons d rest ih =>
    rw [List.mapM_cons] at h
    obtain ⟨first, hfirst, hmore⟩ := bind_eq_ok.mp h
    obtain ⟨others, hothers, hdone⟩ := bind_eq_ok.mp hmore
    cases hdone
    rcases List.mem_cons.mp hc with rfl | hc
    · exact ⟨first, List.mem_cons_self, hfirst⟩
    · obtain ⟨chain, hchain, hbuild⟩ := ih hothers hc
      exact ⟨chain, List.mem_cons_of_mem _ hchain, hbuild⟩

theorem of_mapM_build_concat {candidates : List FilePath} {c : FilePath}
    {chains : List (List FilePath)}
    (h : (candidates ++ [c]).mapM (Chain.build fs home) = .ok chains) :
    ∃ others chain, candidates.mapM (Chain.build fs home) = .ok others ∧
      Chain.build fs home c = .ok chain ∧ chains = others ++ [chain] := by
  rw [List.mapM_append] at h
  obtain ⟨others, hothers, hmore⟩ := bind_eq_ok.mp h
  obtain ⟨last, hlast, hdone⟩ := bind_eq_ok.mp hmore
  rw [List.mapM_cons] at hlast
  obtain ⟨chain, hchain, hnone⟩ := bind_eq_ok.mp hlast
  cases hnone
  cases hdone
  exact ⟨others, chain, hothers, hchain, rfl⟩

/-- One chain after another is added to the files. -/
theorem foldlM_extend_eq {candidates : List FilePath} {chains : List (List FilePath)}
    (h : candidates.mapM (Chain.build fs home) = .ok chains) (files : List FilePath) :
    (candidates.foldlM (fun files c => do return extend files (← Chain.build fs home c)) files :
      Except Problem (List FilePath)) = .ok (extend files chains.flatten) := by
  induction candidates generalizing chains files with
  | nil =>
    cases h
    rfl
  | cons c rest ih =>
    rw [List.mapM_cons] at h
    obtain ⟨chain, hchain, hmore⟩ := bind_eq_ok.mp h
    obtain ⟨others, hothers, hdone⟩ := bind_eq_ok.mp hmore
    cases hdone
    rw [List.foldlM_cons, hchain, ok_bind, List.flatten_cons, extend_append]
    exact ih hothers (extend files chain)

/-- Files added to none are their first occurrences. -/
theorem extend_nil (more : List FilePath) :
    extend [] more = more.eraseDupsBy FilePath.sameAs := by
  have hall : (more.filter fun p => !([] : List FilePath).any p.sameAs) = more :=
    List.filter_eq_self.mpr fun _ _ => rfl
  rw [extend_eq_append_eraseDupsBy, List.nil_append, hall]

/-- The files of all candidates are those of their chains one after another, lowest priority
first, each file once. -/
theorem chainFiles_eq {candidates : List FilePath} {chains : List (List FilePath)}
    (h : candidates.reverse.mapM (Chain.build fs home) = .ok chains) :
    chainFiles fs home candidates = .ok (extend [] chains.flatten) :=
  foldlM_extend_eq h []

theorem parentsFirst_flatten {chains : List (List FilePath)}
    (h : ∀ chain ∈ chains, ∃ c, Chain.build fs home c = .ok chain) (earlier : List FilePath) :
    ParentsFirst fs home earlier chains.flatten := by
  induction chains generalizing earlier with
  | nil => trivial
  | cons chain rest ih =>
    obtain ⟨c, hc⟩ := h chain List.mem_cons_self
    rw [List.flatten_cons, Chain.parentsFirst_append]
    exact ⟨Chain.parentsFirst_of_build hc earlier,
      ih (fun other hother => h other (List.mem_cons_of_mem _ hother)) _⟩

/-- Every file that is added stands among all files after its parents. -/
theorem parents_before_extend {chains : List (List FilePath)}
    (h : ∀ chain ∈ chains, ∃ c, Chain.build fs home c = .ok chain) {chain : List FilePath}
    (hchain : chain ∈ chains) (hp : p ∈ chain) :
    ∃ before q after, extend [] chains.flatten = before ++ q :: after ∧ q.sameAs p = true ∧
      ∀ parent ∈ Chain.parentPaths fs home p, Listed before parent := by
  obtain ⟨q, hq, hsame⟩ := listed_extend [] (List.mem_flatten.mpr ⟨chain, hchain, hp⟩)
  obtain ⟨before, after, hsplit⟩ := List.append_of_mem hq
  have hfirst : ParentsFirst fs home [] (extend [] chains.flatten) :=
    parentsFirst_extend trivial (fun _ hr => absurd hr List.not_mem_nil)
      (parentsFirst_flatten h [])
  have hisFile : ∀ r ∈ chains.flatten, fs.isFile r = true := by
    intro r hr
    obtain ⟨other, hother, hr⟩ := List.mem_flatten.mp hr
    obtain ⟨c, hc⟩ := h other hother
    exact Chain.isFile_of_mem_build hc r hr
  have hq' : q ∈ chains.flatten := (mem_extend hq).resolve_left List.not_mem_nil
  -- `q` may be another spelling of `p` that another chain put first
  have hparents : Chain.parentPaths fs home p = Chain.parentPaths fs home q :=
    Chain.parentPaths_eq_of_sameAs hsame
      (hisFile p (List.mem_flatten.mpr ⟨chain, hchain, hp⟩)) (hisFile q hq')
  refine ⟨before, q, after, hsplit, ?_, ?_⟩
  · rw [Chain.sameAs_comm]
    exact hsame
  · rw [hsplit] at hfirst
    rw [hparents]
    exact Chain.listed_of_parentsFirst hfirst

/-- The candidate of highest priority comes last, unless another chain has it. -/
theorem listed_or_getLast?_extend {top : FilePath} {lower : List FilePath}
    {chains : List (List FilePath)}
    (h : (top :: lower).reverse.mapM (Chain.build fs home) = .ok chains) :
    (∃ c ∈ lower, ∃ chain, Chain.build fs home c = .ok chain ∧ Listed chain top.normalize) ∨
      (extend [] chains.flatten).getLast? = some top.normalize := by
  rw [List.reverse_cons] at h
  obtain ⟨others, chain, hothers, hchain, rfl⟩ := of_mapM_build_concat h
  by_cases hlisted : Listed (extend [] others.flatten) top.normalize
  · obtain ⟨q, hq, hsame⟩ := hlisted
    have hmem : q ∈ others.flatten := (mem_extend hq).resolve_left List.not_mem_nil
    obtain ⟨other, hother, hq⟩ := List.mem_flatten.mp hmem
    obtain ⟨c, hc, hbuild⟩ := build_of_mem_mapM hothers other hother
    exact .inl ⟨c, List.mem_reverse.mp hc, other, hbuild, q, hq, hsame⟩
  · refine .inr ?_
    rw [List.flatten_append, List.flatten_singleton, extend_append]
    exact getLast?_extend hlisted (Chain.getLast?_of_build hchain) (Chain.pairwise_of_build hchain)

/-- When all chains can be built, the files applied are those of the chains one after another,
lowest priority first, of each file the first occurrence. No file is applied twice, no file of a
chain is missing, and every file is applied after its parents, whichever chain they came from. The
candidate of highest priority is applied last, unless it is in the chain of another candidate. -/
theorem applied_in_order (fs : FileSystem) (home : Option FilePath) (search : SearchPath)
    (environment : Environment)
    (hbuild : ∀ c ∈ search.existing fs, ∃ chain, Chain.build fs home c = .ok chain) :
    ∃ chains applied,
      (search.existing fs).reverse.mapM (Chain.build fs home) = .ok chains ∧
      (load fs home search .inheritance environment).applied = applied ∧
      applied = chains.flatten.eraseDupsBy FilePath.sameAs ∧
      (applied.Pairwise fun p q => p.sameAs q = false) ∧
      (∀ chain ∈ chains, ∀ p ∈ chain,
        ∃ before q after, applied = before ++ q :: after ∧ q.sameAs p = true ∧
          ∀ parent ∈ Chain.parentPaths fs home p, Listed before parent) ∧
      ∀ top lower, search.existing fs = top :: lower →
        (∃ c ∈ lower, ∃ chain,
            Chain.build fs home c = .ok chain ∧ Listed chain top.normalize) ∨
          applied.getLast? = some top.normalize := by
  obtain ⟨chains, hchains⟩ :=
    exists_mapM_build fun c hc => hbuild c (List.mem_reverse.mp hc)
  obtain ⟨c, -, hlayers⟩ := inheritanceLayers_of_chainFiles (chainFiles_eq hchains)
  obtain ⟨settings, -, hload⟩ := load_eq fs home search .inheritance environment
  have hchain : ∀ chain ∈ chains, ∃ c, Chain.build fs home c = .ok chain := by
    intro chain hmem
    obtain ⟨c, -, hc⟩ := build_of_mem_mapM hchains chain hmem
    exact ⟨c, hc⟩
  refine ⟨chains, extend [] chains.flatten, hchains, ?_, extend_nil _,
    pairwise_extend List.Pairwise.nil _, fun chain hmem p hp =>
    parents_before_extend hchain hmem hp, fun top lower htop => ?_⟩
  · rw [hload, fileLayers, hlayers]
  · rw [htop] at hchains
    exact listed_or_getLast?_extend hchains

/-- Two files with a parent in common, which each refers to in its own spelling. -/
def sharedParent : FileSystem :=
  ⟨[(["r", "a.yml"], .file "inherit: [base.yml]\n".toUTF8),
    (["r", "b.yml"], .file "inherit: [/r//base.yml]\n".toUTF8),
    (["r", "base.yml"], .file "".toUTF8)], []⟩

/-- The parent that both chains have is applied once, before both. -/
theorem applied_in_order_shared_parent :
    (∀ c ∈ SearchPath.existing sharedParent [⟨"/r/a.yml"⟩, ⟨"/r/b.yml"⟩],
      ∃ chain, Chain.build sharedParent none c = .ok chain) ∧
    (load sharedParent none [⟨"/r/a.yml"⟩, ⟨"/r/b.yml"⟩] .inheritance []).applied =
      [⟨"/r//base.yml"⟩, ⟨"/r/b.yml"⟩, ⟨"/r/a.yml"⟩] := by
  have hbuild : ∀ c ∈ SearchPath.existing sharedParent [⟨"/r/a.yml"⟩, ⟨"/r/b.yml"⟩],
      ∃ chain, Chain.build sharedParent none c = .ok chain := by
    have hisOk : ∀ c ∈ SearchPath.existing sharedParent [⟨"/r/a.yml"⟩, ⟨"/r/b.yml"⟩],
        (Chain.build sharedParent none c).isOk = true := by decide +kernel
    exact fun c hc => isOk_iff.mp (hisOk c hc)
  refine ⟨hbuild, ?_⟩
  obtain ⟨chains, applied, hchains, happlied, hfirst, -⟩ :=
    applied_in_order sharedParent none _ [] hbuild
  have hthose : ((SearchPath.existing sharedParent [⟨"/r/a.yml"⟩, ⟨"/r/b.yml"⟩]).reverse.mapM
      (Chain.build sharedParent none)).toOption =
        some [[⟨"/r//base.yml"⟩, ⟨"/r/b.yml"⟩], [⟨"/r/base.yml"⟩, ⟨"/r/a.yml"⟩]] := by
    decide +kernel
  rw [hchains] at hthose
  cases hthose
  rw [happlied, hfirst]
  decide +kernel

end LayeredConfig.Resolution
