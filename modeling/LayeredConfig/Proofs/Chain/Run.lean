import LayeredConfig.Proofs.Chain.Depth
import LayeredConfig.Proofs.FilePath.Canonical

/-
  Walks without a bound on their depth. A `Run` is the recursion along references as it unrolls,
  together with the paths whose references it reads; nothing in it says how deep it may go. Paths
  have at most one run (`Run.unique`), and what a run reads could be entered path after path
  (`Run.enterable`), so it reads no path twice.

  From an absolute start every walk has a run, which is that the recursion ends (`exists_run`). The
  files met are pairwise different `candidates`, so each path that is entered leaves less room for
  those below it and after it. A run that ends is what `visit` computes at every depth greater than
  the number of paths read (`Run.visit_eq`), so the bound of `build` never cuts a walk short
  (`build_terminates`).
-/

namespace LayeredConfig.Chain

variable {fs : FileSystem} {home : Option FilePath} {start : FilePath} {w next : Walk}
  {ps reads : List FilePath} {result : Except Problem Walk}

/-- The recursion along the references of paths, one path after another. It goes on from a walk,
reads the references of the paths `reads` in this order, and ends with a walk or a problem. -/
inductive Run (fs : FileSystem) (home : Option FilePath) :
    Walk → List FilePath → List FilePath → Except Problem Walk → Prop where
  | done {w : Walk} : Run fs home w [] [] (.ok w)
  | refused {w : Walk} {p : FilePath} {more : List FilePath} {e : Problem}
    (hp : enter fs w.met p = .error e) : Run fs home w (p :: more) [] (.error e)
  | broken {w : Walk} {p : FilePath} {more reads : List FilePath} {e : Problem}
    (hp : enter fs w.met p = .ok ())
    (hparents : Run fs home ⟨p :: w.met, w.chain⟩ (parentPaths fs home p) reads (.error e)) :
    Run fs home w (p :: more) (p :: reads) (.error e)
  | visited {w next : Walk} {p : FilePath} {more reads later : List FilePath}
    {result : Except Problem Walk} (hp : enter fs w.met p = .ok ())
    (hparents : Run fs home ⟨p :: w.met, w.chain⟩ (parentPaths fs home p) reads (.ok next))
    (hmore : Run fs home ⟨next.met, p :: next.chain⟩ more later result) :
    Run fs home w (p :: more) (p :: (reads ++ later)) result

/-! ## What a run reads -/

/-- The files met after a run are those met before it and those it has read. -/
theorem Run.met_eq (h : Run fs home w ps reads (.ok next)) :
    next.met = reads.reverse ++ w.met := by
  -- the result is an index of the run, and the induction needs it as a variable
  generalize hresult : Except.ok next = result at h
  induction h generalizing next with
  | done =>
    cases hresult
    rfl
  | refused _ => cases hresult
  | broken _ _ _ => cases hresult
  | visited _ _ _ ihp ihm =>
    rw [ihm hresult, ihp rfl, List.reverse_cons, List.reverse_append]
    simp only [List.append_assoc, List.singleton_append]

/-- The paths that a run reads can be entered one after another. -/
theorem Run.enterable (h : Run fs home w ps reads result) : Enterable fs w.met reads := by
  induction h with
  | done => trivial
  | refused _ => trivial
  | broken hp _ ih => exact ⟨hp, ih⟩
  | visited hp hparents _ ihp ihm =>
    have hmet := hparents.met_eq
    refine ⟨hp, enterable_append.mpr ⟨ihp, ?_⟩⟩
    rw [← hmet]
    exact ihm

/-- All paths that a run reads are reached when its first paths are. -/
theorem Run.reached (h : Run fs home w ps reads result)
    (hps : ∀ p ∈ ps, Reached fs home start p) : ∀ p ∈ reads, Reached fs home start p := by
  induction h with
  | done => exact hps
  | refused _ =>
    intro q hq
    cases hq
  | @broken w p more reads e hp _ ih =>
    have hfirst : Reached fs home start p := hps p List.mem_cons_self
    refine List.forall_mem_cons.mpr ⟨hfirst, ih fun q hq => ?_⟩
    exact .parent hfirst (enter_eq_ok_iff.mp hp).2 hq
  | @visited w next p more reads later result hp _ _ ihp ihm =>
    have hfirst : Reached fs home start p := hps p List.mem_cons_self
    have hparents : ∀ q ∈ reads, Reached fs home start q :=
      ihp fun q hq => .parent hfirst (enter_eq_ok_iff.mp hp).2 hq
    have hlater : ∀ q ∈ later, Reached fs home start q :=
      ihm fun q hq => hps q (List.mem_cons_of_mem _ hq)
    exact List.forall_mem_cons.mpr ⟨hfirst, List.forall_mem_append.mpr ⟨hparents, hlater⟩⟩

/-- The recursion is determined by where it starts. -/
theorem Run.unique (h : Run fs home w ps reads result) {reads' : List FilePath}
    {result' : Except Problem Walk} (h' : Run fs home w ps reads' result') :
    reads' = reads ∧ result' = result := by
  induction h generalizing reads' result' with
  | done =>
    cases h'
    exact ⟨rfl, rfl⟩
  | refused hp =>
    cases h' with
    | refused hp' =>
      cases hp.symm.trans hp'
      exact ⟨rfl, rfl⟩
    | broken hp' _ => cases hp.symm.trans hp'
    | visited hp' _ _ => cases hp.symm.trans hp'
  | broken hp _ ih =>
    cases h' with
    | refused hp' => cases hp.symm.trans hp'
    | broken _ hparents' =>
      obtain ⟨rfl, heq⟩ := ih hparents'
      exact ⟨rfl, heq⟩
    | visited _ hparents' _ =>
      obtain ⟨-, heq⟩ := ih hparents'
      cases heq
  | visited hp _ _ ihp ihm =>
    cases h' with
    | refused hp' => cases hp.symm.trans hp'
    | broken _ hparents' =>
      obtain ⟨-, heq⟩ := ihp hparents'
      cases heq
    | visited _ hparents' hmore' =>
      obtain ⟨rfl, heq⟩ := ihp hparents'
      cases heq
      obtain ⟨rfl, rfl⟩ := ihm hmore'
      exact ⟨rfl, rfl⟩

/-! ## Depth -/

theorem visit_succ (depth : Nat) (w : Walk) (p : FilePath) :
    visit fs home (depth + 1) w p = (do
      enter fs w.met p
      let w ← (parentPaths fs home p).foldlM (visit fs home depth) { w with met := p :: w.met }
      return { w with chain := p :: w.chain }) := rfl

/-- A depth greater than the number of paths read makes no difference. -/
theorem Run.foldlM_visit (h : Run fs home w ps reads result) {depth : Nat}
    (hdepth : reads.length < depth) : ps.foldlM (visit fs home depth) w = result := by
  induction h generalizing depth with
  | done => rfl
  | refused hp =>
    obtain ⟨below, rfl⟩ := Nat.exists_eq_add_of_lt hdepth
    rw [List.foldlM_cons, visit_succ, hp, error_bind, error_bind]
  | broken hp _ ih =>
    obtain ⟨below, rfl⟩ : ∃ below, depth = below + 1 := ⟨depth - 1, by omega⟩
    rw [List.length_cons] at hdepth
    rw [List.foldlM_cons, visit_succ, hp, ok_bind, ih (by omega), error_bind, error_bind]
  | visited hp _ _ ihp ihm =>
    obtain ⟨below, rfl⟩ : ∃ below, depth = below + 1 := ⟨depth - 1, by omega⟩
    rw [List.length_cons, List.length_append] at hdepth
    rw [List.foldlM_cons, visit_succ, hp, ok_bind, ihp (by omega), ok_bind]
    exact ihm (by omega)

theorem Run.visit_eq {p : FilePath} (h : Run fs home w [p] reads result) {depth : Nat}
    (hdepth : reads.length < depth) : visit fs home depth w p = result := by
  have hvisit := h.foldlM_visit hdepth
  rw [List.foldlM_cons] at hvisit
  rw [← hvisit]
  cases visit fs home depth w p <;> rfl

/-! ## Termination -/

/-- Reached paths have a run after a trail that leaves room for at most `room` more files. -/
theorem exists_run_of_room (hs : start.isAbsolute = true) (room : Nat)
    (hw : Trail fs home start w.met) (hps : ∀ p ∈ ps, Reached fs home start p)
    (hroom : depthBound fs ≤ room + w.met.length) :
    ∃ reads result, Run fs home w ps reads result := by
  induction room generalizing w ps with
  | zero =>
    have := length_lt_depthBound hs hw
    omega
  | succ room ih =>
    -- the room shrinks for the parents of a path, and the list of paths for those after it
    induction ps generalizing w with
    | nil => exact ⟨[], .ok w, .done⟩
    | cons p more ihmore =>
      have hp : Reached fs home start p := hps p List.mem_cons_self
      cases henter : enter fs w.met p with
      | error e => exact ⟨[], .error e, .refused henter⟩
      | ok u =>
        have hfile : fs.isFile p = true := (enter_eq_ok_iff.mp henter).2
        have hfirst : Enterable fs w.met [p] := ⟨henter, trivial⟩
        have htrail : Trail fs home start (p :: w.met) :=
          trail_append hw hfirst fun q hq => List.mem_singleton.mp hq ▸ hp
        have hparents : ∀ q ∈ parentPaths fs home p, Reached fs home start q :=
          fun q hq => .parent hp hfile hq
        have hless : depthBound fs ≤ room + (p :: w.met).length := by
          rw [List.length_cons]
          omega
        obtain ⟨reads, result, hrun⟩ := ih (w := ⟨p :: w.met, w.chain⟩) htrail hparents hless
        cases result with
        | error e => exact ⟨p :: reads, .error e, .broken henter hrun⟩
        | ok next =>
          have hmet : next.met = reads.reverse ++ p :: w.met := hrun.met_eq
          have hnext : Trail fs home start next.met := by
            rw [hmet]
            exact trail_append htrail hrun.enterable (hrun.reached hparents)
          have hlater : depthBound fs ≤ room + 1 + next.met.length := by
            rw [hmet, List.length_append, List.length_cons]
            omega
          obtain ⟨later, result, hmore⟩ := ihmore (w := ⟨next.met, p :: next.chain⟩) hnext
            (fun q hq => hps q (List.mem_cons_of_mem _ hq)) hlater
          exact ⟨p :: (reads ++ later), result, .visited henter hrun hmore⟩

/-- The recursion along references ends. -/
theorem exists_run (fs : FileSystem) (home : Option FilePath) (hs : start.isAbsolute = true) :
    ∃ reads result, Run fs home ⟨[], []⟩ [start.normalize] reads result := by
  have hroot := (FilePath.isAbsolute_normalize start).trans hs
  refine exists_run_of_room hroot (depthBound fs) trail_nil (fun p hp => ?_)
    (Nat.le_add_right _ _)
  rw [List.mem_singleton.mp hp]
  exact .start

/-- From an absolute start, the paths that are read are pairwise different, and fewer than the
depth of `build`. -/
theorem Run.reads_distinct (hs : start.isAbsolute = true)
    (h : Run fs home ⟨[], []⟩ [start.normalize] reads result) :
    reads.Pairwise (fun p q => p.sameAs q = false) ∧ reads.length < depthBound fs := by
  have henter : Enterable fs [] reads := h.enterable
  have hreached : ∀ p ∈ reads, Reached fs home start.normalize p := by
    refine h.reached fun p hp => ?_
    rw [List.mem_singleton.mp hp]
    exact .start
  have htrail := trail_append trail_nil henter hreached
  have hlength := length_lt_depthBound ((FilePath.isAbsolute_normalize start).trans hs) htrail
  rw [List.append_nil, List.length_reverse] at hlength
  exact ⟨(enterable_nil_iff.mp henter).1, hlength⟩

/-- What building a chain gives is read off the run. -/
theorem Run.build_eq (hs : start.isAbsolute = true)
    (h : Run fs home ⟨[], []⟩ [start.normalize] reads result) :
    build fs home start = result.map fun w => w.chain.reverse := by
  rw [build, h.visit_eq (h.reads_distinct hs).2]
  cases result <;> rfl

/-- Building a chain terminates. From an absolute start, the recursion along references, which has
no bound of its own, ends in exactly one way, however files refer to each other. It reads the
references of pairwise different paths, fewer than `depthBound`; every greater depth than their
number gives what the recursion gives, and so does `build`. -/
theorem build_terminates (fs : FileSystem) (home : Option FilePath) (start : FilePath)
    (hs : start.isAbsolute = true) :
    ∃ reads result, Run fs home ⟨[], []⟩ [start.normalize] reads result ∧
      (∀ reads' result', Run fs home ⟨[], []⟩ [start.normalize] reads' result' →
        reads' = reads ∧ result' = result) ∧
      reads.Pairwise (fun p q => p.sameAs q = false) ∧ reads.length < depthBound fs ∧
      (∀ depth, reads.length < depth → visit fs home depth ⟨[], []⟩ start.normalize = result) ∧
      build fs home start = result.map fun w => w.chain.reverse := by
  obtain ⟨reads, result, hrun⟩ := exists_run fs home hs
  obtain ⟨hdistinct, hlength⟩ := hrun.reads_distinct hs
  exact ⟨reads, result, hrun, fun _ _ h => hrun.unique h, hdistinct, hlength,
    fun _ hdepth => hrun.visit_eq hdepth, hrun.build_eq hs⟩

/-- Two files, of which the second refers to itself in another spelling. -/
def selfReference : FileSystem :=
  ⟨[(["r", "a.yml"], .file "inherit: [~/b.yml]\n".toUTF8),
    (["r", "b.yml"], .file "inherit: [h/../b.yml]\n".toUTF8),
    (["r", "h"], .directory)], []⟩

/-- With `/r/h/..` as the home directory, one file is read under two spellings before the walk comes
to one of them again. -/
theorem build_terminates_two_spellings :
    (FilePath.mk "/r/x/../a.yml").isAbsolute = true ∧
      Run selfReference (some ⟨"/r/h/.."⟩) ⟨[], []⟩ [FilePath.normalize ⟨"/r/x/../a.yml"⟩]
        [⟨"/r/a.yml"⟩, ⟨"/r/h/../b.yml"⟩, ⟨"/r/b.yml"⟩]
        (.error (.circularDependency ⟨"/r/b.yml"⟩)) ∧
      build selfReference (some ⟨"/r/h/.."⟩) ⟨"/r/x/../a.yml"⟩ =
        .error (.circularDependency ⟨"/r/b.yml"⟩) := by
  have hs : (FilePath.mk "/r/x/../a.yml").isAbsolute = true := by decide
  obtain ⟨reads, result, -, hunique, -, -, -, hbuild⟩ :=
    build_terminates selfReference (some ⟨"/r/h/.."⟩) _ hs
  have hstart : FilePath.normalize ⟨"/r/x/../a.yml"⟩ = ⟨"/r/a.yml"⟩ := by decide +kernel
  have ha : parentPaths selfReference (some ⟨"/r/h/.."⟩) ⟨"/r/a.yml"⟩ = [⟨"/r/h/../b.yml"⟩] := by
    decide +kernel
  have hb : parentPaths selfReference (some ⟨"/r/h/.."⟩) ⟨"/r/h/../b.yml"⟩ = [⟨"/r/b.yml"⟩] := by
    decide +kernel
  have hself : parentPaths selfReference (some ⟨"/r/h/.."⟩) ⟨"/r/b.yml"⟩ = [⟨"/r/b.yml"⟩] := by
    decide +kernel
  have hrun : Run selfReference (some ⟨"/r/h/.."⟩) ⟨[], []⟩ [FilePath.normalize ⟨"/r/x/../a.yml"⟩]
      [⟨"/r/a.yml"⟩, ⟨"/r/h/../b.yml"⟩, ⟨"/r/b.yml"⟩]
      (.error (.circularDependency ⟨"/r/b.yml"⟩)) := by
    rw [hstart]
    apply Run.broken
    · exact enter_eq_ok_iff.mpr ⟨by decide, by decide +kernel⟩
    rw [ha]
    apply Run.broken
    · exact enter_eq_ok_iff.mpr ⟨by decide, by decide +kernel⟩
    rw [hb]
    apply Run.broken
    · exact enter_eq_ok_iff.mpr ⟨by decide, by decide +kernel⟩
    rw [hself]
    apply Run.refused
    exact enter_eq_error_iff.mpr (.inl ⟨⟨_, List.mem_cons_self, sameAs_iff.mpr rfl⟩, rfl⟩)
  obtain ⟨-, rfl⟩ := hunique _ _ hrun
  exact ⟨hs, hrun, hbuild⟩

end LayeredConfig.Chain
