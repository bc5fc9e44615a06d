import LayeredConfig.Chain
import LayeredConfig.Proofs.FileSystem.Place

/-
  The unfolding of the references of files. `meets` lists the paths that it meets, depth first,
  whether it ends or not; an `Unfolding` is one that ends, with its paths before their parents
  (`preOrder`) or after them (`postOrder`). An unfolding that ends is the only one of its paths
  and meets its pre-order and nothing else (`meets_prefix_preOrder`).

  A walk along the unfolding goes on as long as every path can be entered (`Enterable`) and
  breaks off at the first that cannot (`BreaksOff`). Never both happen
  (`not_breaksOff_of_enterable`), and a walk breaks off in one way only (`breaksOff_unique`).
-/

namespace LayeredConfig.Chain

variable {fs : FileSystem} {home : Option FilePath}

/-- Paths and their ancestors, where every line of ancestors ends: each path has the unfolding
of its parents, and the paths after it have theirs. -/
inductive Unfolding (fs : FileSystem) (home : Option FilePath) : List FilePath → Type where
  | nil : Unfolding fs home []
  | cons {p : FilePath} {more : List FilePath} (parents : Unfolding fs home (parentPaths fs home p))
      (rest : Unfolding fs home more) : Unfolding fs home (p :: more)

/-- The paths of an unfolding, each before its parents. -/
def Unfolding.preOrder : {ps : List FilePath} → Unfolding fs home ps → List FilePath
  | _, .nil => []
  | p :: _, .cons parents rest => p :: (parents.preOrder ++ rest.preOrder)

/-- The paths of an unfolding, each after the unfolding of its parents. -/
def Unfolding.postOrder : {ps : List FilePath} → Unfolding fs home ps → List FilePath
  | _, .nil => []
  | p :: _, .cons parents rest => parents.postOrder ++ p :: rest.postOrder

/-- The first `n` paths that a depth-first unfolding meets. -/
def meets (fs : FileSystem) (home : Option FilePath) : Nat → List FilePath → List FilePath
  | 0, _ => []
  | _ + 1, [] => []
  | n + 1, p :: pending => p :: meets fs home n (parentPaths fs home p ++ pending)

/-- Pairwise different paths of regular files. -/
def Sound (fs : FileSystem) (ps : List FilePath) : Prop :=
  ps.Pairwise (fun p q => p.sameAs q = false) ∧ ∀ p ∈ ps, fs.isFile p = true

/-- The paths can be entered one after another when `met` were met before. -/
def Enterable (fs : FileSystem) : List FilePath → List FilePath → Prop
  | _, [] => True
  | met, p :: ps => enter fs met p = .ok () ∧ Enterable fs (p :: met) ps

/-- The depth-first unfolding comes to a path that cannot be entered, for the problem `e`, and
enters all paths before it. -/
def BreaksOff (fs : FileSystem) (home : Option FilePath) (met ps : List FilePath) (e : Problem) :
    Prop :=
  ∃ before p, meets fs home (before.length + 1) ps = before ++ [p] ∧ Enterable fs met before ∧
    enter fs (before.reverse ++ met) p = .error e

/-! ## Entering paths -/

theorem sameAs_iff {p q : FilePath} : p.sameAs q = true ↔ p.steps = q.steps := by
  rw [FilePath.sameAs, beq_iff_eq]

theorem sameAs_comm (p q : FilePath) : p.sameAs q = q.sameAs p := by
  rw [Bool.eq_iff_iff, sameAs_iff, sameAs_iff, eq_comm]

theorem enter_eq_ok_iff {met : List FilePath} {p : FilePath} :
    enter fs met p = .ok () ↔ (∀ q ∈ met, p.sameAs q = false) ∧ fs.isFile p = true := by
  rw [FileSystem.isFile_iff, enter]
  split
  · next h =>
    obtain ⟨q, hq, hsame⟩ := List.any_eq_true.mp h
    simp only [reduceCtorEq, false_iff, not_and]
    intro hall
    rw [hall q hq] at hsame
    cases hsame
  · next h =>
    have hall : ∀ q ∈ met, p.sameAs q = false := by simpa using h
    exact ⟨fun hv => ⟨hall, hv⟩, fun hv => hv.2⟩

/-- A path met before is reported first, then one that is no regular file. -/
theorem enter_eq_error_iff {met : List FilePath} {p : FilePath} {e : Problem} :
    enter fs met p = .error e ↔
      ((∃ q ∈ met, p.sameAs q = true) ∧ e = .circularDependency p) ∨
        ((∀ q ∈ met, p.sameAs q = false) ∧ fs.validate p = .error e) := by
  rw [enter]
  split
  · next h =>
    have hex := List.any_eq_true.mp h
    constructor
    · intro he
      cases he
      exact .inl ⟨hex, rfl⟩
    · rintro (⟨-, rfl⟩ | ⟨hall, -⟩)
      · rfl
      · obtain ⟨q, hq, hsame⟩ := hex
        rw [hall q hq] at hsame
        cases hsame
  · next h =>
    have hall : ∀ q ∈ met, p.sameAs q = false := by simpa using h
    constructor
    · intro he
      exact .inr ⟨hall, he⟩
    · rintro (⟨⟨q, hq, hsame⟩, -⟩ | ⟨-, he⟩)
      · rw [hall q hq] at hsame
        cases hsame
      · exact he

theorem enterable_append {met ps qs : List FilePath} :
    Enterable fs met (ps ++ qs) ↔ Enterable fs met ps ∧ Enterable fs (ps.reverse ++ met) qs := by
  induction ps generalizing met with
  | nil => simp [Enterable]
  | cons p ps ih =>
    simp only [List.cons_append, Enterable, ih, List.reverse_cons, List.append_assoc,
      List.nil_append, and_assoc]

theorem enterable_iff {met ps : List FilePath} :
    Enterable fs met ps ↔ Sound fs ps ∧ ∀ p ∈ ps, ∀ q ∈ met, p.sameAs q = false := by
  induction ps generalizing met with
  | nil => simp [Enterable, Sound]
  | cons p ps ih =>
    simp only [Enterable, enter_eq_ok_iff, ih, Sound, List.pairwise_cons, List.mem_cons,
      forall_eq_or_imp]
    constructor
    · rintro ⟨⟨hmet, hfile⟩, ⟨hpair, hfiles⟩, hps⟩
      refine ⟨⟨⟨fun q hq => ?_, hpair⟩, hfile, hfiles⟩, hmet, fun q hq => (hps q hq).2⟩
      rw [sameAs_comm]
      exact (hps q hq).1
    · rintro ⟨⟨⟨hp, hpair⟩, hfile, hfiles⟩, hmet, hps⟩
      refine ⟨⟨hmet, hfile⟩, ⟨hpair, hfiles⟩, fun q hq => ⟨?_, hps q hq⟩⟩
      rw [sameAs_comm]
      exact hp q hq

/-- Without paths met before, exactly sound paths can be entered. -/
theorem enterable_nil_iff {ps : List FilePath} : Enterable fs [] ps ↔ Sound fs ps := by
  simp [enterable_iff]

theorem sound_of_prefix {ps qs : List FilePath} (hpre : ps <+: qs) (h : Sound fs qs) :
    Sound fs ps :=
  ⟨h.1.sublist hpre.sublist, fun p hp => h.2 p (hpre.subset hp)⟩

/-! ## Paths met -/

@[simp] theorem meets_nil (n : Nat) : meets fs home n [] = [] := by
  cases n <;> rfl

theorem meets_prefix {m n : Nat} (h : m ≤ n) (ps : List FilePath) :
    meets fs home m ps <+: meets fs home n ps := by
  induction m generalizing n ps with
  | zero => exact List.nil_prefix
  | succ m ih =>
    obtain ⟨n, rfl⟩ := Nat.exists_eq_add_of_lt h
    cases ps with
    | nil =>
      rw [meets_nil]
      exact List.nil_prefix
    | cons p pending =>
      exact (List.prefix_cons_inj p).mpr (ih (by omega) _)

/-- As long as the unfolding of `ps` goes on, nothing after it is met. -/
theorem meets_append_of_length {n : Nat} {ps : List FilePath} (more : List FilePath)
    (h : (meets fs home n ps).length = n) : meets fs home n (ps ++ more) = meets fs home n ps := by
  induction n generalizing ps with
  | zero => rfl
  | succ n ih =>
    cases ps with
    | nil =>
      rw [meets_nil] at h
      cases h
    | cons p pending =>
      rw [meets, List.length_cons, Nat.succ_inj] at h
      rw [List.cons_append, meets, meets, ← List.append_assoc, ih h]

/-- An unfolding meets its pre-order, and then what the paths after it meet. -/
theorem meets_preOrder_length_add {ps : List FilePath} (t : Unfolding fs home ps) (n : Nat)
    (more : List FilePath) :
    meets fs home (t.preOrder.length + n) (ps ++ more) = t.preOrder ++ meets fs home n more := by
  induction t generalizing n more with
  | nil => simp [Unfolding.preOrder]
  | @cons p qs parents rest ihp ihr =>
    have hlen : (Unfolding.cons parents rest).preOrder.length + n =
        (parents.preOrder.length + (rest.preOrder.length + n)) + 1 := by
      rw [Unfolding.preOrder, List.length_cons, List.length_append]
      omega
    rw [hlen, List.cons_append, meets, ihp, ihr, Unfolding.preOrder, List.cons_append,
      List.append_assoc]

theorem meets_prefix_preOrder {ps : List FilePath} (t : Unfolding fs home ps) (n : Nat) :
    meets fs home n ps <+: t.preOrder := by
  have h := meets_preOrder_length_add t n []
  rw [List.append_nil, meets_nil, List.append_nil] at h
  rw [← h]
  exact meets_prefix (Nat.le_add_left _ _) ps

/-- Paths have at most one unfolding. -/
theorem unfolding_unique {ps : List FilePath} (t u : Unfolding fs home ps) : t = u := by
  induction t with
  | nil =>
    cases u
    rfl
  | cons parents rest ihp ihr =>
    cases u with
    | cons parents' rest' => rw [ihp parents', ihr rest']

/-- Both orders hold the same paths. -/
theorem postOrder_perm_preOrder {ps : List FilePath} (t : Unfolding fs home ps) :
    t.postOrder.Perm t.preOrder := by
  induction t with
  | nil => exact .refl _
  | @cons p qs parents rest ihp ihr =>
    rw [Unfolding.postOrder, Unfolding.preOrder]
    exact List.perm_middle.trans ((ihp.append ihr).cons p)

/-! ## Breaking off -/

theorem breaksOff_of_enter {met : List FilePath} {p : FilePath} {e : Problem}
    (h : enter fs met p = .error e) : BreaksOff fs home met [p] e :=
  ⟨[], p, rfl, trivial, h⟩

/-- What stands after the place where a walk breaks off is not looked at. -/
theorem breaksOff_append {met ps : List FilePath} {e : Problem} (more : List FilePath)
    (h : BreaksOff fs home met ps e) : BreaksOff fs home met (ps ++ more) e := by
  obtain ⟨before, p, hmeets, hbefore, hp⟩ := h
  refine ⟨before, p, ?_, hbefore, hp⟩
  rw [meets_append_of_length more, hmeets]
  rw [hmeets, List.length_append, List.length_singleton]

/-- A walk breaks off where it does so among the parents of its first path. -/
theorem breaksOff_of_parents {met : List FilePath} {p : FilePath} {e : Problem}
    (hp : enter fs met p = .ok ())
    (h : BreaksOff fs home (p :: met) (parentPaths fs home p) e) :
    BreaksOff fs home met [p] e := by
  obtain ⟨before, q, hmeets, hbefore, hq⟩ := h
  refine ⟨p :: before, q, ?_, ⟨hp, hbefore⟩, ?_⟩
  · rw [List.length_cons, meets, List.append_nil, hmeets, List.cons_append]
  · rw [List.reverse_cons, List.append_assoc]
    exact hq

/-- A walk breaks off where it does so after an unfolding that it follows. -/
theorem breaksOff_after_unfolding {met ps more : List FilePath} {e : Problem}
    (t : Unfolding fs home ps) (ht : Enterable fs met t.preOrder)
    (h : BreaksOff fs home (t.preOrder.reverse ++ met) more e) :
    BreaksOff fs home met (ps ++ more) e := by
  obtain ⟨before, p, hmeets, hbefore, hp⟩ := h
  refine ⟨t.preOrder ++ before, p, ?_, enterable_append.mpr ⟨ht, hbefore⟩, ?_⟩
  · rw [List.length_append, Nat.add_assoc, meets_preOrder_length_add, hmeets, List.append_assoc]
  · rw [List.reverse_append, List.append_assoc]
    exact hp

/-- Paths that can all be entered hold no place to break off. -/
theorem not_enterable_of_enter_error {met before : List FilePath} {p : FilePath} {e : Problem}
    (h : enter fs (before.reverse ++ met) p = .error e) {ps : List FilePath}
    (hps : before ++ [p] <+: ps) : ¬ Enterable fs met ps := by
  rintro henter
  obtain ⟨rest, rfl⟩ := hps
  rw [List.append_assoc, enterable_append] at henter
  obtain ⟨-, hok, -⟩ := henter
  rw [h] at hok
  cases hok

/-- An unfolding that can be entered does not break off. -/
theorem not_breaksOff_of_enterable {met ps : List FilePath} (t : Unfolding fs home ps)
    (ht : Enterable fs met t.preOrder) (e : Problem) : ¬ BreaksOff fs home met ps e := by
  rintro ⟨before, p, hmeets, -, hp⟩
  refine not_enterable_of_enter_error hp ?_ ht
  rw [← hmeets]
  exact meets_prefix_preOrder t _

/-- All paths before the place where a walk breaks off can be entered, so no walk breaks off
earlier. -/
theorem length_le_of_breaksOff {met ps before before' : List FilePath} {p p' : FilePath}
    {e : Problem} (hmeets : meets fs home (before.length + 1) ps = before ++ [p])
    (hp : enter fs (before.reverse ++ met) p = .error e)
    (hmeets' : meets fs home (before'.length + 1) ps = before' ++ [p'])
    (hbefore' : Enterable fs met before') : before'.length ≤ before.length := by
  rcases Nat.lt_or_ge before.length before'.length with hlt | hge
  · have hpre : before ++ [p] <+: before' ++ [p'] := by
      rw [← hmeets, ← hmeets']
      exact meets_prefix (by omega) ps
    have hlen : (before ++ [p]).length ≤ before'.length := by
      rw [List.length_append, List.length_singleton]
      exact hlt
    have hshort := List.prefix_of_prefix_length_le hpre (List.prefix_append before' [p']) hlen
    exact absurd hbefore' (not_enterable_of_enter_error hp hshort)
  · exact hge

theorem breaksOff_unique {met ps : List FilePath} {e e' : Problem}
    (h : BreaksOff fs home met ps e) (h' : BreaksOff fs home met ps e') : e = e' := by
  obtain ⟨before, p, hmeets, hbefore, hp⟩ := h
  obtain ⟨before', p', hmeets', hbefore', hp'⟩ := h'
  have hle := length_le_of_breaksOff hmeets hp hmeets' hbefore'
  have hge := length_le_of_breaksOff hmeets' hp' hmeets hbefore
  have hlen : before.length = before'.length := Nat.le_antisymm hge hle
  rw [hlen, hmeets'] at hmeets
  obtain ⟨rfl, hlast⟩ := List.append_inj hmeets hlen.symm
  obtain ⟨rfl, -⟩ := List.cons.inj hlast
  rw [hp] at hp'
  exact Except.error.inj hp'

end LayeredConfig.Chain
