import LayeredConfig.Proofs.Merge.Change

/-
  Leaves written over a document, each at its own place. A leaf that is given a value has it
  afterwards and every other leaf keeps its node (`get?_writeLeaves`), and so does whatever stands
  apart from the leaves that are given (`get?_writeLeaves_of_apart`). Copying the leaves that
  differ from the defaults is such a run of writes (`overDefaults_eq_writeLeaves`).
-/

namespace LayeredConfig.Merge

open Value

variable {fields : List Field} {document : Value} {given given' : Field → Option Value}

/-! ## Runs of writes -/

/-- The document with the value that a field is given at its place. -/
def writeLeaf (given : Field → Option Value) (document : Value) (f : Field) : Value :=
  match given f with
  | some v => document.assign f.path v
  | none => document

/-- The document with the values that the fields are given at their places. -/
def writeLeaves (given : Field → Option Value) (document : Value) (fields : List Field) : Value :=
  fields.foldl (writeLeaf given) document

theorem writeLeaves_cons (given : Field → Option Value) (document : Value) (f : Field)
    (rest : List Field) :
    writeLeaves given document (f :: rest) = writeLeaves given (writeLeaf given document f) rest :=
  rfl

theorem writeLeaves_congr (h : ∀ f ∈ fields, given f = given' f) (document : Value) :
    writeLeaves given document fields = writeLeaves given' document fields := by
  induction fields generalizing document with
  | nil => rfl
  | cons f rest ih =>
    rw [writeLeaves_cons, writeLeaves_cons, writeLeaf, writeLeaf, h f List.mem_cons_self]
    exact ih (fun g hg => h g (List.mem_cons_of_mem f hg)) _

/-- Writes change nothing that stands apart from the fields that are given a value. -/
theorem get?_writeLeaves_of_apart {path : String}
    (h : ∀ f ∈ fields, given f ≠ none → Apart (segments f.path) (segments path))
    (document : Value) : (writeLeaves given document fields).get? path = document.get? path := by
  induction fields generalizing document with
  | nil => rfl
  | cons f rest ih =>
    rw [writeLeaves_cons, ih fun g hg => h g (List.mem_cons_of_mem f hg), writeLeaf]
    split
    · next v hv =>
      have hgiven : given f ≠ none := by rw [hv]; exact Option.some_ne_none v
      exact get?_assign_of_apart _ _ (h f List.mem_cons_self hgiven)
    · rfl

/-- Of fields that lie apart, each has the value it is given, or the node it had. -/
theorem get?_writeLeaves (hs : Separate fields) {f : Field} (hf : f ∈ fields)
    (given : Field → Option Value) (document : Value) :
    (writeLeaves given document fields).get? f.path = (given f).or (document.get? f.path) := by
  have hapart : ∀ g ∈ fields, f = g ∨ Apart (segments g.path) (segments f.path) :=
    fun g hg => (hs.apart f hf g hg).imp_right Apart.symm
  clear hs
  induction fields generalizing document with
  | nil => cases hf
  | cons g rest ih =>
    have hrest : ∀ h ∈ rest, f = h ∨ Apart (segments h.path) (segments f.path) :=
      fun h hh => hapart h (List.mem_cons_of_mem g hh)
    rw [writeLeaves_cons]
    by_cases hmem : f ∈ rest
    · rw [ih hmem _ hrest, writeLeaf]
      split
      · next v hv =>
        rcases hapart g List.mem_cons_self with rfl | happart
        · rw [hv, Option.some_or, Option.some_or]
        · rw [get?_assign_of_apart _ _ happart]
      · rfl
    · have hfg : f = g := (List.mem_cons.mp hf).resolve_right hmem
      subst hfg
      -- the fields after the last `f` are other ones
      rw [get?_writeLeaves_of_apart fun h hh _ =>
        (hrest h hh).resolve_left fun heq => hmem (heq ▸ hh), writeLeaf]
      split
      · next v hv => rw [get?_assign_self, hv, Option.some_or]
      · next hv => rw [hv, Option.none_or]

/-! ## Copied leaves -/

theorem Separate.filter_leaves (hs : Separate fields) :
    (fields.filter fun f => !f.isRecord) = fields :=
  List.filter_eq_self.mpr fun f hf => by rw [hs.isRecord_eq f hf]; rfl

/-- The node of a field that is copied: that of `loaded`, unless its value is the default. -/
def copied? (loaded defaults : Value) (f : Field) : Option Value :=
  if f.valueIn loaded = f.valueIn defaults then none else loaded.get? f.path

theorem mergeLeaf_eq_writeLeaf (loaded defaults : Value) :
    mergeLeaf loaded defaults = writeLeaf (copied? loaded defaults) := by
  funext result f
  unfold mergeLeaf writeLeaf copied? Field.valueIn
  dsimp only
  split
  · rfl
  · rfl

theorem overDefaults_eq_writeLeaves (hs : Separate fields) (result loaded defaults : Value) :
    overDefaults result loaded defaults fields =
      writeLeaves (copied? loaded defaults) result fields := by
  rw [overDefaults, hs.filter_leaves, mergeLeaf_eq_writeLeaf]
  rfl

/-- Of fields that lie apart, each has the node that was copied, or the one it had. -/
theorem get?_overDefaults (hs : Separate fields) {f : Field} (hf : f ∈ fields)
    (result loaded defaults : Value) :
    (overDefaults result loaded defaults fields).get? f.path =
      (copied? loaded defaults f).or (result.get? f.path) := by
  rw [overDefaults_eq_writeLeaves hs, get?_writeLeaves hs hf]

end LayeredConfig.Merge
