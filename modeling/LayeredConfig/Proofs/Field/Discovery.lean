import LayeredConfig.Proofs.Shape.Declarations

/-
  Discovery lists the leaves of a document type, each of them once. The walk over declared fields
  meets no path twice (`nodup_leavesOfFields`), since the fields of a record have different tags.
  Sorting puts the leaves in order by name and path (`precedes_total`, `precedes_trans`), and as the
  paths differ the order is strict. `discovery_lists_leaves` says so of every regular document type.
-/

namespace LayeredConfig

namespace Field

/-! ## Order -/

/-- Of two different texts the one that is not larger is smaller. -/
theorem lt_of_isLE_compare {s t : String} (h : (compare s t).isLE = true) (hne : s ≠ t) :
    s < t := by
  cases hcompare : compare s t with
  | lt => exact compareOfLessAndEq_eq_lt.mp hcompare
  | eq => exact absurd (Std.LawfulEqOrd.eq_of_compare hcompare) hne
  | gt =>
    rw [hcompare] at h
    cases h

/-- The first field is listed before the second: its declared name is smaller, or the names are the
same and its path is smaller. -/
def Before (a b : Field) : Prop := a.name < b.name ∨ a.name = b.name ∧ a.path < b.path

/-- The comparison by declared name and then by path. -/
def order : Field → Field → Ordering := compareLex (compareOn Field.name) (compareOn Field.path)

/-- Comparing by two keys one after the other is transitive. -/
instance : Std.TransCmp order :=
  inferInstanceAs (Std.TransCmp (compareLex (compareOn Field.name) (compareOn Field.path)))

theorem precedes_eq_isLE_order (a b : Field) : a.precedes b = (order a b).isLE := rfl

theorem precedes_total (a b : Field) : a.precedes b = true ∨ b.precedes a = true := by
  have hswap : order b a = (order a b).swap := Std.OrientedCmp.eq_swap
  rw [precedes_eq_isLE_order, precedes_eq_isLE_order, hswap]
  cases order a b <;> simp

theorem precedes_trans (a b c : Field) (hab : a.precedes b = true) (hbc : b.precedes c = true) :
    a.precedes c = true := by
  have htrans : (order a b).isLE = true → (order b c).isLE = true → (order a c).isLE = true :=
    Std.TransCmp.isLE_trans
  exact htrans hab hbc

/-- Of two fields with different paths the one that is not larger is smaller. -/
theorem before_of_precedes {a b : Field} (h : a.precedes b = true) (hne : a.path ≠ b.path) :
    a.Before b := by
  rcases Ordering.isLE_then_iff_or.mp h with hlt | ⟨heq, hle⟩
  · exact .inl (compareOfLessAndEq_eq_lt.mp hlt)
  · exact .inr ⟨Std.LawfulEqOrd.eq_of_compare heq, lt_of_isLE_compare hle hne⟩

end Field

namespace Shape

/-! ## Paths of leaves -/

/-- What holds of declared fields whenever it holds of the fields of the first one, if that is a
record, and of the others holds of all declared fields. -/
theorem declared_induction {motive : List (Declared Shape) → Prop} (nil : motive [])
    (cons : ∀ d rest, (∀ inner, d.shape.recordFields? = some inner → motive inner) →
      motive rest → motive (d :: rest))
    (declared : List (Declared Shape)) : motive declared :=
  match declared with
  | [] => nil
  | d :: rest =>
    cons d rest (fun inner _ => declared_induction nil cons inner)
      (declared_induction nil cons rest)
termination_by sizeOf declared
decreasing_by
  · next hinner => exact sizeOf_lt_of_recordFields? List.mem_cons_self hinner
  · rw [List.cons.sizeOf_spec]
    omega

variable {declared rest : List (Declared Shape)} {d : Declared Shape} {parent : Option String}
  {inherited : Option Category} {f g : Field}

/-- The leaves of one declared field have other paths than those of its siblings. -/
theorem path_ne_of_siblings (hr : FieldsRegular (d :: rest))
    (hf : f ∈ leavesOfField d.name d.tag parent inherited d.shape)
    (hg : g ∈ leavesOfFields parent inherited rest) : f.path ≠ g.path := by
  rw [FieldsRegular] at hr
  obtain ⟨hdot, hnew, hshape, hrest⟩ := hr
  have hone : FieldsRegular [d] := by
    rw [FieldsRegular]
    exact ⟨hdot, List.not_mem_nil, hshape, trivial⟩
  have hleaf : LeafOf parent inherited [d] f :=
    mem_leavesOfFields_iff.mp (mem_leavesOfFields.mpr ⟨d, List.mem_cons_self, hf⟩)
  obtain ⟨d', hd', hbelow, -⟩ := hleaf.exists_declared hone
  obtain ⟨e, he, hother, -⟩ := (mem_leavesOfFields_iff.mp hg).exists_declared hrest
  rw [List.mem_singleton.mp hd'] at hbelow
  have htag : d.tag ≠ e.tag := by
    intro heq
    rw [heq] at hnew
    exact hnew (List.mem_map_of_mem he)
  exact (apart_of_parting htag hbelow hother).ne_path

/-- The walk over declared fields meets no path twice. -/
theorem nodup_leavesOfFields (hr : FieldsRegular declared) (parent : Option String)
    (inherited : Option Category) :
    ((leavesOfFields parent inherited declared).map Field.path).Nodup := by
  induction declared using declared_induction generalizing parent inherited with
  | nil => exact List.nodup_nil
  | cons d rest ihinner ihrest =>
    have hparts := hr
    rw [FieldsRegular] at hparts
    obtain ⟨-, -, hshape, hrest⟩ := hparts
    rw [leavesOfFields, List.map_append, List.nodup_append]
    refine ⟨?_, ihrest hrest parent inherited, ?_⟩
    · cases hinner : d.shape.recordFields? with
      | none =>
        rw [leavesOfField_of_not_record hinner]
        cases Field.ofDeclared? d parent inherited <;> simp
      | some inner =>
        rw [leavesOfField_of_record hinner]
        exact ihinner inner hinner (hshape.recordFields? hinner) _ _
    · intro p hp q hq
      obtain ⟨f, hf, rfl⟩ := List.mem_map.mp hp
      obtain ⟨g, hg, rfl⟩ := List.mem_map.mp hq
      exact path_ne_of_siblings hr hf hg

/-! ## Document types -/

/-- Discovery lists no path twice. -/
theorem nodup_path_metadata {shape : Shape} (h : shape.Regular) :
    (shape.metadata.map Field.path).Nodup := by
  cases shape with
  | record name fields =>
    rw [Regular] at h
    have hwalk := nodup_leavesOfFields h none none
    exact ((perm_sortBy Field.precedes _).map Field.path).nodup_iff.mpr hwalk
  | _ => exact List.nodup_nil

/-- For a document type whose tags hold no dots, whose records give their fields different tags and
in which no value is optional twice, at any depth: the fields that discovery lists are the leaves
declared inside its record, each with its own name, tag, kind and path and with the category of the
field at the top; they are listed by name and path, strictly; no two have the same path, and no two
declared fields do. So every leaf is listed once, and nothing else is. -/
theorem discovery_lists_leaves {name : String} {fields : List (Declared Shape)}
    (h : (Shape.record name fields).Regular) :
    (∀ f, f ∈ (Shape.record name fields).metadata ↔ ∃ above d kind, DeclaredIn fields above d ∧
      LeafShape d.shape.required kind ∧ f = leafField above d kind) ∧
    (Shape.record name fields).metadata.Pairwise Field.Before ∧
    ((Shape.record name fields).metadata.map Field.path).Nodup ∧
    ∀ above d above' d', DeclaredIn fields above d → DeclaredIn fields above' d' →
      pathTo above d = pathTo above' d' → above = above' ∧ d = d' := by
  have hnodup := nodup_path_metadata h
  rw [Regular] at h
  have hsorted : (Shape.record name fields).metadata.Pairwise fun a b => a.precedes b = true :=
    pairwise_sortBy Field.precedes_total Field.precedes_trans _
  refine ⟨fun f => mem_metadata_record_iff h, ?_, hnodup,
    fun above d above' d' hd hd' => hd.eq_of_pathTo hd' h⟩
  exact (hsorted.and (List.pairwise_map.mp hnodup)).imp fun hboth =>
    Field.before_of_precedes hboth.1 hboth.2

/-- The title of the checks of an archive: a text under a name that the archive has as well. -/
def titleField : Declared Shape := ⟨"name", "title", .text⟩

/-- The checks of an archive, which may be absent. -/
def checksField : Declared Shape :=
  ⟨"backup_checks", "checks", .optional (.record "Checks"
    [titleField, ⟨"sizes", "sizes", .list .number⟩, ⟨"marks", "marks", .optional (.list .text)⟩])⟩

/-- The fields of an archive: a number, a record that may be absent, and a text. -/
def archiveFields : List (Declared Shape) :=
  [⟨"status_code", "code", .number⟩, checksField, ⟨"name", "name", .text⟩]

/-- An archive lists the title of its checks under the category of the checks, and its fields in
strict order. -/
theorem discovery_lists_leaves_archive :
    (Shape.record "Archive" archiveFields).Regular ∧
      leafField [checksField] titleField .text ∈
        (Shape.record "Archive" archiveFields).metadata ∧
      (Shape.record "Archive" archiveFields).metadata.Pairwise Field.Before := by
  have hregular : (Shape.record "Archive" archiveFields).Regular := by
    simp [archiveFields, checksField, titleField, Shape.Regular, Shape.FieldsRegular,
      Shape.isOptional]
  obtain ⟨hleaves, hsorted, -, -⟩ := discovery_lists_leaves hregular
  refine ⟨hregular, (hleaves _).mpr ⟨[checksField], titleField, .text, ?_, .text, rfl⟩, hsorted⟩
  exact .inside (List.mem_cons_of_mem _ List.mem_cons_self) rfl (.here List.mem_cons_self)

end Shape

end LayeredConfig
