import LayeredConfig.ConfigFile
import LayeredConfig.Proofs.Fallible
import LayeredConfig.Proofs.FilePath.NormalForm

/-
  Where paths lead. What a path leads to depends on its steps alone (`entry?_destination`), so two
  spellings with the same steps never lead to different files (`find_unique`). A normal form leads
  to the place of its names (`entry?_of_find_place`), so every file has only one absolute normal
  form; a path without a step below the root never leads to a file (`steps_ne_root_of_find_file`).
  A path is a regular file exactly when it leads to a content (`isFile_iff`), and the parents of a
  file are those that its content names (`parentsOf_eq_parentsIn`).
-/

namespace LayeredConfig.FileSystem

variable {fs : FileSystem} {p : FilePath}

/-! ## Following pieces -/

/-- The place that a step leads to. -/
def stepFrom (place : List String) : FilePath.Step → List String
  | .root => []
  | .current => place
  | .parent => place.dropLast
  | .name s => place ++ [s]

/-- The place that steps lead to, whatever is there. -/
def destination (fs : FileSystem) (steps : List FilePath.Step) : List String :=
  steps.foldl stepFrom fs.workingDirectory

@[simp] theorem foldl_stepFrom_names (names place : List String) :
    (names.map FilePath.Step.name).foldl stepFrom place = place ++ names := by
  induction names generalizing place with
  | nil =>
    rw [List.append_nil]
    rfl
  | cons s rest ih =>
    rw [List.map_cons, List.foldl_cons, ih, stepFrom, List.append_assoc, List.singleton_append]

theorem follow_eq_ok {place q : List String} {piece : String} (h : fs.follow place piece = .ok q) :
    q = (FilePath.stepOf? piece).toList.foldl stepFrom place := by
  unfold follow at h
  unfold FilePath.stepOf?
  split at h
  · cases h
  · cases h
  · split at h
    · next hblank =>
      cases h
      rw [if_pos hblank]
      rfl
    · next hblank =>
      rw [if_neg hblank]
      split at h
      · next hdots =>
        cases h
        rw [if_pos hdots]
        rfl
      · next hdots =>
        rw [if_neg hdots]
        split at h
        · cases h
        · split at h <;> cases h
          rfl

/-- Pieces that can be followed lead where their steps lead. -/
theorem foldlM_follow_eq_ok {pieces place q : List String}
    (h : pieces.foldlM fs.follow place = .ok q) :
    q = (pieces.filterMap FilePath.stepOf?).foldl stepFrom place := by
  induction pieces generalizing place with
  | nil =>
    cases h
    rfl
  | cons piece rest ih =>
    rw [List.foldlM_cons] at h
    obtain ⟨next, hnext, hrest⟩ := bind_eq_ok.mp h
    rw [ih hrest, follow_eq_ok hnext]
    cases hstep : FilePath.stepOf? piece with
    | none => rw [List.filterMap_cons_none hstep]; rfl
    | some s => rw [List.filterMap_cons_some hstep]; rfl

/-- A piece that is no step leads nowhere else, and only from a directory. -/
theorem follow_of_stepOf?_eq_none {place q : List String} {piece : String}
    (hp : FilePath.stepOf? piece = none) (h : fs.follow place piece = .ok q) :
    q = place ∧ fs.entry? place = some .directory := by
  have hblank : piece = "" ∨ piece = "." := by
    unfold FilePath.stepOf? at hp
    split at hp
    · assumption
    · split at hp <;> cases hp
  unfold follow at h
  split at h
  · cases h
  · cases h
  · next hdir =>
    rw [if_pos hblank] at h
    cases h
    exact ⟨rfl, hdir⟩

theorem foldlM_follow_of_no_step {pieces place q : List String}
    (hp : ∀ piece ∈ pieces, FilePath.stepOf? piece = none)
    (h : pieces.foldlM fs.follow place = .ok q) :
    q = place ∧ (pieces ≠ [] → fs.entry? place = some .directory) := by
  induction pieces generalizing place with
  | nil =>
    cases h
    exact ⟨rfl, fun hne => absurd rfl hne⟩
  | cons piece pieces ih =>
    rw [List.foldlM_cons] at h
    obtain ⟨next, hnext, hrest⟩ := bind_eq_ok.mp h
    obtain ⟨rfl, hdir⟩ := follow_of_stepOf?_eq_none (hp piece List.mem_cons_self) hnext
    obtain ⟨hq, -⟩ := ih (fun t ht => hp t (List.mem_cons_of_mem _ ht)) hrest
    exact ⟨hq, fun _ => hdir⟩

/-! ## What paths lead to -/

/-- What a path leads to is the entry at the end of its pieces. -/
theorem find_eq_ok {e : Entry} (h : fs.find p = .ok e) :
    ∃ place, p.pieces.foldlM fs.follow (fs.origin p) = .ok place ∧ fs.entry? place = some e := by
  obtain ⟨place, hplace, hentry⟩ := bind_eq_ok.mp h
  refine ⟨place, ?_, ?_⟩
  · unfold locate at hplace
    split at hplace
    · cases hplace
    · exact hplace
  · split at hentry
    · next he =>
      cases hentry
      exact he
    · cases hentry

/-- What a path leads to stands at the destination of its steps. -/
theorem entry?_destination {e : Entry} (h : fs.find p = .ok e) :
    fs.entry? (fs.destination p.steps) = some e := by
  obtain ⟨place, hplace, hentry⟩ := find_eq_ok h
  have hdestination : fs.destination p.steps =
      (p.pieces.filterMap FilePath.stepOf?).foldl stepFrom (fs.origin p) := by
    unfold destination FilePath.steps origin
    dsimp only
    split
    · rfl
    · split <;> rfl
  rw [hdestination, ← foldlM_follow_eq_ok hplace]
  exact hentry

/-- Paths with the same steps never lead to different things. -/
theorem find_unique {q : FilePath} {e e' : Entry} (h : p.steps = q.steps) (hp : fs.find p = .ok e)
    (hq : fs.find q = .ok e') : e = e' := by
  have hentry := entry?_destination hp
  rw [h, entry?_destination hq] at hentry
  exact (Option.some.inj hentry).symm

theorem text_ne_empty_of_find {e : Entry} (h : fs.find p = .ok e) : p.text ≠ "" := by
  intro hempty
  have hfault : pathFault? p = some .notFound := by
    rw [pathFault?, hempty]
    rfl
  rw [find, locate, hfault] at h
  cases h

/-- An absolute path without a step below the root leads to no file. -/
theorem steps_ne_root_of_find_file {content : ByteArray} (h : p.isAbsolute = true)
    (hf : fs.find p = .ok (.file content)) : p.steps ≠ [.root] := by
  intro hroot
  rw [FilePath.steps_of_isAbsolute h, List.cons.injEq] at hroot
  have hnone : ∀ piece ∈ p.pieces, FilePath.stepOf? piece = none :=
    List.filterMap_eq_nil_iff.mp hroot.2
  obtain ⟨place, hplace, hentry⟩ := find_eq_ok hf
  obtain ⟨hq, hdir⟩ := foldlM_follow_of_no_step hnone hplace
  have := hdir (Text.split_ne_nil '/' p.text)
  rw [← hq, hentry] at this
  cases this

/-- A normal form leads to the place of its names. -/
theorem entry?_of_find_place {names : List String} {e : Entry}
    (hn : ∀ s ∈ names, FilePath.IsName s)
    (h : fs.find (FilePath.ofSteps (FilePath.place names)) = .ok e) : fs.entry? names = some e := by
  have hentry := entry?_destination h
  rw [FilePath.steps_ofSteps_place hn, destination, FilePath.place, List.foldl_cons, stepFrom,
    foldl_stepFrom_names, List.nil_append] at hentry
  exact hentry

/-- A file is entered in the file system at its place. -/
theorem mem_entries_of_entry?_file {place : List String} {content : ByteArray}
    (h : fs.entry? place = some (.file content)) : (place, .file content) ∈ fs.entries := by
  unfold entry? at h
  split at h
  · next e he =>
    cases h
    rw [List.lookup_eq_some_iff] at he
    obtain ⟨before, after, hentries, -⟩ := he
    rw [hentries]
    exact List.mem_append_right _ List.mem_cons_self
  · split at h <;> cases h

/-! ## Regular files and their parents -/

theorem validate_eq_ok_iff :
    fs.validate p = .ok () ↔ ∃ content, fs.find p = .ok (.file content) := by
  unfold validate
  split
  · next content h => simp [h]
  · next h => simp [h]
  · next fault h => simp [h]

theorem isFile_iff : fs.isFile p = true ↔ fs.validate p = .ok () := by
  unfold isFile
  split
  · next h => simp [h]
  · next e h => simp [h]

theorem isFile_eq_false {e : Problem} (h : fs.validate p = .error e) : fs.isFile p = false := by
  rw [isFile, h]

/-- The problem of a path that is no regular file. -/
theorem validate_eq_error {e : Problem} (h : fs.validate p = .error e) :
    ∃ reason, e = .pathInvalid p reason := by
  unfold validate at h
  split at h
  · cases h
  · cases h
    exact ⟨_, rfl⟩
  · cases h
    exact ⟨_, rfl⟩

/-- The text of a file is that of its content. -/
theorem readText_of_find {content : ByteArray} (hf : fs.find p = .ok (.file content)) :
    (∀ text, String.fromUTF8? content = some text → fs.readText p = .ok text) ∧
      (String.fromUTF8? content = none →
        fs.readText p = .error (.undecodable p FileFault.notUtf8.message)) := by
  unfold readText read
  rw [hf, ok_bind]
  dsimp only
  constructor
  · intro text htext
    rw [htext]
  · intro hnone
    rw [hnone]

/-- Reading a file and going on succeeds when the content is a text on which what follows does. -/
theorem isOk_readText_bind {α : Type} {content : ByteArray} (hf : fs.find p = .ok (.file content))
    (next : String → Except Problem α) :
    (fs.readText p >>= next).isOk =
      (String.fromUTF8? content).any fun text => (next text).isOk := by
  obtain ⟨htext, hnone⟩ := readText_of_find hf
  cases hutf8 : String.fromUTF8? content with
  | none =>
    rw [hnone hutf8]
    rfl
  | some text => rw [htext text hutf8, ok_bind, Option.any_some]

/-- The parents of a file are those that its content names. -/
theorem parentsOf_eq_parentsIn {content : ByteArray} (hf : fs.find p = .ok (.file content)) :
    ConfigFile.parentsOf fs p = ConfigFile.parentsIn content := by
  obtain ⟨htext, hnone⟩ := readText_of_find hf
  unfold ConfigFile.parentsOf ConfigFile.loadParents ConfigFile.parentsIn
  cases hcontent : String.fromUTF8? content with
  | none =>
    rw [hnone hcontent]
    rfl
  | some text =>
    rw [htext text hcontent, Option.map_some, ok_bind]
    cases Settings.parseParents text <;> rfl

end LayeredConfig.FileSystem
