import LayeredConfig.Proofs.Fallible
import LayeredConfig.Settings.Reader

/-
  The budget of aliases. A reading is thrifty when it never ends with more aliases to follow than it
  began with, and when it gives the same result with more of them, leaving the additional ones.
  Steps in a row are thrifty when each of them is (`thrifty_bind`), so all readings of settings are
  (`thrifty_read`, `thrifty_readField`). Hence reading less of a document never runs out of aliases
  where reading more of it does not.
-/

namespace LayeredConfig.Yaml

variable {α β : Type}

/-! ## Readings in a row -/

theorem reading_bind {x : Reading α} {b b' : Nat} {a : α} (h : x b = .ok (a, b'))
    (f : α → Reading β) : (x >>= f) b = f a b' := by
  change (x b >>= fun r => f r.1 r.2) = _
  rw [h]
  rfl

theorem reading_bind_eq_ok {x : Reading α} {f : α → Reading β} {b : Nat} {r : β × Nat} :
    (x >>= f) b = .ok r ↔ ∃ a b', x b = .ok (a, b') ∧ f a b' = .ok r := by
  change (x b >>= fun r => f r.1 r.2) = _ ↔ _
  rw [bind_eq_ok]
  exact ⟨fun ⟨r, hx, hf⟩ => ⟨r.1, r.2, hx, hf⟩, fun ⟨a, b', hx, hf⟩ => ⟨(a, b'), hx, hf⟩⟩

theorem run_eq_ok {d : Document} {x : Reading α} {a : α} :
    d.run x = .ok a ↔ ∃ b, x d.aliasLimit = .ok (a, b) := by
  rw [Document.run, bind_eq_ok]
  constructor
  · rintro ⟨⟨a', b⟩, hx, ha⟩
    cases ha
    exact ⟨b, hx⟩
  · rintro ⟨b, hx⟩
    exact ⟨(a, b), hx, rfl⟩

/-- A reading that gains no aliases and leaves those that it is given beyond its need. -/
def Thrifty (x : Reading α) : Prop :=
  ∀ b a b', x b = .ok (a, b') → b' ≤ b ∧ ∀ more, x (b + more) = .ok (a, b' + more)

theorem thrifty_pure (a : α) : Thrifty (pure a : Reading α) := by
  intro b a' b' h
  cases h
  exact ⟨Nat.le_refl b, fun more => rfl⟩

theorem thrifty_throw (e : Fault) : Thrifty (throw e : Reading α) := by
  intro b a b' h
  cases h

theorem thrifty_bind {x : Reading α} {f : α → Reading β} (hx : Thrifty x)
    (hf : ∀ a, Thrifty (f a)) : Thrifty (x >>= f) := by
  intro b c b'' h
  obtain ⟨a, b', hfirst, hrest⟩ := reading_bind_eq_ok.mp h
  obtain ⟨hle, hmore⟩ := hx b a b' hfirst
  obtain ⟨hle', hmore'⟩ := hf a b' c b'' hrest
  exact ⟨Nat.le_trans hle' hle, fun more => by rw [reading_bind (hmore more), hmore' more]⟩

/-- A step that follows no aliases. -/
theorem thrifty_lift (x : Except Fault α) : Thrifty (liftM x : Reading α) := by
  intro b a b' h
  cases x with
  | error e => cases h
  | ok a' =>
    cases h
    exact ⟨Nat.le_refl b, fun more => rfl⟩

theorem thrifty_mapM {f : α → Reading β} (hf : ∀ a, Thrifty (f a)) (xs : List α) :
    Thrifty (xs.mapM f) := by
  induction xs with
  | nil =>
    rw [List.mapM_nil]
    exact thrifty_pure []
  | cons x rest ih =>
    rw [List.mapM_cons]
    exact thrifty_bind (hf x) fun y => thrifty_bind ih fun ys => thrifty_pure (y :: ys)

theorem thrifty_foldlM {f : β → α → Reading β} (hf : ∀ b a, Thrifty (f b a)) (xs : List α) (b : β) :
    Thrifty (xs.foldlM f b) := by
  induction xs generalizing b with
  | nil => exact thrifty_pure b
  | cons x rest ih =>
    rw [List.foldlM_cons]
    exact thrifty_bind (hf b x) ih

/-! ## Readings of a document -/

namespace Document

variable (d : Document)

/-- Following an alias takes one of those that may be followed. -/
theorem thrifty_follow (node : Node) : Thrifty (d.follow node) := by
  intro b target b' h
  cases node with
  | scalar | sequence | mapping =>
    cases h
    exact ⟨Nat.le_refl b, fun more => rfl⟩
  | aliasOf slot =>
    cases b with
    | zero => cases h
    | succ b =>
      cases hslot : d.slot? slot with
      | none => simp [follow, hslot] at h
      | some node =>
        simp only [follow, hslot, Except.ok.injEq, Prod.mk.injEq] at h
        obtain ⟨rfl, rfl⟩ := h
        refine ⟨Nat.le_succ b, fun more => ?_⟩
        rw [Nat.succ_add]
        simp only [follow, hslot]

theorem thrifty_readText (node : Node) : Thrifty (d.readText node) := by
  refine thrifty_bind (thrifty_follow d node) fun node => ?_
  split
  · exact thrifty_pure _
  · exact thrifty_throw _

theorem thrifty_readTyped (core : String) (node : Node) : Thrifty (d.readTyped core node) := by
  refine thrifty_bind (thrifty_follow d node) fun node => ?_
  split
  · split
    · exact thrifty_pure _
    · exact thrifty_throw _
  · exact thrifty_throw _

theorem thrifty_readFlag (node : Node) : Thrifty (d.readFlag node) := by
  refine thrifty_bind (thrifty_readTyped d "bool" node) fun text => ?_
  split
  · exact thrifty_pure _
  · exact thrifty_throw _

theorem thrifty_readNumber (node : Node) : Thrifty (d.readNumber node) := by
  refine thrifty_bind (thrifty_readTyped d "int" node) fun text => ?_
  split
  · split
    · exact thrifty_pure _
    · exact thrifty_throw _
  · exact thrifty_throw _

theorem thrifty_readTexts (node : Node) : Thrifty (d.readTexts node) := by
  refine thrifty_bind (thrifty_follow d node) fun node => ?_
  split
  · exact thrifty_mapM (thrifty_readText d) _
  · split
    · exact thrifty_pure _
    · exact thrifty_throw _

theorem thrifty_readOptional {read : Node → Reading α} (hread : ∀ node, Thrifty (read node))
    (node : Node) : Thrifty (d.readOptional read node) := by
  refine thrifty_bind (thrifty_follow d node) fun node =>
    thrifty_bind (thrifty_lift _) fun absent => ?_
  split
  · exact thrifty_pure _
  · exact thrifty_bind (hread node) fun a => thrifty_pure _

theorem thrifty_knownEntries (keys : List String) (seen : List (String × Node))
    (entries : List (Node × Node)) : Thrifty (d.knownEntries keys seen entries) := by
  induction entries generalizing seen with
  | nil => exact thrifty_pure _
  | cons entry rest ih =>
    refine thrifty_bind (thrifty_readText d entry.1) fun key => ?_
    split
    · split
      · exact thrifty_bind (thrifty_throw _) fun _ => ih _
      · exact ih _
    · exact ih _

theorem thrifty_readRecord (keys : List String) (node : Node) :
    Thrifty (d.readRecord keys node) := by
  refine thrifty_bind (thrifty_follow d node) fun node => ?_
  split
  · exact thrifty_knownEntries d keys [] _
  · split
    · exact thrifty_pure _
    · exact thrifty_throw _

end Document

end LayeredConfig.Yaml

namespace LayeredConfig

open Yaml

/-! ## Readings of settings -/

theorem VerificationSettings.thrifty_read (d : Document) (node : Node) :
    Thrifty (VerificationSettings.read d node) := by
  refine thrifty_bind (d.thrifty_readRecord _ node) fun fields =>
    thrifty_foldlM (fun v field => ?_) fields _
  unfold readField
  split
  · exact thrifty_bind (d.thrifty_readFlag field.2) fun _ => thrifty_pure _
  · exact thrifty_bind (d.thrifty_readText field.2) fun _ => thrifty_pure _

theorem SettingType.thrifty_read (d : Document) (t : SettingType) (node : Node) :
    Thrifty (t.read d node) := by
  cases t with
  | text => exact d.thrifty_readText node
  | flag => exact d.thrifty_readFlag node
  | number => exact d.thrifty_readNumber node
  | texts => exact d.thrifty_readTexts node
  | note => exact d.thrifty_readOptional d.thrifty_readText node
  | verification => exact d.thrifty_readOptional (VerificationSettings.thrifty_read d) node

theorem Settings.thrifty_readField (d : Document) (c : Settings) (field : String × Node) :
    Thrifty (Settings.readField d c field) := by
  unfold readField
  split
  · exact thrifty_bind (SettingType.thrifty_read d _ field.2) fun _ => thrifty_pure _
  · exact thrifty_pure c

end LayeredConfig
