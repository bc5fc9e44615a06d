/-
  Steps that may fail, one after another: the result of two steps tells what each of them gave,
  and the error of many steps is one of theirs (`of_foldlM_eq_error`). A search finds what it is for
  when nothing else in the list passes its test (`find?_eq_some_of_unique`).
-/

namespace LayeredConfig

theorem bind_eq_ok {ε α β : Type} {x : Except ε α} {f : α → Except ε β} {b : β} :
    (x >>= f) = .ok b ↔ ∃ a, x = .ok a ∧ f a = .ok b := by
  cases x with
  | ok a => simp [bind, Except.bind]
  | error e => simp [bind, Except.bind]

theorem bind_eq_error {ε α β : Type} {x : Except ε α} {f : α → Except ε β} {e : ε} :
    (x >>= f) = .error e ↔ x = .error e ∨ ∃ a, x = .ok a ∧ f a = .error e := by
  cases x with
  | ok a => simp [bind, Except.bind]
  | error e => simp [bind, Except.bind]

@[simp] theorem ok_bind {ε α β : Type} (a : α) (f : α → Except ε β) :
    ((.ok a : Except ε α) >>= f) = f a := rfl

@[simp] theorem error_bind {ε α β : Type} (e : ε) (f : α → Except ε β) :
    ((.error e : Except ε α) >>= f) = .error e := rfl

/-- What holds of every error of a step holds of every error of the steps in a row. -/
theorem of_foldlM_eq_error {ε α β : Type} {P : ε → Prop} {f : β → α → Except ε β}
    (hf : ∀ b a e, f b a = .error e → P e) {xs : List α} {b : β} {e : ε}
    (h : xs.foldlM f b = .error e) : P e := by
  induction xs generalizing b with
  | nil => cases h
  | cons a rest ih =>
    rw [List.foldlM_cons] at h
    rcases bind_eq_error.mp h with hfirst | ⟨next, -, hrest⟩
    · exact hf b a e hfirst
    · exact ih hrest

theorem isOk_iff {ε α : Type} {x : Except ε α} : x.isOk = true ↔ ∃ a, x = .ok a := by
  cases x with
  | ok a => simp [Except.isOk, Except.toBool]
  | error e => simp [Except.isOk, Except.toBool]

@[simp] theorem toOption_eq_some_iff {ε α : Type} {x : Except ε α} {a : α} :
    x.toOption = some a ↔ x = .ok a := by
  cases x with
  | ok b => simp [Except.toOption]
  | error e => simp [Except.toOption]

/-- A search finds the one item that passes its test. -/
theorem find?_eq_some_of_unique {α : Type} {l : List α} {test : α → Bool} {x : α} (hx : x ∈ l)
    (htest : test x = true) (h : ∀ y ∈ l, test y = true → y = x) : l.find? test = some x := by
  cases hfind : l.find? test with
  | none =>
    have hnot := List.find?_eq_none.mp hfind x hx
    exact absurd htest hnot
  | some y => rw [h y (List.mem_of_find?_eq_some hfind) (List.find?_some hfind)]

end LayeredConfig
