import JavaSketch.Fault

namespace JavaSketch

variable {ε α β : Type} {x : Except ε α} {f : α → Except ε β} {b : β}

theorem bind_eq_ok : x >>= f = .ok b ↔ ∃ a, x = .ok a ∧ f a = .ok b := by
  cases x with
  | error e =>
    constructor
    · intro h
      cases h
    · rintro ⟨a, h, _⟩
      cases h
  | ok a =>
    constructor
    · intro h
      exact ⟨a, rfl, h⟩
    · rintro ⟨_, h, hf⟩
      cases h
      exact hf

theorem map_eq_ok {g : α → β} : x.map g = .ok b ↔ ∃ a, x = .ok a ∧ g a = b := by
  cases x with
  | error e =>
    constructor
    · intro h
      cases h
    · rintro ⟨a, h, _⟩
      cases h
  | ok a =>
    constructor
    · intro h
      exact ⟨a, rfl, Except.ok.inj h⟩
    · rintro ⟨_, h, hg⟩
      cases h
      exact congrArg Except.ok hg

theorem mapM_eq_ok {l : List α} {g : α → β} (h : ∀ a ∈ l, f a = .ok (g a)) :
    l.mapM f = .ok (l.map g) := by
  induction l with
  | nil => rfl
  | cons a l ih =>
    obtain ⟨ha, hl⟩ := List.forall_mem_cons.1 h
    rw [List.mapM_cons, ha, ih hl]
    rfl

theorem mapM_eq_error {l : List α}
    (h : ∃ a ∈ l, ∃ e, f a = .error e) : ∃ a ∈ l, ∃ e, f a = .error e ∧ l.mapM f = .error e := by
  induction l with
  | nil =>
    obtain ⟨a, ha, _⟩ := h
    cases ha
  | cons a l ih =>
    rw [List.mapM_cons]
    cases hf : f a with
    | error e => exact ⟨a, List.mem_cons_self, e, hf, rfl⟩
    | ok b =>
      obtain ⟨a', ha, e, he⟩ := h
      rcases List.mem_cons.1 ha with rfl | ha
      · rw [hf] at he
        cases he
      · obtain ⟨a', ha, e, he, hl⟩ := ih ⟨a', ha, e, he⟩
        refine ⟨a', List.mem_cons_of_mem _ ha, e, he, ?_⟩
        rw [hl]
        rfl

/-- The fault tells the author what is wrong with a sketch, and it is not that a template has no
name. -/
def Fault.Explains (f : Fault) : Prop := f.isRefusal = true ∧ ∀ line, f ≠ .namelessTemplate line

/-- The outcome is a value with the given property, or a fault that explains itself. -/
def Yields (x : Except Fault α) (P : α → Prop) : Prop :=
  match x with
  | .ok a => P a
  | .error f => f.Explains

namespace Yields

variable {x : Except Fault α} {f : α → Except Fault β} {P Q : α → Prop} {R : β → Prop} {a : α}

theorem ok (h : P a) : Yields (.ok a) P := h

theorem mono (h : Yields x P) (hPQ : ∀ a, P a → Q a) : Yields x Q := by
  cases x with
  | error f => exact h
  | ok a => exact hPQ a h

theorem of_ok (h : Yields x P) (hx : x = .ok a) : P a := by
  rw [hx] at h
  exact h

theorem strengthen (h : Yields x P) (hx : ∀ a, x = .ok a → Q a) : Yields x Q := by
  cases x with
  | error f => exact h
  | ok a => exact hx a rfl

theorem bind (hx : Yields x P) (hf : ∀ a, P a → Yields (f a) R) : Yields (x >>= f) R := by
  cases x with
  | error f => exact hx
  | ok a => exact hf a hx

theorem map {g : α → β} (hx : Yields x P) (hg : ∀ a, P a → R (g a)) : Yields (x.map g) R := by
  cases x with
  | error f => exact hx
  | ok a => exact hg a hx

theorem mapM {γ : Type} {g : γ → Except Fault α} (l : List γ)
    (hg : ∀ c, Yields (g c) fun _ => True) : Yields (l.mapM g) fun _ => True := by
  induction l with
  | nil => exact ok trivial
  | cons c l ih =>
    rw [List.mapM_cons]
    refine (hg c).bind fun a _ => ?_
    exact ih.bind fun as _ => ok trivial

end Yields

end JavaSketch
