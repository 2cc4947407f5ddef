import JavaSketch.Edition.Basic
import JavaSketch.Proofs.Outcome

namespace JavaSketch

/-- The property holds for readers that take no line, and it passes through a step that reads
nothing and through a change of the result. -/
structure Compositional (Q : ∀ {α : Type}, (List Text → Except Fault (α × Nat)) → Prop) : Prop where
  const : ∀ {α : Type} {x : Except Fault (α × Nat)}, (∀ a n, x = .ok (a, n) → n = 0) →
    Q fun _ => x
  bind : ∀ {α β : Type} {x : Except Fault β} {read : β → List Text → Except Fault (α × Nat)},
    (∀ b, Q (read b)) → Q fun lines => x >>= fun b => read b lines
  andThen : ∀ {α β : Type} {read : List Text → Except Fault (β × Nat)}
    {f : β × Nat → Except Fault (α × Nat)} {g : β → α}, Q read →
    (∀ b n, f (b, n) = .ok (g b, n)) → Q fun lines => read lines >>= f

namespace Edition

theorem named_nil {e : Edition} {params : Text → Text → Except Fault (List Param)}
    {access : Access} {s : Text} {m : Option Method} {n : Nat}
    (h : (e.methodReader params).named access s [] = .ok (m, n)) : n = 0 := by
  rw [MethodReader.named] at h
  cases hs : Signature.callParts? s with
  | none =>
    rw [hs] at h
    cases h
    rfl
  | some parts =>
    rw [hs] at h
    obtain ⟨ps, -, h⟩ := bind_eq_ok.1 h
    cases h
    rfl

end Edition

namespace Compositional

variable {Q : ∀ {α : Type}, (List Text → Except Fault (α × Nat)) → Prop} {r : MethodReader}
  {e : Edition}

theorem idle (hQ : Compositional Q) {α : Type} (a : α) : Q fun _ => .ok (a, 0) := by
  apply hQ.const
  intro b n h
  cases h
  rfl

theorem regular (hQ : Compositional Q) (h : Q r.body) (access : Access) (isStatic : Bool)
    (s : Text) : Q (r.regular access isStatic s) := by
  unfold MethodReader.regular
  cases Signature.read? r.marks s with
  | none => exact hQ.idle none
  | some sig => exact hQ.bind fun params => hQ.andThen h fun _ _ => rfl

theorem named (hQ : Compositional Q) (h : Q r.body) (access : Access) (s : Text) :
    Q (r.named access s) := by
  unfold MethodReader.named
  cases Signature.callParts? s with
  | none => exact hQ.idle none
  | some parts => exact hQ.bind fun params => hQ.andThen h fun _ _ => rfl

theorem listed (hQ : Compositional Q) (h : Q r.body) (name : Text) (access : Access) (s : Text) :
    Q (r.listed name access s) := hQ.bind fun _ => hQ.andThen h fun _ _ => rfl

theorem onMember (hQ : Compositional Q)
    {read : List Text → Access → Text → Except Fault (Option Method × Nat)}
    (h : ∀ access s, Q fun rest => read rest access s) (line : Text) :
    Q fun rest => Method.onMember line (read rest) := by
  unfold Method.onMember
  by_cases hi : isIdle line.trim = true
  · simp only [hi, ↓reduceIte]
    exact hQ.idle none
  · simp only [hi]
    exact hQ.bind fun parts => h _ _

theorem readMethod (hQ : Compositional Q) (h : Q e.readBody) (t? : Option Template)
    (isStatic : Bool) (line : Text) : Q (e.readMethod t? isStatic line) :=
  hQ.onMember (fun access s => hQ.regular h access isStatic s) line

theorem readConstructor (hQ : Compositional Q) (h : Q e.readBody) (t? : Option Template)
    (line : Text) : Q (e.readConstructor t? line) := by
  apply hQ.onMember
  intro access s
  by_cases hs : e.constructorForm.isListed s = true
  · simp only [hs, ↓reduceIte]
    exact hQ.listed h _ access s
  · simp only [hs]
    by_cases hl : e.constructorForm.isListed line.trim = true
    · simp only [hl, ↓reduceIte]
      exact hQ.const fun m n => Edition.named_nil
    · simp only [hl]
      exact hQ.named h access s

theorem readStandalone (hQ : Compositional Q) (h : Q e.readBody) (line : Text) :
    Q (e.readStandalone line) := by
  unfold Edition.readStandalone
  by_cases hs : line.trim.startsWith "method " = true
  · simp only [hs, ↓reduceIte]
    exact hQ.bind fun parts => hQ.regular h _ true _
  · simp only [hs]
    exact hQ.idle none

/-- The members of templates without a main part of their own. -/
theorem readMember (hQ : Compositional Q) (h : Q e.readBody)
    (hkind : ∀ opening heading indent, e.kind? opening heading indent ≠ some .main)
    (opening : Text) (t : Template) (heading : Option Text) (line : Text) :
    Q (Template.readMember (e.templateRules opening) t heading line) := by
  unfold Template.readMember
  cases hk : (e.templateRules opening).kind? heading line.indent with
  | none => exact hQ.idle t
  | some kind =>
    cases kind with
    | staticVars => exact hQ.bind fun v => hQ.idle _
    | instanceVars => exact hQ.bind fun v => hQ.idle _
    | constructors => exact hQ.andThen (hQ.readConstructor h (some t) line) fun _ _ => rfl
    | staticMethods => exact hQ.andThen (hQ.readMethod h (some t) true line) fun _ _ => rfl
    | instanceMethods => exact hQ.andThen (hQ.readMethod h (some t) false line) fun _ _ => rfl
    | abstractMethods => exact hQ.bind fun m => hQ.idle _
    | accessors => exact hQ.bind fun a => hQ.idle _
    | main => exact absurd hk (hkind opening heading line.indent)

end Compositional

end JavaSketch
