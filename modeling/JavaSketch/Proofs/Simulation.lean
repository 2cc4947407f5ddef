import JavaSketch.Proofs.Additions
import Mathlib.Data.List.Forall2

namespace JavaSketch

/-- Both outcomes are the same fault, or values that are related. -/
inductive InStep {α β : Type} (R : α → β → Prop) : Except Fault α → Except Fault β → Prop
  | fault (f : Fault) : InStep R (.error f) (.error f)
  | value {a : α} {b : β} (related : R a b) : InStep R (.ok a) (.ok b)

/-- The values are related, and both readers have taken as many lines. -/
def SameCount {α β : Type} (R : α → β → Prop) (x : α × Nat) (y : β × Nat) : Prop :=
  R x.1 y.1 ∧ x.2 = y.2

namespace InStep

variable {α β γ δ : Type} {R : α → β → Prop} {S : γ → δ → Prop} {x : Except Fault α}
  {y : Except Fault β}

theorem refl (x : Except Fault α) : InStep Eq x x := by
  cases x with
  | error f => exact .fault f
  | ok a => exact .value rfl

theorem cases (h : InStep R x y) :
    (∃ f, x = .error f ∧ y = .error f) ∨ ∃ a b, x = .ok a ∧ y = .ok b ∧ R a b := by
  cases h with
  | fault f => exact .inl ⟨f, rfl, rfl⟩
  | value related => exact .inr ⟨_, _, rfl, rfl, related⟩

theorem bind {f : α → Except Fault γ} {g : β → Except Fault δ} (h : InStep R x y)
    (hf : ∀ a b, R a b → InStep S (f a) (g b)) : InStep S (x >>= f) (y >>= g) := by
  cases h with
  | fault f => exact .fault f
  | value related => exact hf _ _ related

theorem map {f : α → γ} {g : β → δ} (h : InStep R x y) (hf : ∀ a b, R a b → S (f a) (g b)) :
    InStep S (x.map f) (y.map g) := by
  cases h with
  | fault f => exact .fault f
  | value related => exact .value (hf _ _ related)

/-- Readers that are in step on equal values are equal. -/
theorem sameCount_eq_iff {x y : Except Fault (α × Nat)} : InStep (SameCount Eq) x y ↔ x = y := by
  constructor
  · intro h
    cases h with
    | fault f => rfl
    | value related => rw [Prod.ext related.1 related.2]
  · rintro rfl
    cases x with
    | error f => exact .fault f
    | ok a => exact .value ⟨rfl, rfl⟩

end InStep

namespace Template

/-- Lines that are related are passed over, end a template, open a section or hold a member under
both rules, and members under related headings keep the templates related. -/
structure Parallel (r r' : TemplateRules) (alike : Text → Text → Prop)
    (T : Template → Template → Prop) (H : Option Text → Option Text → Prop) : Prop where
  idle : ∀ {line line' : Text}, alike line line' → isIdle line'.trim = isIdle line.trim
  ends : ∀ {line line' : Text}, alike line line' → r'.ends line' line'.trim = r.ends line line.trim
  heading : ∀ {line line' : Text}, alike line line' →
    Option.Rel (fun name name' => H (some name) (some name')) (r.heading? line line.trim)
      (r'.heading? line' line'.trim)
  member : ∀ {t u : Template} {heading heading' : Option Text} {line line' : Text}
    {rest rest' : List Text}, T t u → H heading heading' → alike line line' →
    List.Forall₂ alike rest rest' → r.heading? line line.trim = none →
    InStep (SameCount T) (readMember r t heading line rest) (readMember r' u heading' line' rest')

variable {r r' : TemplateRules} {alike : Text → Text → Prop} {T : Template → Template → Prop}
  {H : Option Text → Option Text → Prop}

theorem Parallel.readMembers (hp : Parallel r r' alike T H) {t u : Template}
    {heading heading' : Option Text} {lines lines' : List Text} (ht : T t u)
    (hh : H heading heading') (hl : List.Forall₂ alike lines lines') :
    InStep (SameCount T) (readMembers r t heading lines) (readMembers r' u heading' lines') := by
  have hcount {x : Except Fault (Template × Nat)} {y : Except Fault (Template × Nat)} {k : Nat}
      (h : InStep (SameCount T) x y) : InStep (SameCount T)
        (x >>= fun res => .ok (res.1, res.2 + k)) (y >>= fun res => .ok (res.1, res.2 + k)) :=
    h.bind fun a b hab => .value ⟨hab.1, congrArg (· + k) hab.2⟩
  induction lines using lines_induction generalizing t u heading heading' lines' with
  | nil =>
    cases hl with
    | nil =>
      rw [readMembers_nil, readMembers_nil]
      exact .value ⟨ht, rfl⟩
  | cons line rest ih =>
    cases hl with
    | @cons _ line' _ rest' hline hrest =>
      have hidle := hp.idle hline
      have hends := hp.ends hline
      cases blank : isIdle line.trim with
      | true =>
        rw [readMembers_idle blank, readMembers_idle (hidle.trans blank)]
        exact hcount (ih 0 ht hh hrest)
      | false =>
        have blank' := hidle.trans blank
        cases ends : r.ends line line.trim with
        | error f =>
          rw [readMembers_broken blank ends, readMembers_broken blank' (hends.trans ends)]
          exact .fault f
        | ok stops =>
          have ends' := hends.trans ends
          cases stops with
          | true =>
            rw [readMembers_stop blank ends, readMembers_stop blank' ends']
            exact .value ⟨ht, rfl⟩
          | false =>
            have hopens := hp.heading hline
            cases opens : r.heading? line line.trim with
            | some name =>
              rw [opens] at hopens
              generalize opens' : r'.heading? line' line'.trim = opened at hopens
              cases hopens with
              | some hname =>
                rw [readMembers_enter blank ends opens, readMembers_enter blank' ends' opens']
                exact hcount (ih 0 ht hname hrest)
            | none =>
              rw [opens] at hopens
              generalize opens' : r'.heading? line' line'.trim = opened at hopens
              cases hopens with
              | none =>
                rw [readMembers_member blank ends opens, readMembers_member blank' ends' opens']
                apply (hp.member ht hh hline hrest opens).bind
                rintro ⟨t₁, k⟩ ⟨u₁, _⟩ ⟨ht₁, rfl⟩
                exact hcount (ih k ht₁ hh (List.forall₂_drop k hrest))

end Template

namespace Program

/-- The programs have the same name, main part and methods, and their templates are related one by
one. -/
structure Related (T : Template → Template → Prop) (p q : Program) : Prop where
  name : q.name = p.name
  main : q.main = p.main
  methods : q.methods = p.methods
  templates : List.Forall₂ T p.templates q.templates

variable {r r' : ProgramRules} {T : Template → Template → Prop} {p q : Program}

theorem readParts_inStep (hopens : r'.opensTemplate = r.opensTemplate) (hmain : r'.main = r.main)
    (hmethod : r'.method? = r.method?)
    (htemplate : ∀ line rest, InStep (SameCount T) (r.template line rest) (r'.template line rest))
    (hp : Related T p q) (lines : List Text) :
    InStep (Related T) (readParts r p lines) (readParts r' q lines) := by
  induction lines using lines_induction generalizing p q with
  | nil =>
    rw [readParts_nil, readParts_nil]
    exact .value hp
  | cons line rest ih =>
    have hopens' : r'.opensTemplate line.trim = r.opensTemplate line.trim := by rw [hopens]
    cases opens : r.opensTemplate line.trim with
    | error f =>
      rw [readParts_broken opens, readParts_broken (hopens'.trans opens)]
      exact .fault f
    | ok opened =>
      have opens' := hopens'.trans opens
      cases opened with
      | true =>
        rw [readParts_template opens, readParts_template opens']
        apply (htemplate line rest).bind
        rintro ⟨t, n⟩ ⟨u, _⟩ ⟨htu, rfl⟩
        apply ih n
        exact { hp with templates := List.rel_append hp.templates (.cons htu .nil) }
      | false =>
        by_cases main : line.trim = "main".toList
        · rw [readParts_main opens main, readParts_main opens' main, hmain]
          apply (InStep.refl (r.main rest)).bind
          rintro ⟨body, n⟩ _ rfl
          apply ih n
          exact { hp with main := rfl }
        · cases found : if line.trim.startsWith "method " then r.method? else none with
          | some method =>
            rw [readParts_method opens main found,
              readParts_method opens' main (by rw [hmethod, found])]
            apply (InStep.refl (method line rest)).bind
            rintro ⟨m, n⟩ _ rfl
            apply ih n
            exact { hp with methods := congrArg (· ++ m.toList) hp.methods }
          | none =>
            rw [readParts_pass opens main found,
              readParts_pass opens' main (by rw [hmethod, found])]
            exact ih 0 hp

end Program

end JavaSketch
