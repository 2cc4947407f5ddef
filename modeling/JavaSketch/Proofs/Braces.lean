import JavaSketch.Proofs.Text

namespace JavaSketch

def openBrace : Char := '\x7b'

def closeBrace : Char := '\x7d'

def BraceFree (t : Text) : Prop := ∀ c ∈ t, c ≠ openBrace ∧ c ≠ closeBrace

instance (t : Text) : Decidable (BraceFree t) :=
  List.decidableBAll (fun c => c ≠ openBrace ∧ c ≠ closeBrace) t

/-- As many opening as closing braces, and nowhere more closing ones so far. -/
structure Balanced (t : Text) : Prop where
  total : t.count openBrace = t.count closeBrace
  within : ∀ p, p <+: t → p.count closeBrace ≤ p.count openBrace

def braceStep (d : Nat) (c : Char) : Option Nat :=
  if c = openBrace then some (d + 1)
  else if c = closeBrace then if d = 0 then none else some (d - 1)
  else some d

/-- The number of open braces behind a text that stands inside of `d` open ones, unless it
closes one too many. -/
def depthAfter (d : Nat) (t : Text) : Option Nat := t.foldlM braceStep d

namespace BraceFree

variable {s t : Text}

theorem mono (h : BraceFree s) (hs : t ⊆ s) : BraceFree t := fun c hc => h c (hs hc)

theorem append_iff : BraceFree (s ++ t) ↔ BraceFree s ∧ BraceFree t := List.forall_mem_append

theorem append (hs : BraceFree s) (ht : BraceFree t) : BraceFree (s ++ t) := append_iff.2 ⟨hs, ht⟩

theorem trim (h : BraceFree s) : BraceFree s.trim := h.mono s.trim_subset

theorem count_open (h : BraceFree t) : t.count openBrace = 0 :=
  List.count_eq_zero.2 fun hc => (h _ hc).1 rfl

theorem count_close (h : BraceFree t) : t.count closeBrace = 0 :=
  List.count_eq_zero.2 fun hc => (h _ hc).2 rfl

theorem depthAfter (h : BraceFree t) (d : Nat) : depthAfter d t = some d := by
  induction t with
  | nil => rfl
  | cons c t ih =>
    obtain ⟨⟨ho, hc⟩, ht⟩ := List.forall_mem_cons.1 h
    have hs : braceStep d c = some d := by rw [braceStep, if_neg ho, if_neg hc]
    rw [JavaSketch.depthAfter, List.foldlM_cons, hs]
    exact ih ht

end BraceFree

variable {t u p : Text} {c : Char} {d e : Nat}

theorem depthAfter_append (h : depthAfter d t = some e) :
    depthAfter d (t ++ u) = depthAfter e u := by
  rw [depthAfter, List.foldlM_append, ← depthAfter, h]
  rfl

theorem depthAfter_close (d : Nat) : depthAfter (d + 1) [closeBrace] = some d := rfl

theorem count_of_braceStep (h : braceStep d c = some e) :
    d + [c].count openBrace = e + [c].count closeBrace := by
  rw [braceStep] at h
  split at h
  · rename_i ho
    cases h
    rw [ho]
    rfl
  · rename_i ho
    rw [List.count_cons_of_ne ho]
    split at h
    · rename_i hc
      rw [hc, List.count_singleton_self]
      split at h
      · cases h
      · cases h
        rw [List.count_nil]
        omega
    · rename_i hc
      cases h
      rw [List.count_cons_of_ne hc]
      rfl

/-- A text that never closes one brace too many counts the open ones. -/
theorem count_of_depthAfter (h : depthAfter d t = some e) :
    d + t.count openBrace = e + t.count closeBrace := by
  induction t generalizing d with
  | nil =>
    cases h
    rfl
  | cons c t ih =>
    rw [depthAfter, List.foldlM_cons] at h
    obtain ⟨k, hk, h⟩ := Option.bind_eq_some_iff.1 h
    have hc := count_of_braceStep hk
    have ht := ih h
    rw [← List.singleton_append, List.count_append, List.count_append]
    omega

theorem depthAfter_of_prefix (h : depthAfter d t = some e) (hp : p <+: t) :
    ∃ k, depthAfter d p = some k := by
  obtain ⟨u, rfl⟩ := hp
  rw [depthAfter, List.foldlM_append] at h
  obtain ⟨k, hk, _⟩ := Option.bind_eq_some_iff.1 h
  exact ⟨k, hk⟩

theorem Balanced.of_depthAfter (h : depthAfter 0 t = some 0) : Balanced t where
  total := by
    have hc := count_of_depthAfter h
    omega
  within := by
    intro p hp
    obtain ⟨k, hk⟩ := depthAfter_of_prefix h hp
    have hc := count_of_depthAfter hk
    omega

theorem BraceFree.balanced (h : BraceFree t) : Balanced t := .of_depthAfter (h.depthAfter 0)

variable {pad : Text}

theorem depthAfter_pad (hp : BraceFree pad) (d : Nat) (s : Text) :
    depthAfter d (pad ++ s) = depthAfter d s :=
  depthAfter_append (hp.depthAfter d)

theorem depthAfter_padded (hp : BraceFree pad) (d : Nat) (lines : List Text) :
    depthAfter d (lines.flatMap (pad ++ ·)) = depthAfter d lines.flatten := by
  induction lines generalizing d with
  | nil => rfl
  | cons line lines ih =>
    rw [List.flatMap_cons, List.flatten_cons, List.append_assoc, depthAfter_pad hp]
    cases hl : depthAfter d line with
    | none =>
      rw [depthAfter] at hl
      simp only [depthAfter, List.foldlM_append, hl]
      rfl
    | some e => rw [depthAfter_append hl, depthAfter_append hl, ih]

theorem depthAfter_unlines (d : Nat) (lines : List Text) :
    depthAfter d (Text.unlines lines) = depthAfter d lines.flatten := by
  have hn : BraceFree ['\n'] := by decide
  cases lines with
  | nil => rfl
  | cons line lines =>
    rw [← depthAfter_padded hn, ← depthAfter_pad hn d (Text.unlines (line :: lines)), Text.unlines,
      Text.join_cons, List.flatMap_cons, List.append_assoc]

/-- The count of open braces only stops where `d` and those opened so far are not enough. -/
theorem depthAfter_of_within (h : ∀ p, p <+: t → p.count closeBrace ≤ d + p.count openBrace) :
    ∃ e, depthAfter d t = some e := by
  induction t generalizing d with
  | nil => exact ⟨d, rfl⟩
  | cons c t ih =>
    have hc := h [c] (List.prefix_append [c] t)
    obtain ⟨k, hk⟩ : ∃ k, braceStep d c = some k := by
      rw [braceStep]
      split
      · exact ⟨d + 1, rfl⟩
      · split
        · rename_i ho hcl
          have hd : d ≠ 0 := by
            rintro rfl
            rw [hcl] at hc
            exact absurd hc (by decide)
          rw [if_neg hd]
          exact ⟨d - 1, rfl⟩
        · exact ⟨d, rfl⟩
    have hcount := count_of_braceStep hk
    rw [depthAfter, List.foldlM_cons, hk]
    refine ih fun p hp => ?_
    have hp' := h (c :: p) (List.cons_prefix_cons.2 ⟨rfl, hp⟩)
    rw [← List.singleton_append, List.count_append, List.count_append] at hp'
    omega

theorem Balanced.depthAfter (h : Balanced t) (d : Nat) : depthAfter d t = some d := by
  obtain ⟨e, he⟩ := depthAfter_of_within (d := d) fun p hp => Nat.le_add_left_of_le (h.within p hp)
  have hc := count_of_depthAfter he
  have ht := h.total
  have hd : e = d := by omega
  rw [he, hd]

end JavaSketch
