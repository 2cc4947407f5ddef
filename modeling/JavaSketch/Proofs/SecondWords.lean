import JavaSketch.Proofs.OperandPhrases

namespace JavaSketch

/-- The step can take the character. -/
def Step.admits : Step → Char → Bool
  | .exact a, c => c == a
  | .letter a, c => sameLetter a c
  | .run cls _ _ _, c => cls.holds c
  | .finish, _ => false

namespace Pattern

variable {p q : Pattern} {step : Step} {s t l w : Text} {c d : Char}

theorem admits_of_takes {n : Nat} (h : step.Takes s n) (hc : c ∈ s.take n) :
    step.admits c = true := by
  cases step with
  | exact a =>
    obtain ⟨rfl, ha⟩ := h
    obtain ⟨s, rfl⟩ := List.head?_eq_some_iff.1 ha
    exact beq_iff_eq.2 (List.mem_singleton.1 hc)
  | letter a =>
    obtain ⟨rfl, b, hb, hab⟩ := h
    obtain ⟨s, rfl⟩ := List.head?_eq_some_iff.1 hb
    rw [List.mem_singleton.1 hc]
    exact hab
  | run cls least longest keep =>
    have htaken : s.take n <+: s.takeWhile cls.holds := by
      apply List.prefix_of_prefix_length_le (List.take_prefix n s) (List.takeWhile_prefix _)
      exact (List.length_take_le n s).trans h.2
    exact List.all_eq_true.1 List.all_takeWhile c (htaken.subset hc)
  | finish =>
    obtain ⟨rfl, -⟩ := h
    cases hc

theorem exists_of_accepts_append (h : accepts (p ++ q) s = true) :
    ∃ k, q.accepts (s.drop k) = true ∧ ∀ c ∈ s.take k, ∃ step ∈ p, step.admits c = true := by
  induction p generalizing s with
  | nil => exact ⟨0, h, fun c hc => absurd hc List.not_mem_nil⟩
  | cons step p ih =>
    obtain ⟨n, hn, hrest⟩ := accepts_cons.1 h
    obtain ⟨k, hk, hpassed⟩ := ih hrest
    rw [List.drop_drop] at hk
    refine ⟨n + k, hk, fun c hc => ?_⟩
    rw [List.take_add, List.mem_append] at hc
    rcases hc with hc | hc
    · exact ⟨step, List.mem_cons_self, admits_of_takes hn hc⟩
    · obtain ⟨other, hmem, hother⟩ := hpassed c hc
      exact ⟨other, List.mem_cons_of_mem _ hmem, hother⟩

theorem not_accepts_parenthesis (hp : ∀ step ∈ p, step.admits d = false) (hl : '(' ∉ l)
    (hd : d ≠ '(') : accepts (p ++ .exact '(' :: q) (l ++ ' ' :: d :: t) = false := by
  have hsplit : l ++ ' ' :: d :: t = (l ++ [' ', d]) ++ t := by
    rw [List.append_assoc]
    rfl
  have hnone : '(' ∉ l ++ [' ', d] := by
    simp [hl, hd.symm]
  rw [hsplit, Bool.eq_false_iff]
  intro h
  obtain ⟨k, hk, hpassed⟩ := exists_of_accepts_append h
  obtain ⟨m, ⟨-, hopen⟩, -⟩ := accepts_cons.1 hk
  rcases Nat.lt_or_ge k (l ++ [' ', d]).length with hlt | hge
  · rw [List.drop_append_of_le_length hlt.le, List.head?_append_of_ne_nil] at hopen
    · exact hnone (List.mem_of_mem_drop (List.mem_of_mem_head? hopen))
    · exact List.drop_eq_nil_iff.not.2 (Nat.not_le_of_lt hlt)
  · have hmem : d ∈ ((l ++ [' ', d]) ++ t).take k := by
      rw [List.take_append, List.take_of_length_le hge]
      simp
    obtain ⟨step, hstep, hadmits⟩ := hpassed d hmem
    rw [hp step hstep] at hadmits
    cases hadmits

theorem not_accepts_behind (hw : ' ' ∉ w) (hl : IsUnbroken l) (hd : isBlank d = false)
    (hp : p.accepts (d :: t) = false) :
    accepts (exactly w ++ .gap :: p) (l ++ ' ' :: d :: t) = false := by
  by_cases he : l = w
  · rw [he, accepts, find?_exactly_append, find?_gap_one (Text.head_cons hd)]
    exact hp
  · rw [accepts, find?_otherWord hw (fun _ => hl.char) he]
    rfl

theorem not_accepts_sign (hs : step.admits d = false) (hne : ∀ n, step.Takes (d :: t) n → 1 ≤ n) :
    accepts (step :: p) (d :: t) = false := by
  rw [Bool.eq_false_iff, ne_eq, accepts_cons]
  rintro ⟨n, hn, -⟩
  obtain ⟨m, rfl⟩ := Nat.exists_eq_add_of_le' (hne n hn)
  rw [admits_of_takes hn List.mem_cons_self] at hs
  cases hs

end Pattern

/-- A sign that is no letter, no blank and none of a call. -/
def isMark (d : Char) : Bool := isSign d && !isBlank d && !isWord d && d != '(' && d != '.'

theorem isMark_facts (h : isMark d = true) :
    isSign d = true ∧ isBlank d = false ∧ isWord d = false ∧ d ≠ '(' ∧ d ≠ '.' := by
  simpa only [isMark, Bool.and_eq_true, Bool.not_eq_true', bne_iff_ne, and_assoc] using h

namespace Operation

open Pattern

variable {l t s e x y : Text} {d : Char} {op : Operation}

theorem not_accepts_method_call {method : Text} {p : Pattern} (hm : method.all isWord = true)
    (hopen : '(' ∉ l) (hd : isMark d = true) :
    accepts ([.run .word 1 true false] ++ exactly ('.' :: method) ++ [.space] ++ .exact '(' :: p)
      (l ++ ' ' :: d :: t) = false := by
  obtain ⟨-, hblank, hword, hparen, hdot⟩ := isMark_facts hd
  apply not_accepts_parenthesis _ hopen hparen
  intro step hstep
  rw [List.mem_append, List.mem_append, List.mem_singleton, List.mem_singleton, exactly,
    List.mem_map] at hstep
  rcases hstep with (rfl | ⟨a, ha, rfl⟩) | rfl
  · exact hword
  · refine beq_eq_false_iff_ne.2 ?_
    rintro rfl
    rcases List.mem_cons.1 ha with rfl | ha
    · exact hdot rfl
    · rw [List.all_eq_true.1 hm d ha] at hword
      cases hword
  · exact hblank

/-- A phrase on a receiver alone begins with its first word, and goes on behind the blank. -/
theorem exists_of_covers_receiver {words : List Text} (hwords : words ∈ receiverPhrases)
    (build : Text → Text) (hl : IsUnbroken l) (hd : isBlank d = false)
    (hc : (onReceiver (Text.join " " words) build).covers (l ++ ' ' :: d :: t) = true) :
    ∃ more, words = l :: more ∧ (∀ w ∈ more, IsKeyword w) ∧
      accepts (more.flatMap (exactly · ++ [.gap]) ++ [.run .word 1 true false]) (d :: t) =
        true := by
  have hkeywords : ∀ words ∈ receiverPhrases, words ≠ [] ∧ ∀ w ∈ words, IsKeyword w := by decide
  obtain ⟨hne, hkeys⟩ := hkeywords words hwords
  rw [covers, shape_onReceiver (fun w hw => (hkeys w hw).notMem) hne] at hc
  obtain ⟨w, more, rfl⟩ := List.exists_cons_of_ne_nil hne
  obtain ⟨hw, hmore⟩ := List.forall_mem_cons.1 hkeys
  rw [List.flatMap_cons, List.append_assoc, List.append_assoc, List.singleton_append, accepts] at hc
  by_cases he : l = w
  · rw [he, find?_exactly_append, find?_gap_one (Text.head_cons hd)] at hc
    exact ⟨more, by rw [he], hmore, hc⟩
  · rw [find?_otherWord hw.notMem (fun _ => hl.char) he] at hc
    cases hc

theorem not_covers_receiver {words : List Text} (hwords : words ∈ receiverPhrases)
    (build : Text → Text) (hl : IsUnbroken l) (hd : isMark d = true) :
    (onReceiver (Text.join " " words) build).covers (l ++ ' ' :: d :: t) = false := by
  obtain ⟨-, hblank, hword, -⟩ := isMark_facts hd
  rw [Bool.eq_false_iff]
  intro hc
  obtain ⟨more, -, hmore, hrest⟩ := exists_of_covers_receiver hwords build hl hblank hc
  refine Bool.eq_false_iff.1 ?_ hrest
  cases more with
  | nil => exact not_accepts_sign hword fun n hn => hn.1
  | cons u more =>
    obtain ⟨hu, -⟩ := List.forall_mem_cons.1 hmore
    obtain ⟨a, u, rfl⟩ := List.exists_cons_of_ne_nil hu.isName.ne_nil
    refine not_accepts_sign (beq_eq_false_iff_ne.2 ?_) fun n hn => hn.1.ge
    rintro rfl
    rw [hu.isName.char List.mem_cons_self] at hword
    cases hword

theorem shortens_of_covers (hl : IsUnbroken l) (hopen : '(' ∉ l) (hd : isMark d = true)
    (hop : op ∈ all) (hc : op.covers (l ++ ' ' :: d :: t) = true) : op.Shortens := by
  rcases mem_all_cases hop with hop | hop
  · rcases phrases_cases op hop with h | ⟨words, hwords, build, rfl, -⟩
    · exact h
    · rw [not_covers_receiver hwords build hl hd] at hc
      cases hc
  · obtain ⟨method, p, hm, hshape⟩ := exists_of_mem_calls hop
    rw [covers, hshape, not_accepts_method_call hm hopen hd] at hc
    cases hc

/-- The expression of a statement is that of an operation, if one that covers it can be read. -/
theorem exists_operationExpression {ops : List Operation} (hop : op ∈ ops)
    (hc : op.covers s.lower = true) (he : op.expression? s = some e) :
    ∃ other ∈ ops, other.covers s.lower = true ∧
      other.expression? s = some (operationExpression ops s) := by
  have hsome : (ops.findSome? fun op =>
      if op.covers s.lower then op.expression? s else none).isSome = true := by
    rw [List.findSome?_isSome_iff]
    exact ⟨op, hop, by rw [if_pos hc, he]; rfl⟩
  obtain ⟨x, hx⟩ := Option.isSome_iff_exists.1 hsome
  obtain ⟨other, hmem, hother⟩ := List.exists_of_findSome?_eq_some hx
  obtain ⟨hcovers, hexpression⟩ := Option.ite_none_right_eq_some.1 hother
  refine ⟨other, hmem, hcovers, ?_⟩
  rw [operationExpression, hx]
  exact hexpression

theorem lower_sign (hd : isSign d = true) (t : Text) :
    Text.lower (d :: t) = d :: Text.lowerAfter [d] t := by
  have hsigma : d ≠ 'Σ' := by
    rintro rfl
    cases hd
  have hdot : d ≠ 'İ' := by
    rintro rfl
    cases hd
  rw [Text.lower, Text.lowerAfter, if_neg hsigma, if_neg hdot, lowerChar_sign hd]
  rfl

theorem countP_operationExpression (hl : IsUnbroken l) (hopen : '(' ∉ l) (hd : isMark d = true)
    (h : isOperation .all (l ++ ' ' :: d :: t) = true) :
    (operationExpression Phrasebook.all.operations (l ++ ' ' :: d :: t)).countP isBlank + 3 ≤
      (l ++ ' ' :: d :: t).countP isBlank := by
  have hlower : (l ++ ' ' :: d :: t).lower = l.lower ++ ' ' :: d :: Text.lowerAfter [d] t := by
    rw [Text.lower_append_blank, lower_sign (isMark_facts hd).1]
  have hshort {op : Operation} (hop : op ∈ all) (hc : op.covers (l ++ ' ' :: d :: t).lower = true) :
      op.Shortens := by
    rw [hlower] at hc
    exact shortens_of_covers hl.lower (fun hm => hopen (Text.sign_mem_lower hm rfl)) hd hop hc
  rw [Phrasebook.all_agrees.isOperation_eq] at h
  obtain ⟨op, hop, hc⟩ := List.any_eq_true.1 (Bool.and_eq_true_iff.1 h).2
  obtain ⟨e, he⟩ := (hshort hop hc).reads _ hc
  obtain ⟨other, hmem, hcovers, hother⟩ := exists_operationExpression hop hc he
  exact (hshort hmem hcovers).blanks _ _ hother

theorem word_of_covers {words : List Text} (hwords : words ∈ receiverPhrases) (build : Text → Text)
    (hx : IsUnbroken x)
    (hc : (onReceiver (Text.join " " words) build).covers (x ++ ' ' :: ("as" ++ ' ' :: y)) = true) :
    words = [x] := by
  have hapart : ∀ words ∈ receiverPhrases, ∀ w ∈ words, w ≠ "as" := by decide
  have has : IsUnbroken "as" := ⟨by decide, rfl⟩
  obtain ⟨more, rfl, hmore, hrest⟩ := exists_of_covers_receiver hwords build hx (d := 'a') rfl hc
  cases more with
  | nil => rfl
  | cons u more =>
    obtain ⟨hu, -⟩ := List.forall_mem_cons.1 hmore
    have hne : "as".toList ≠ u := (hapart _ hwords u (by simp)).symm
    have hrest : accepts ((u :: more).flatMap (exactly · ++ [.gap]) ++ [.run .word 1 true false])
      ("as" ++ ' ' :: y) = true := hrest
    rw [List.flatMap_cons, List.append_assoc, List.append_assoc, List.singleton_append, accepts,
      find?_otherWord hu.notMem (fun _ => has.char) hne] at hrest
    cases hrest

end Operation

end JavaSketch
