import JavaSketch.Text.Basic
import Mathlib.Data.List.DropRight
import Mathlib.Data.List.Infix

namespace JavaSketch

theorem findSome?_congr {α β : Type} {l : List α} {f g : α → Option β} (h : ∀ a ∈ l, f a = g a) :
    l.findSome? f = l.findSome? g := by
  induction l with
  | nil => rfl
  | cons a l ih =>
    obtain ⟨ha, hl⟩ := List.forall_mem_cons.1 h
    rw [List.findSome?_cons, List.findSome?_cons, ha, ih hl]

theorem findSome?_of_only {α β : Type} {l : List α} {f : α → Option β} {b : α} (hb : b ∈ l)
    (h : ∀ c ∈ l, c ≠ b → f c = none) : l.findSome? f = f b := by
  induction l with
  | nil => cases hb
  | cons d l ih =>
    obtain ⟨hd, hl⟩ := List.forall_mem_cons.1 h
    rw [List.findSome?_cons]
    by_cases hdb : d = b
    · subst hdb
      cases hf : f d with
      | some c => rfl
      | none =>
        dsimp only
        rw [List.findSome?_eq_none_iff]
        intro c hc
        by_cases hcd : c = d
        · rw [hcd, hf]
        · exact hl c hc hcd
    · rw [hd hdb]
      exact ih (List.mem_of_ne_of_mem (Ne.symm hdb) hb) hl

theorem take_takeWhile {α : Type} (p : α → Bool) (l : List α) :
    l.take (l.takeWhile p).length = l.takeWhile p :=
  (List.prefix_iff_eq_take.1 (List.takeWhile_prefix p)).symm

namespace Text

variable {s sep part before after pad word rest head old : Text} {c q : Char}

theorem dropEndWhile_isPrefix (p : Char → Bool) (s : Text) : s.dropEndWhile p <+: s := by
  rw [← List.reverse_suffix, dropEndWhile, List.reverse_reverse]
  exact List.dropWhile_suffix p

theorem trimLeft_suffix (s : Text) : s.trimLeft <:+ s := List.dropWhile_suffix isBlank

theorem trim_infix (s : Text) : s.trim <:+: s :=
  (dropEndWhile_isPrefix isBlank s.trimLeft).isInfix.trans s.trimLeft_suffix.isInfix

theorem trim_subset (s : Text) : s.trim ⊆ s := s.trim_infix.subset

theorem dropEndWhile_idem (p : Char → Bool) (s : Text) :
    (s.dropEndWhile p).dropEndWhile p = s.dropEndWhile p := by
  rw [dropEndWhile, dropEndWhile, List.reverse_reverse, List.dropWhile_idempotent]

theorem trimLeft_of_prefix (h : part <+: s.trimLeft) : part.trimLeft = part := by
  cases part with
  | nil => rfl
  | cons c part =>
    obtain ⟨t, ht⟩ := h
    have hb : isBlank c = false := by
      have hh := List.head?_dropWhile_not isBlank s
      rw [← trimLeft, ← ht] at hh
      simpa using hh
    rw [trimLeft, List.dropWhile_cons_of_neg (by simp [hb])]

theorem trim_trim (s : Text) : s.trim.trim = s.trim := by
  have hl : s.trim.trimLeft = s.trim :=
    trimLeft_of_prefix (dropEndWhile_isPrefix isBlank s.trimLeft)
  rw [trim, hl]
  exact dropEndWhile_idem isBlank s.trimLeft

theorem trimLeft_of_head (h : ∀ c ∈ s.head?, isBlank c = false) : s.trimLeft = s := by
  cases s with
  | nil => rfl
  | cons c s =>
    rw [trimLeft, List.dropWhile_cons_of_neg]
    rw [h c rfl]
    exact Bool.false_ne_true

theorem dropEndWhile_of_getLast {p : Char → Bool} (h : ∀ c ∈ s.getLast?, p c = false) :
    s.dropEndWhile p = s := by
  have hr : s.reverse.dropWhile p = s.reverse := by
    rw [← List.head?_reverse] at h
    cases hs : s.reverse with
    | nil => rfl
    | cons c t =>
      rw [hs] at h
      exact List.dropWhile_cons_of_neg (Bool.eq_false_iff.1 (h c rfl))
  rw [dropEndWhile, hr, List.reverse_reverse]

theorem trimRight_of_getLast (h : ∀ c ∈ s.getLast?, isBlank c = false) : s.trimRight = s :=
  dropEndWhile_of_getLast h

theorem head_cons {d : Char} (hd : isBlank d = false) :
    ∀ c ∈ (d :: s).head?, isBlank c = false := by
  intro c hc
  cases hc
  exact hd

theorem trim_of_ends (hh : ∀ c ∈ s.head?, isBlank c = false)
    (hl : ∀ c ∈ s.getLast?, isBlank c = false) : s.trim = s := by
  rw [trim, trimLeft_of_head hh, trimRight_of_getLast hl]

theorem trim_append (hp : ∀ c ∈ pad, isBlank c = true) : (pad ++ s).trim = s.trim := by
  rw [trim, trim, trimLeft, List.dropWhile_append_of_pos hp]
  rfl

theorem trimRight_append (hp : ∀ c ∈ pad, isBlank c = true) :
    (s ++ pad).trimRight = s.trimRight := by
  rw [trimRight, trimRight, dropEndWhile, dropEndWhile, List.reverse_append,
    List.dropWhile_append_of_pos]
  intro c hc
  exact hp c (List.mem_reverse.1 hc)

theorem trim_append_right (hp : ∀ c ∈ pad, isBlank c = true) : (s ++ pad).trim = s.trim := by
  have hnil : pad.dropWhile isBlank = [] := List.dropWhile_eq_nil_iff.2 hp
  rw [trim, trim, trimLeft, trimLeft, List.dropWhile_append, hnil]
  split
  · rename_i he
    rw [List.isEmpty_iff.1 he]
  · exact trimRight_append hp

theorem exists_trimRight (s : Text) :
    ∃ pad, (∀ c ∈ pad, isBlank c = true) ∧ s = s.trimRight ++ pad := by
  refine ⟨(s.reverse.takeWhile isBlank).reverse, ?_, ?_⟩
  · intro c hc
    exact List.all_eq_true.1 List.all_takeWhile c (List.mem_reverse.1 hc)
  · rw [trimRight, dropEndWhile, ← List.reverse_append, List.takeWhile_append_dropWhile,
      List.reverse_reverse]

theorem exists_trim (s : Text) : ∃ before after : Text, (∀ c ∈ before, isBlank c = true) ∧
    (∀ c ∈ after, isBlank c = true) ∧ s = before ++ (s.trim ++ after) := by
  obtain ⟨after, hafter, hs⟩ := s.trimLeft.exists_trimRight
  refine ⟨s.takeWhile isBlank, after, List.all_eq_true.1 List.all_takeWhile, hafter, ?_⟩
  rw [trim, ← hs, trimLeft, List.takeWhile_append_dropWhile]

theorem exists_of_trim_ne_nil (h : s.trim ≠ []) : ∃ c ∈ s, isBlank c = false := by
  by_contra hn
  have hs : ∀ c ∈ s, isBlank c = true := by
    intro c hc
    by_contra hb
    exact hn ⟨c, hc, Bool.eq_false_iff.2 hb⟩
  have ht : trim ([] ++ s) = trim [] := trim_append_right hs
  exact h ht

theorem trimLeft_append (h : s.trim ≠ []) (t : Text) : (s ++ t).trimLeft = s.trimLeft ++ t := by
  obtain ⟨c, hc, hb⟩ := exists_of_trim_ne_nil h
  have hne : (s.dropWhile isBlank).isEmpty ≠ true := by
    rw [Ne, List.isEmpty_iff, List.dropWhile_eq_nil_iff]
    intro hall
    rw [hall c hc] at hb
    cases hb
  rw [trimLeft, List.dropWhile_append, if_neg hne, trimLeft]

theorem count_trim (hc : isBlank c = false) : s.trim.count c = s.count c := by
  obtain ⟨before, after, hb, ha, hs⟩ := exists_trim s
  have hnone {pad : Text} (hpad : ∀ b ∈ pad, isBlank b = true) : pad.count c = 0 := by
    rw [List.count_eq_zero]
    intro hm
    rw [hpad c hm] at hc
    cases hc
  nth_rewrite 2 [hs]
  rw [List.count_append, List.count_append, hnone hb, hnone ha, Nat.zero_add, Nat.add_zero]

theorem trim_trimRight (s : Text) : s.trimRight.trim = s.trim := by
  obtain ⟨pad, hp, hs⟩ := exists_trimRight s
  rw [← trim_append_right hp, ← hs]

theorem trim_trimLeft (s : Text) : s.trimLeft.trim = s.trim := by
  rw [trim, trim, trimLeft, trimLeft, List.dropWhile_idempotent]

theorem mem_trim (hc : c ∈ s) (hb : isBlank c = false) : c ∈ s.trim := by
  have hleft : c ∈ s.trimLeft := by
    rw [← List.takeWhile_append_dropWhile (p := isBlank) (l := s), List.mem_append] at hc
    rcases hc with hc | hc
    · rw [List.all_eq_true.1 List.all_takeWhile c hc] at hb
      cases hb
    · exact hc
  rw [← List.mem_reverse,
    ← List.takeWhile_append_dropWhile (p := isBlank) (l := s.trimLeft.reverse),
    List.mem_append] at hleft
  rw [trim, trimRight, dropEndWhile, List.mem_reverse]
  rcases hleft with hc | hc
  · rw [List.all_eq_true.1 List.all_takeWhile c hc] at hb
    cases hb
  · exact hc

theorem trim_ne_nil (hc : c ∈ s) (hb : isBlank c = false) : s.trim ≠ [] :=
  List.ne_nil_of_mem (mem_trim hc hb)

theorem getLast?_trim (h : s.getLast? = some c) (hb : isBlank c = false) :
    s.trim.getLast? = some c := by
  have hleft : s.trimLeft.getLast? = some c := by
    rw [← List.takeWhile_append_dropWhile (p := isBlank) (l := s), List.getLast?_append] at h
    cases hd : (s.dropWhile isBlank).getLast? with
    | some d =>
      rw [hd] at h
      cases h
      exact hd
    | none =>
      rw [hd, Option.none_or] at h
      rw [List.all_eq_true.1 List.all_takeWhile c (List.mem_of_getLast? h)] at hb
      cases hb
  rw [trim, trimRight_of_getLast]
  · exact hleft
  · intro d hd
    rw [hleft] at hd
    cases hd
    exact hb

theorem endsWith_iff : s.endsWith [q] = true ↔ s.getLast? = some q := by
  rw [endsWith, List.isSuffixOf_iff_suffix, List.getLast?_eq_some_iff]
  constructor
  · rintro ⟨t, rfl⟩
    exact ⟨t, rfl⟩
  · rintro ⟨t, rfl⟩
    exact ⟨t, rfl⟩

theorem not_endsWith_of_getLast? (h : s.getLast? = some c) (hq : c ≠ q) :
    s.endsWith [q] = false := by
  rw [Bool.eq_false_iff, ne_eq, endsWith_iff, h]
  exact fun he => hq (Option.some.inj he)

theorem endsWith_append (hr : rest ≠ []) : (s ++ rest).endsWith [q] = rest.endsWith [q] := by
  rw [Bool.eq_iff_iff, endsWith_iff, endsWith_iff, List.getLast?_append_of_ne_nil _ hr]

theorem trim_append_cons (hh : ∀ c ∈ (head ++ [q]).head?, isBlank c = false)
    (hq : isBlank q = false) : (head ++ q :: rest).trim = head ++ q :: rest.trimRight := by
  have hleft : (head ++ q :: rest).trimLeft = head ++ q :: rest := by
    apply trimLeft_of_head
    cases head with
    | nil => exact hh
    | cons d head => exact hh
  have hd : (q :: head.reverse).dropWhile isBlank = q :: head.reverse :=
    List.dropWhile_cons_of_neg (Bool.eq_false_iff.1 hq)
  rw [trim, hleft, trimRight, dropEndWhile, List.reverse_append, List.reverse_cons,
    List.append_assoc, List.singleton_append, List.dropWhile_append, hd]
  split
  · rename_i he
    rw [trimRight, dropEndWhile, List.isEmpty_iff.1 he, List.reverse_cons, List.reverse_reverse]
    rfl
  · rw [List.reverse_append, List.reverse_cons, List.reverse_reverse, List.append_assoc]
    rfl

theorem takeWhile_append_of_head {p : Char → Bool} (hr : ∀ c ∈ rest.head?, p c = false) :
    (s ++ rest).takeWhile p = s.takeWhile p := by
  cases rest with
  | nil => rw [List.append_nil]
  | cons d rest =>
    rw [List.takeWhile_append]
    split
    · rename_i hl
      rw [List.takeWhile_cons_of_neg (Bool.eq_false_iff.1 (hr d rfl)), List.append_nil]
      exact ((List.takeWhile_prefix p).eq_of_length hl).symm
    · rfl

theorem takeWhile_exact {q : Char → Bool} (hp : ∀ c ∈ part, q c = true)
    (hr : ∀ c ∈ rest.head?, q c = false) : (part ++ rest).takeWhile q = part := by
  have hself : (part ++ []).takeWhile q = part ++ [] := List.takeWhile_append_of_pos hp
  rw [takeWhile_append_of_head hr]
  rwa [List.append_nil] at hself

theorem indent_append (hp : ∀ c ∈ pad, isBlank c = true)
    (hh : ∀ c ∈ s.head?, isBlank c = false) : (pad ++ s).indent = pad.length := by
  rw [indent, takeWhile_exact hp hh]

theorem not_of_head_dropWhile {p : Char → Bool} (hc : c ∈ (s.dropWhile p).head?) :
    p c = false := by
  have h := List.head?_dropWhile_not p s
  rw [Option.mem_def.1 hc] at h
  exact h

theorem head_of_trim (h : s.trim = s) : ∀ c ∈ s.head?, isBlank c = false := by
  intro c hc
  obtain ⟨t, ht⟩ := dropEndWhile_isPrefix isBlank s.trimLeft
  apply not_of_head_dropWhile (s := s)
  rw [← trimLeft, ← ht, ← trimRight, ← trim, h, List.head?_append, Option.mem_def.1 hc]
  rfl

theorem getLast_of_trim (h : s.trim = s) : ∀ c ∈ s.getLast?, isBlank c = false := by
  intro c hc
  apply not_of_head_dropWhile (s := s.trimLeft.reverse)
  rw [← h, trim, trimRight, dropEndWhile, List.getLast?_reverse] at hc
  exact hc

/-- Cutting a text at a separator loses nothing but the separator. -/
theorem eq_of_cut? (h : cut? sep s = some (before, after)) : s = before ++ sep ++ after := by
  induction s generalizing before after with
  | nil =>
    simp only [cut?] at h
    split at h
    · rename_i he
      cases h
      rw [List.isEmpty_iff.1 he]
      rfl
    · cases h
  | cons c s ih =>
    simp only [cut?] at h
    split at h
    · rename_i hp
      cases h
      rw [List.nil_append]
      exact (List.prefix_iff_eq_append.1 (List.isPrefixOf_iff_prefix.1 hp)).symm
    · obtain ⟨⟨b, a⟩, hs, he⟩ := Option.map_eq_some_iff.1 h
      cases he
      rw [List.cons_append, List.cons_append, ← ih hs]

theorem includes_iff : s.includes part = true ↔ part <:+: s := by
  induction s with
  | nil =>
    rw [includes, cut?, List.infix_nil]
    cases part <;> simp
  | cons c s ih =>
    rw [List.infix_cons_iff, ← ih, ← List.isPrefixOf_iff_prefix]
    simp only [includes, cut?]
    split
    · rename_i hp
      simp [hp]
    · rename_i hp
      simp [hp]

theorem prefix_of_append_cons (hq : q ∉ part) (h : part <+: s ++ q :: rest) : part <+: s := by
  induction s generalizing part with
  | nil =>
    rcases List.prefix_cons_iff.1 h with rfl | ⟨t, rfl, _⟩
    · exact List.nil_prefix
    · exact absurd List.mem_cons_self hq
  | cons d s ih =>
    rcases List.prefix_cons_iff.1 h with rfl | ⟨t, rfl, ht⟩
    · exact List.nil_prefix
    · have hs := ih (List.not_mem_of_not_mem_cons hq) ht
      exact List.cons_prefix_cons.2 ⟨rfl, hs⟩

theorem startsWith_of_ne {d : Char} {p t : Text} (hcd : c ≠ d) (h : s.startsWith (c :: p) = true) :
    s.startsWith (d :: t) = false := by
  cases s with
  | nil => cases h
  | cons b s =>
    simp only [startsWith, List.isPrefixOf, Bool.and_eq_true, beq_iff_eq] at h
    simp only [startsWith, List.isPrefixOf, Bool.and_eq_false_iff, beq_eq_false_iff_ne]
    rw [← h.1]
    exact .inl hcd.symm

theorem startsWith_append_cons (hq : q ∉ part) :
    (s ++ q :: rest).startsWith part = s.startsWith part := by
  rw [Bool.eq_iff_iff, startsWith, startsWith, List.isPrefixOf_iff_prefix,
    List.isPrefixOf_iff_prefix]
  exact ⟨prefix_of_append_cons hq, fun h => h.trans (List.prefix_append _ _)⟩

theorem infix_append_cons (hq : q ∉ part) :
    part <:+: s ++ q :: rest ↔ part <:+: s ∨ part <:+: rest := by
  constructor
  · intro h
    induction s with
    | nil =>
      rcases List.infix_cons_iff.1 h with h | h
      · exact .inl (prefix_of_append_cons hq h).isInfix
      · exact .inr h
    | cons d s ih =>
      rcases List.infix_cons_iff.1 h with h | h
      · exact .inl (prefix_of_append_cons hq h).isInfix
      · exact (ih h).imp_left List.infix_cons
  · rintro (h | h)
    · exact h.trans (List.prefix_append _ _).isInfix
    · exact (List.infix_cons h).trans (List.suffix_append _ _).isInfix

theorem includes_append_cons (hq : q ∉ part) :
    (s ++ q :: rest).includes part = (s.includes part || rest.includes part) := by
  rw [Bool.eq_iff_iff, Bool.or_eq_true, includes_iff, includes_iff, includes_iff]
  exact infix_append_cons hq

theorem not_startsWith_of_not_includes (h : s.includes part = false) :
    s.startsWith part = false := by
  rw [Bool.eq_false_iff, ne_eq] at h ⊢
  exact fun hp => h (includes_iff.2 (List.isPrefixOf_iff_prefix.1 hp).isInfix)

theorem not_startsWith_append_cons (hq : q ∉ part) (h : s.includes part = false) :
    (s ++ q :: rest).startsWith part = false := by
  rw [startsWith_append_cons hq]
  exact not_startsWith_of_not_includes h

theorem not_includes_of_infix (hi : head <:+: s) (h : s.includes part = false) :
    head.includes part = false := by
  rw [Bool.eq_false_iff, ne_eq, includes_iff] at h ⊢
  exact fun hp => h (hp.trans hi)

theorem not_includes_of_notMem (hp : c ∈ part) (hc : c ∉ s) : s.includes part = false := by
  rw [Bool.eq_false_iff, ne_eq, includes_iff]
  exact fun hi => hc (hi.subset hp)

theorem includes_of_mem (hc : c ∈ s) : s.includes [c] = true :=
  includes_iff.2 ((List.singleton_infix_iff c s).2 hc)

theorem includes_trim (h : s.includes part = false) : s.trim.includes part = false :=
  not_includes_of_infix s.trim_infix h

theorem cut?_eq_none (h : s.includes part = false) : cut? part s = none := by
  rw [includes, Option.isSome_eq_false_iff, Option.isNone_iff_eq_none] at h
  exact h

/-- A separator is not found in front of the first place where its first character stands. -/
theorem cut?_append (hc : c ∉ before) : cut? (c :: sep) (before ++ s) =
    (cut? (c :: sep) s).map fun res => (before ++ res.1, res.2) := by
  induction before with
  | nil => simp
  | cons d before ih =>
    have hd := List.ne_of_not_mem_cons hc
    have hb := List.not_mem_of_not_mem_cons hc
    have hp : (c :: sep).isPrefixOf (d :: (before ++ s)) = false := by
      rw [List.isPrefixOf, beq_eq_false_iff_ne.2 hd, Bool.false_and]
    rw [List.cons_append, cut?, hp, if_neg Bool.false_ne_true, ih hb, Option.map_map]
    rfl

theorem cut?_append_cons (hq : q ∉ sep) (hh : head.includes sep = false) :
    cut? sep (head ++ q :: rest) =
      (cut? sep rest).map fun res => (head ++ q :: res.1, res.2) := by
  have hskip {s : Text} (hs : s.includes sep = false) :
      sep.isPrefixOf (s ++ q :: rest) = false := by
    rw [Bool.eq_false_iff, ne_eq, List.isPrefixOf_iff_prefix]
    intro hp
    have := includes_iff.2 (prefix_of_append_cons hq hp).isInfix
    rw [hs] at this
    cases this
  induction head with
  | nil =>
    rw [List.nil_append, cut?, show sep.isPrefixOf (q :: rest) = false from hskip hh,
      if_neg Bool.false_ne_true]
    rfl
  | cons d head ih =>
    have ht : includes head sep = false := by
      rw [Bool.eq_false_iff, ne_eq, includes_iff] at hh ⊢
      exact fun hi => hh (List.infix_cons hi)
    rw [List.cons_append, cut?,
      show sep.isPrefixOf (d :: (head ++ q :: rest)) = false from hskip hh,
      if_neg Bool.false_ne_true, ih ht, Option.map_map]
    rfl

theorem cut?_self (hs : sep ≠ []) (after : Text) : cut? sep (sep ++ after) = some ([], after) := by
  cases sep with
  | nil => exact absurd rfl hs
  | cons c sep =>
    have hp : (c :: sep).isPrefixOf (c :: (sep ++ after)) = true :=
      List.isPrefixOf_iff_prefix.2 (List.prefix_append (c :: sep) after)
    rw [List.cons_append, cut?, hp, if_pos rfl, ← List.cons_append, List.drop_left]

theorem eq_of_append_cons (h : word ++ c :: after = part ++ c :: rest) (hw : c ∉ word)
    (hp : c ∉ part) : word = part := by
  have hexact {s t : Text} (hs : c ∉ s) : (s ++ c :: t).takeWhile (· != c) = s := by
    apply takeWhile_exact
    · intro d hd
      rw [bne_iff_ne]
      exact ne_of_mem_of_not_mem hd hs
    · intro d hd
      cases hd
      exact bne_self_eq_false c
  have ht := congrArg (List.takeWhile (· != c)) h
  rwa [hexact hw, hexact hp] at ht

/-- A word between blanks is not found at another word. -/
theorem cut?_skip (hw : c ∉ word) (hp : c ∉ part) (hne : part ≠ word) :
    cut? (c :: (word ++ [c])) (c :: (part ++ c :: rest)) =
      (cut? (c :: (word ++ [c])) (c :: rest)).map fun res => (c :: (part ++ res.1), res.2) := by
  have hpre : (c :: (word ++ [c])).isPrefixOf (c :: (part ++ c :: rest)) = false := by
    rw [Bool.eq_false_iff, ne_eq, List.isPrefixOf_iff_prefix, List.cons_prefix_cons]
    rintro ⟨_, after, ha⟩
    rw [List.append_assoc] at ha
    exact hne (eq_of_append_cons ha hw hp).symm
  rw [cut?, hpre, if_neg Bool.false_ne_true, cut?_append hp, Option.map_map]
  rfl

/-- Among words, each with the same character in front, a text is cut at the first place of the
word that it is cut at. -/
theorem cut?_words {parts : List Text} (hw : c ∉ word)
    (h : ∀ part ∈ parts, c ∉ part ∧ part ≠ word) :
    cut? (c :: (word ++ [c])) (parts.flatMap (c :: ·) ++ c :: (word ++ c :: after)) =
      some (parts.flatMap (c :: ·), after) := by
  induction parts with
  | nil =>
    have hs := cut?_self (List.cons_ne_nil c (word ++ [c])) after
    rw [List.cons_append, List.append_assoc] at hs
    exact hs
  | cons part parts ih =>
    obtain ⟨⟨hc, hne⟩, hr⟩ := List.forall_mem_cons.1 h
    have hrest : ∃ rest, parts.flatMap (c :: ·) ++ c :: (word ++ c :: after) = c :: rest := by
      cases parts with
      | nil => exact ⟨_, rfl⟩
      | cons next parts => exact ⟨_, rfl⟩
    obtain ⟨rest, hrest⟩ := hrest
    have hi := ih hr
    rw [hrest] at hi
    rw [List.flatMap_cons, List.append_assoc, hrest, List.cons_append, cut?_skip hw hc hne, hi]
    rfl

theorem cut?_last {last : Text} {parts : List Text} (hw : c ∉ word)
    (h : ∀ part ∈ parts, c ∉ part ∧ part ≠ word) (hl : c ∉ last) :
    cut? (c :: (word ++ [c])) (parts.flatMap (c :: ·) ++ c :: last) = none := by
  induction parts with
  | nil =>
    apply cut?_eq_none
    rw [Bool.eq_false_iff, ne_eq, includes_iff]
    intro hi
    have hle := hi.sublist.count_le c
    rw [List.flatMap_nil, List.nil_append, List.count_cons_self, List.count_cons_self,
      List.count_eq_zero.2 hl, List.count_append, List.count_eq_zero.2 hw] at hle
    exact absurd hle (by simp)
  | cons part parts ih =>
    obtain ⟨⟨hc, hne⟩, hr⟩ := List.forall_mem_cons.1 h
    obtain ⟨rest, hrest⟩ : ∃ rest, parts.flatMap (c :: ·) ++ c :: last = c :: rest := by
      cases parts with
      | nil => exact ⟨_, rfl⟩
      | cons next parts => exact ⟨_, rfl⟩
    have hi := ih hr
    rw [hrest] at hi
    rw [List.flatMap_cons, List.append_assoc, hrest, List.cons_append, cut?_skip hw hc hne, hi]
    rfl

/-- What follows a text does not change where the text is cut. -/
theorem cut?_append_right (h : cut? sep s = some (before, after)) (rest : Text) :
    cut? sep (s ++ rest) = some (before, after ++ rest) := by
  induction s generalizing before with
  | nil =>
    rw [cut?] at h
    split at h
    · rename_i he
      cases h
      rw [List.isEmpty_iff.1 he]
      cases rest with
      | nil => rfl
      | cons c rest => rfl
    · cases h
  | cons c s ih =>
    rw [cut?] at h
    split at h
    · rename_i hp
      have hle := (List.isPrefixOf_iff_prefix.1 hp).length_le
      have hall := List.isPrefixOf_iff_prefix.2
        ((List.isPrefixOf_iff_prefix.1 hp).trans (List.prefix_append (c :: s) rest))
      cases h
      rw [List.cons_append] at hall
      rw [List.cons_append, cut?, if_pos hall, ← List.cons_append,
        List.drop_append_of_le_length hle]
    · rename_i hp
      obtain ⟨⟨b, a⟩, hb, he⟩ := Option.map_eq_some_iff.1 h
      cases he
      have hlonger : sep.isPrefixOf (c :: (s ++ rest)) = false := by
        rw [Bool.eq_false_iff, ne_eq, List.isPrefixOf_iff_prefix]
        intro hall
        have hinside : sep <:+: s := includes_iff.1 (Option.isSome_iff_exists.2 ⟨_, hb⟩)
        exact hp (List.isPrefixOf_iff_prefix.2 (List.prefix_of_prefix_length_le hall
          (List.prefix_append (c :: s) rest) (Nat.le_succ_of_le hinside.length_le)))
      rw [List.cons_append, cut?, if_neg (Bool.eq_false_iff.1 hlonger), ih hb]
      rfl

theorem length_le_of_cut? (h : cut? sep s = some (before, after)) {n : Nat}
    (hn : sep <+: s.drop n) : before.length ≤ n := by
  induction s generalizing before n with
  | nil =>
    rw [cut?] at h
    split at h
    · cases h
      exact Nat.zero_le n
    · cases h
  | cons c s ih =>
    rw [cut?] at h
    split at h
    · cases h
      exact Nat.zero_le n
    · rename_i hp
      obtain ⟨⟨b, a⟩, hb, he⟩ := Option.map_eq_some_iff.1 h
      cases he
      cases n with
      | zero => exact absurd (List.isPrefixOf_iff_prefix.2 hn) hp
      | succ n => exact Nat.succ_le_succ (ih hb hn)

theorem splitAt_of_notMem (h : c ∉ s) : splitAt c s = [s] := by
  induction s with
  | nil => rfl
  | cons d s ih =>
    have hd := List.ne_of_not_mem_cons h
    rw [splitAt, if_neg hd.symm, ih (List.not_mem_of_not_mem_cons h)]

theorem splitAt_append (h : c ∉ part) : splitAt c (part ++ c :: s) = part :: splitAt c s := by
  induction part with
  | nil => rw [List.nil_append, splitAt, if_pos rfl]
  | cons d part ih =>
    have hd := List.ne_of_not_mem_cons h
    rw [List.cons_append, splitAt, if_neg hd.symm, ih (List.not_mem_of_not_mem_cons h)]

theorem splitAt_pieces {pieces : List Text} (hp : c ∉ part) (h : ∀ piece ∈ pieces, c ∉ piece) :
    splitAt c (part ++ pieces.flatMap (c :: ·)) = part :: pieces := by
  induction pieces generalizing part with
  | nil => rw [List.flatMap_nil, List.append_nil, splitAt_of_notMem hp]
  | cons piece pieces ih =>
    obtain ⟨hc, hr⟩ := List.forall_mem_cons.1 h
    rw [List.flatMap_cons, List.cons_append, splitAt_append hp, ih hc hr]

theorem notMem_of_cut? (h : cut? [c] s = some (before, after)) : c ∉ before := by
  induction s generalizing before with
  | nil => cases h
  | cons d s ih =>
    rw [cut?] at h
    split at h
    · cases h
      exact List.not_mem_nil
    · rename_i hp
      obtain ⟨⟨b, a⟩, hb, he⟩ := Option.map_eq_some_iff.1 h
      cases he
      apply List.not_mem_cons_of_ne_of_not_mem _ (ih hb)
      rintro rfl
      exact hp (List.isPrefixOf_iff_prefix.2 (List.prefix_append [c] s))

theorem infix_of_cut? (h : cut? sep s = some (before, after)) : before <:+: s ∧ after <:+: s := by
  rw [eq_of_cut? h]
  constructor
  · rw [List.append_assoc]
    exact (List.prefix_append _ _).isInfix
  · exact (List.suffix_append _ _).isInfix

theorem infix_of_mem_foldr {f : Char → List Text → List Text}
    (hf : ∀ c runs, f c runs = [] :: runs ∨ f c runs = (c :: runs.headD []) :: runs.tail)
    (s : Text) : (s.foldr f [[]]).headD [] <+: s ∧ ∀ run ∈ s.foldr f [[]], run <:+: s := by
  induction s with
  | nil => exact ⟨List.prefix_rfl, by simp⟩
  | cons d s ih =>
    obtain ⟨hfirst, hall⟩ := ih
    rw [List.foldr_cons]
    rcases hf d (s.foldr f [[]]) with he | he
    · rw [he]
      refine ⟨List.nil_prefix, ?_⟩
      intro run hr
      rcases List.mem_cons.1 hr with rfl | hr
      · exact List.nil_infix
      · exact List.infix_cons (hall run hr)
    · rw [he]
      have hp : d :: (s.foldr f [[]]).headD [] <+: d :: s := List.cons_prefix_cons.2 ⟨rfl, hfirst⟩
      refine ⟨hp, ?_⟩
      intro run hr
      rcases List.mem_cons.1 hr with rfl | hr
      · exact hp.isInfix
      · exact List.infix_cons (hall run (List.mem_of_mem_tail hr))

theorem infix_of_mem_words (h : part ∈ s.words) : part <:+: s := by
  refine (infix_of_mem_foldr ?_ s).2 part (List.mem_filter.1 h).1
  intro c runs
  split
  · exact .inl rfl
  · right
    cases runs with
    | nil => rfl
    | cons run runs => rfl

theorem foldr_unbroken {f : Char → List Text → List Text} {run : Text} {runs : List Text}
    (hf : ∀ c run runs, isBlank c = false → f c (run :: runs) = (c :: run) :: runs)
    (hw : ∀ c ∈ word, isBlank c = false) : word.foldr f (run :: runs) = (word ++ run) :: runs := by
  induction word with
  | nil => rfl
  | cons c word ih =>
    obtain ⟨hc, hw⟩ := List.forall_mem_cons.1 hw
    rw [List.foldr_cons, ih hw, hf _ _ _ hc]
    rfl

theorem words_pair (hword : word ≠ []) (hpart : part ≠ []) (hw : ∀ c ∈ word, isBlank c = false)
    (hp : ∀ c ∈ part, isBlank c = false) : words (word ++ ' ' :: part) = [word, part] := by
  have hblank : isBlank ' ' = true := rfl
  rw [words, List.foldr_append, List.foldr_cons, foldr_unbroken _ hp, if_pos hblank,
    foldr_unbroken _ hw, List.append_nil, List.append_nil]
  · simp [hword, hpart]
  · intro c run runs hc
    rw [if_neg (Bool.eq_false_iff.1 hc)]
  · intro c run runs hc
    rw [if_neg (Bool.eq_false_iff.1 hc)]

/-- Every piece but the first stands behind a separator. -/
theorem join_cons (sep piece : Text) (pieces : List Text) :
    join sep (piece :: pieces) = piece ++ pieces.flatMap (sep ++ ·) := by
  induction pieces generalizing piece with
  | nil => simp [join, List.intercalate]
  | cons next pieces ih =>
    have h : join sep (piece :: next :: pieces) = piece ++ sep ++ join sep (next :: pieces) := by
      simp [join, List.intercalate]
    rw [h, ih, List.flatMap_cons, List.append_assoc, List.append_assoc]

theorem join_one (sep word : Text) : join sep [word] = word := by
  rw [join_cons, List.flatMap_nil, List.append_nil]

theorem last_join {sep : Text} {pieces : List Text}
    (h : ∀ piece ∈ pieces, piece ≠ [] ∧ piece.trim = piece) :
    ∀ c ∈ (join sep pieces).getLast?, isBlank c = false := by
  induction pieces with
  | nil =>
    intro c hc
    cases hc
  | cons piece pieces ih =>
    obtain ⟨⟨_, htrim⟩, hmore⟩ := List.forall_mem_cons.1 h
    cases pieces with
    | nil =>
      rw [join_one]
      exact getLast_of_trim htrim
    | cons next pieces =>
      have hne : join sep (next :: pieces) ≠ [] := by
        rw [join_cons]
        exact List.append_ne_nil_of_left_ne_nil (hmore next List.mem_cons_self).1 _
      rw [join_cons, List.flatMap_cons, List.append_assoc, ← join_cons, ← List.append_assoc,
        List.getLast?_append_of_ne_nil _ hne]
      exact ih hmore

theorem trim_join_of_ends {sep : Text} {pieces : List Text}
    (h : ∀ piece ∈ pieces, piece ≠ [] ∧ piece.trim = piece) :
    (join sep pieces).trim = join sep pieces := by
  cases pieces with
  | nil => rfl
  | cons piece pieces =>
    obtain ⟨hne, htrim⟩ := h piece List.mem_cons_self
    refine trim_of_ends ?_ (last_join h)
    rw [join_cons, List.head?_append_of_ne_nil _ hne]
    exact head_of_trim htrim

/-- A list with a comma and a blank between its members is split into them. -/
theorem splitAt_join {pieces : List Text} (h : ∀ piece ∈ part :: pieces, ',' ∉ piece) :
    splitAt ',' (join ", " (part :: pieces)) = part :: pieces.map (' ' :: ·) := by
  obtain ⟨hpart, hpieces⟩ := List.forall_mem_cons.1 h
  have hjoin : join ", " (part :: pieces) = part ++ (pieces.map (' ' :: ·)).flatMap (',' :: ·) := by
    rw [join_cons, List.flatMap_map]
    rfl
  rw [hjoin, splitAt_pieces hpart]
  intro piece hm
  obtain ⟨member, hmember, rfl⟩ := List.mem_map.1 hm
  exact List.not_mem_cons_of_ne_of_not_mem (by decide) (hpieces member hmember)

theorem map_trim_splitAt_join {pieces : List Text}
    (h : ∀ piece ∈ part :: pieces, piece.trim = piece ∧ ',' ∉ piece) :
    (splitAt ',' (join ", " (part :: pieces))).map trim = part :: pieces := by
  obtain ⟨hpart, hpieces⟩ := List.forall_mem_cons.1 h
  have htrim : pieces.map (trim ∘ (' ' :: ·)) = pieces.map id := by
    apply List.map_congr_left
    intro piece hm
    have hblank : trim ([' '] ++ piece) = trim piece := trim_append (List.all_eq_true.1 rfl)
    exact hblank.trans (hpieces piece hm).1
  rw [splitAt_join fun piece hm => (h piece hm).2, List.map_cons, List.map_map, hpart.1, htrim,
    List.map_id]

theorem splitAt_ne_nil (c : Char) (s : Text) : s.splitAt c ≠ [] := by
  cases s with
  | nil => exact List.cons_ne_nil _ _
  | cons d s =>
    rw [splitAt]
    split
    · exact List.cons_ne_nil _ _
    · split
      · exact List.cons_ne_nil _ _
      · exact List.cons_ne_nil _ _

/-- Splitting a text loses nothing but the separators. -/
theorem join_splitAt (c : Char) (s : Text) : join [c] (s.splitAt c) = s := by
  induction s with
  | nil => rfl
  | cons d s ih =>
    obtain ⟨piece, pieces, hs⟩ := List.exists_cons_of_ne_nil (splitAt_ne_nil c s)
    rw [hs, join_cons] at ih
    rw [splitAt, hs]
    split
    · rename_i hd
      rw [hd, join_cons, List.flatMap_cons, List.append_assoc, ih]
      rfl
    · rw [join_cons, List.cons_append, ih]

theorem infix_of_mem_join {pieces : List Text} (h : part ∈ pieces) : part <:+: join sep pieces := by
  cases pieces with
  | nil => cases h
  | cons piece pieces =>
    rw [join_cons]
    rcases List.mem_cons.1 h with rfl | h
    · exact (List.prefix_append _ _).isInfix
    · obtain ⟨l₁, l₂, rfl⟩ := List.append_of_mem h
      rw [List.flatMap_append, List.flatMap_cons]
      exact ⟨piece ++ l₁.flatMap (sep ++ ·) ++ sep, l₂.flatMap (sep ++ ·), by simp⟩

theorem notMem_of_mem_splitAt (h : part ∈ splitAt c s) :
    c ∉ part := by
  induction s generalizing part with
  | nil =>
    rw [List.mem_singleton.1 h]
    exact List.not_mem_nil
  | cons d s ih =>
    rw [splitAt] at h
    by_cases hd : d = c
    · rw [if_pos hd] at h
      rcases List.mem_cons.1 h with rfl | h
      · exact List.not_mem_nil
      · exact ih h
    · rw [if_neg hd] at h
      cases hp : splitAt c s with
      | nil => exact absurd hp (splitAt_ne_nil c s)
      | cons piece pieces =>
        rw [hp] at h ih
        rcases List.mem_cons.1 h with rfl | h
        · rw [List.mem_cons, not_or]
          exact ⟨Ne.symm hd, ih List.mem_cons_self⟩
        · exact ih (List.mem_cons_of_mem _ h)

theorem infix_of_mem_splitAt (h : part ∈ s.splitAt c) : part <:+: s := by
  have hj : part <:+: join [c] (s.splitAt c) := infix_of_mem_join h
  rwa [join_splitAt] at hj

/-- A reader whose counter says how many entries are read already goes on behind them. -/
theorem counter_eq_drop {α β : Type} {f : Nat → List α → β} (hnil : ∀ n, f n [] = f 0 [])
    (hskip : ∀ n a l, f (n + 1) (a :: l) = f n l) (n : Nat) (l : List α) :
    f n l = f 0 (l.drop n) := by
  induction l generalizing n with
  | nil => rw [List.drop_nil, hnil]
  | cons a l ih =>
    cases n with
    | zero => rfl
    | succ n => exact (hskip n a l).trans (ih n)

theorem replaceFrom_drop (old new : Text) (n : Nat) (s : Text) :
    replaceFrom old new n s = replace (s.drop n) old new :=
  counter_eq_drop (fun n => by rw [replaceFrom, replaceFrom]) (fun _ _ _ => rfl) n s

/-- An occurrence at the start of a text is replaced, and then the rest. -/
theorem replace_occurrence (ho : old ≠ []) (new rest : Text) :
    (old ++ rest).replace old new = new ++ rest.replace old new := by
  cases old with
  | nil => exact absurd rfl ho
  | cons c old =>
    have hp : (c :: old).isPrefixOf (c :: (old ++ rest)) = true :=
      List.isPrefixOf_iff_prefix.2 (List.prefix_append (c :: old) rest)
    rw [List.cons_append, replace, replaceFrom, if_pos hp, replaceFrom_drop, List.length_cons,
      Nat.add_sub_cancel, List.drop_left]

theorem replace_cons (h : ¬ old <+: c :: s) (new : Text) :
    replace (c :: s) old new = c :: s.replace old new := by
  rw [replace, replaceFrom, if_neg fun hp => h (List.isPrefixOf_iff_prefix.1 hp)]
  rfl

theorem replace_append (hq : q ∉ part) (old new rest : Text) :
    (part ++ rest).replace (q :: old) new = part ++ rest.replace (q :: old) new := by
  induction part with
  | nil => rfl
  | cons c part ih =>
    have hc : ¬ q :: old <+: c :: (part ++ rest) := by
      rw [List.cons_prefix_cons]
      exact fun h => List.ne_of_not_mem_cons hq h.1
    rw [List.cons_append, replace_cons hc, ih (List.not_mem_of_not_mem_cons hq)]
    rfl

end Text

end JavaSketch
