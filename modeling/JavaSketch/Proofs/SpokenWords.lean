import JavaSketch.Proofs.Recognition

namespace JavaSketch

/-- A text without blanks, and not the empty one. -/
structure IsUnbroken (x : Text) : Prop where
  ne_nil : x ≠ []
  chars : x.all (!isBlank ·) = true

namespace IsUnbroken

variable {x : Text} {c : Char} (h : IsUnbroken x)
include h

theorem char (hc : c ∈ x) : isBlank c = false := by
  have hb := List.all_eq_true.1 h.chars c hc
  rwa [Bool.not_eq_true'] at hb

theorem notMem (hc : isBlank c = true) : c ∉ x := by
  intro hm
  rw [h.char hm] at hc
  cases hc

theorem trim_eq : x.trim = x := by
  apply Text.trim_of_ends
  · intro c hc
    exact h.char (List.mem_of_mem_head? hc)
  · intro c hc
    exact h.char (List.mem_of_mem_getLast? hc)

theorem head_append (rest : Text) : ∀ c ∈ (x ++ rest).head?, isBlank c = false := by
  intro c hc
  rw [List.head?_append_of_ne_nil _ h.ne_nil] at hc
  exact h.char (List.mem_of_head? hc)

theorem holds_any : ∀ c ∈ x, CharClass.any.holds c = true := by
  intro c hc
  refine bne_iff_ne.2 ?_
  rintro rfl
  exact h.notMem rfl hc

theorem lower : IsUnbroken x.lower where
  ne_nil := by
    obtain ⟨c, x, rfl⟩ := List.exists_cons_of_ne_nil h.ne_nil
    rw [Text.lower, Text.lowerAfter]
    apply List.append_ne_nil_of_left_ne_nil
    split_ifs
    all_goals exact List.cons_ne_nil _ _
  chars := by
    rw [List.all_eq_true]
    intro d hd
    rw [Bool.not_eq_true', Bool.eq_false_iff]
    intro hb
    obtain ⟨c, hc, hblank⟩ := Text.blank_mem_lowerAfter hd hb
    exact h.notMem hblank hc

end IsUnbroken

namespace IsName

variable {x : Text}

theorem isUnbroken (h : IsName x) : IsUnbroken x where
  ne_nil := h.ne_nil
  chars := by
    rw [List.all_eq_true]
    intro c hc
    rw [not_blank_of_isWord (h.char hc)]
    rfl

theorem holds_word (h : IsName x) : ∀ c ∈ x, CharClass.word.holds c = true := fun _ hc => h.char hc

theorem lower (h : IsName x) (ha : IsAscii x) : IsName x.lower where
  ne_nil := h.isUnbroken.lower.ne_nil
  chars := by
    rw [ha.lower_eq, List.all_map, List.all_eq_true]
    intro c hc
    have hn := CharClass.word_ignoresCase c.toNat (ha c hc)
    rw [Char.ofNat_toNat] at hn
    exact hn.trans (h.char hc)

end IsName

namespace Statement

variable {s : Text} {c : Char}

theorem toNat_lt_of_isAsciiWord (h : isAsciiWord c = true) : c.toNat < 0x80 := by
  rcases Bool.or_eq_true_iff.1 h with h | h
  · rcases Bool.or_eq_true_iff.1 h with h | h
    · exact toNat_lt_of_isAlpha h
    · have hz : c.val ≤ '9'.val := of_decide_eq_true (Bool.and_eq_true_iff.1 h).2
      exact Nat.lt_of_le_of_lt (UInt32.le_iff_toNat_le.1 hz) (by decide)
  · rw [beq_iff_eq.1 h]
    decide

theorem isAsciiWord_of_isAsciiName (h : isAsciiName s = true) :
    s ≠ [] ∧ s.all isAsciiWord = true := by
  cases s with
  | nil => cases h
  | cons c s =>
    refine ⟨List.cons_ne_nil c s, ?_⟩
    obtain ⟨hfirst, hrest⟩ := Bool.and_eq_true_iff.1 h
    rw [List.all_cons, hrest, Bool.and_true]
    rcases Bool.or_eq_true_iff.1 hfirst with hc | hc
    · exact Bool.or_eq_true_iff.2 (.inl (Bool.or_eq_true_iff.2 (.inl hc)))
    · exact Bool.or_eq_true_iff.2 (.inr hc)

theorem isAscii_of_isAsciiName (h : isAsciiName s = true) : IsAscii s := fun c hc =>
  toNat_lt_of_isAsciiWord (List.all_eq_true.1 (isAsciiWord_of_isAsciiName h).2 c hc)

theorem isName_of_isAsciiName (h : isAsciiName s = true) : IsName s where
  ne_nil := (isAsciiWord_of_isAsciiName h).1
  chars := by
    rw [List.all_eq_true]
    intro c hc
    rw [isWord, if_pos (isAscii_of_isAsciiName h c hc)]
    exact List.all_eq_true.1 (isAsciiWord_of_isAsciiName h).2 c hc

end Statement

/-- A word that may stand in a phrase: not the one that makes a declaration. -/
structure IsOperand (x : Text) : Prop extends IsUnbroken x where
  ne_as : x ≠ "as"

/-- A name that may stand for a collection. -/
structure IsReceiver (c : Text) : Prop where
  name : Statement.isAsciiName c = true
  ne_as : c ≠ "as"

namespace IsReceiver

variable {c : Text} (h : IsReceiver c)
include h

theorem isName : IsName c := Statement.isName_of_isAsciiName h.name

theorem isName_lower : IsName c.lower :=
  h.isName.lower (Statement.isAscii_of_isAsciiName h.name)

theorem isOperand : IsOperand c where
  toIsUnbroken := h.isName.isUnbroken
  ne_as := h.ne_as

end IsReceiver

/-- The words of which phrases are made. -/
structure IsKeyword (w : Text) : Prop extends IsReceiver w where
  small : w.isSmall = true

instance (w : Text) : Decidable (IsKeyword w) :=
  decidable_of_iff ((Statement.isAsciiName w = true ∧ w ≠ "as") ∧ w.isSmall = true)
    ⟨fun h => ⟨⟨h.1.1, h.1.2⟩, h.2⟩, fun h => ⟨⟨h.name, h.ne_as⟩, h.small⟩⟩

theorem IsKeyword.lower_eq {w : Text} (h : IsKeyword w) : w.lower = w := by
  rw [(Statement.isAscii_of_isAsciiName h.name).lower_eq, List.map_congr_left, List.map_id]
  exact fun c hc => beq_iff_eq.1 (List.all_eq_true.1 h.small c hc)

theorem IsKeyword.notMem {w : Text} (h : IsKeyword w) : ' ' ∉ w := h.isOperand.notMem rfl

namespace Text

/-- Where a letter looks for a neighbour, what has none to offer changes nothing behind a text. -/
theorem meetsCased_append {t : Text} (h : meetsCased t = false) (s : Text) :
    meetsCased (s ++ t) = meetsCased s := by
  induction s with
  | nil => exact h
  | cons c s ih =>
    by_cases hmark : isCaselessMark c = true
    · rw [List.cons_append, meetsCased, meetsCased, List.dropWhile_cons_of_pos hmark,
        List.dropWhile_cons_of_pos hmark]
      exact ih
    · rw [List.cons_append, meetsCased, meetsCased, List.dropWhile_cons_of_neg hmark,
        List.dropWhile_cons_of_neg hmark]

/-- A blank ends the word in which a letter could look for its neighbours. -/
theorem meetsCased_blank (s t : Text) : meetsCased (s ++ ' ' :: t) = meetsCased s := by
  apply meetsCased_append
  have hmark : ¬ isCaselessMark ' ' = true := by decide +kernel
  rw [meetsCased, List.dropWhile_cons_of_neg hmark]
  rfl

theorem lowerAfter_blank (before more s : Text) :
    lowerAfter (before ++ ' ' :: more) s = lowerAfter before s := by
  induction s generalizing before with
  | nil => rfl
  | cons c s ih =>
    rw [lowerAfter, lowerAfter, meetsCased_blank, ← List.cons_append, ih]

theorem lower_append_blank (s t : Text) : lower (s ++ ' ' :: t) = lower s ++ ' ' :: lower t := by
  have hafter (before : Text) :
      lowerAfter before (s ++ ' ' :: t) = lowerAfter before s ++ ' ' :: lower t := by
    induction s generalizing before with
    | nil => exact congrArg (' ' :: ·) (lowerAfter_blank [] before t)
    | cons c s ih =>
      rw [List.cons_append, lowerAfter, lowerAfter, meetsCased_blank, ih, List.append_assoc]
  exact hafter []

theorem join_blank (word : Text) {words : List Text} (h : words ≠ []) :
    join " " (word :: words) = word ++ ' ' :: join " " words := by
  obtain ⟨next, words, rfl⟩ := List.exists_cons_of_ne_nil h
  rw [join, List.intercalate_cons_cons, List.append_assoc]
  rfl

theorem join_blank_cons (word next : Text) (words : List Text) :
    join " " (word :: next :: words) = word ++ ' ' :: join " " (next :: words) :=
  join_blank word (List.cons_ne_nil _ _)

theorem lower_join (words : List Text) :
    lower (join " " words) = join " " (words.map lower) := by
  induction words with
  | nil => rfl
  | cons word words ih =>
    cases words with
    | nil => simp [join]
    | cons next words =>
      have hne : (next :: words).map lower ≠ [] := List.cons_ne_nil _ _
      rw [List.map_cons, join_blank_cons, lower_append_blank, ih,
        join_blank _ hne]

theorem head_words {words : List Text} (hne : words ≠ []) (h : ∀ w ∈ words, IsUnbroken w) :
    ∀ c ∈ (join " " words).head?, isBlank c = false := by
  obtain ⟨word, words, rfl⟩ := List.exists_cons_of_ne_nil hne
  rw [join_cons]
  exact (h word List.mem_cons_self).head_append _

theorem trim_words {words : List Text} (h : ∀ w ∈ words, IsUnbroken w) :
    (join " " words).trim = join " " words :=
  trim_join_of_ends fun w hw => ⟨(h w hw).ne_nil, (h w hw).trim_eq⟩

theorem join_words (first : Text) (rest : List Text) :
    join " " (first :: rest) = first ++ rest.flatMap (' ' :: ·) :=
  join_cons " " first rest

/-- A line of words is not cut at a word that does not stand between two others. -/
theorem cut?_words_none {word first : Text} {rest : List Text} (hw : ' ' ∉ word)
    (h : ∀ w ∈ first :: rest, ' ' ∉ w) (hne : ∀ w ∈ rest.dropLast, w ≠ word) :
    cut? (' ' :: (word ++ [' '])) (join " " (first :: rest)) = none := by
  obtain ⟨hfirst, hrest⟩ := List.forall_mem_cons.1 h
  rw [join_words, cut?_append hfirst, Option.map_eq_none_iff]
  rcases List.eq_nil_or_concat' rest with rfl | ⟨front, last, rfl⟩
  · rfl
  · rw [List.dropLast_concat] at hne
    rw [List.flatMap_append, List.flatMap_singleton]
    apply cut?_last hw
    · exact fun w hm => ⟨hrest w (List.mem_append_left _ hm), hne w hm⟩
    · exact hrest last (List.mem_append_right _ List.mem_cons_self)

/-- What stands between blanks in a text of words is one of the words, and not the last one. -/
theorem includes_before_last {words : List Text} {w last : Text} (hw : ' ' ∉ w)
    (h : ∀ word ∈ words, ' ' ∉ word ∧ word ≠ w) (hl : ' ' ∉ last) :
    (join " " (words ++ [last])).includes (' ' :: (w ++ " ")) = false := by
  cases words with
  | nil =>
    rw [List.nil_append, join_one]
    exact not_includes_of_notMem List.mem_cons_self hl
  | cons first words =>
    have hspace : ∀ word ∈ first :: (words ++ [last]), ' ' ∉ word := by
      rw [← List.cons_append]
      exact List.forall_mem_append.2 ⟨fun word hm => (h word hm).1, List.forall_mem_singleton.2 hl⟩
    rw [includes, Option.isSome_eq_false_iff, Option.isNone_iff_eq_none]
    apply cut?_words_none hw hspace
    rw [List.dropLast_concat]
    exact fun word hm => (h word (List.mem_cons_of_mem _ hm)).2

theorem includes_words {words : List Text} {w : Text} (hw : ' ' ∉ w)
    (h : ∀ word ∈ words, ' ' ∉ word ∧ word ≠ w) :
    (join " " words).includes (' ' :: (w ++ " ")) = false := by
  rcases List.eq_nil_or_concat' words with rfl | ⟨words, last, rfl⟩
  · rfl
  · obtain ⟨hwords, hlast⟩ := List.forall_mem_append.1 h
    exact includes_before_last hw hwords (List.forall_mem_singleton.1 hlast).1

theorem startsWith_word {w v : Text} (hw : ' ' ∉ w) (hv : ' ' ∉ v) (hne : w ≠ v) (s : Text) :
    (w ++ ' ' :: s).startsWith (v ++ " ") = false := by
  rw [Bool.eq_false_iff, ne_eq, startsWith, List.isPrefixOf_iff_prefix]
  rintro ⟨rest, he⟩
  rw [List.append_assoc] at he
  exact hne (eq_of_append_cons he hv hw).symm

end Text

end JavaSketch
