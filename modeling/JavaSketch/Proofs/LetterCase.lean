import JavaSketch.Proofs.CaseSigns
import JavaSketch.Text.Word

namespace JavaSketch

/-- The spans of characters of names, outside of ASCII, in which there are small letters. -/
def smallSpans : List (Nat × Nat) :=
  [(0xd8, 0xf6), (0xf8, 0x2c1), (0x370, 0x374), (0x376, 0x377), (0x37a, 0x37d), (0x3a3, 0x3f5),
   (0x3f7, 0x481), (0x48a, 0x52f), (0x560, 0x588), (0x10d0, 0x10fa), (0x10fc, 0x1248),
   (0x13f8, 0x13fd), (0x1d00, 0x1dbf), (0x1e00, 0x1f15), (0x1f20, 0x1f45), (0x1f50, 0x1f57),
   (0x1f5f, 0x1f7d), (0x1f80, 0x1fb4), (0x1fc2, 0x1fc4), (0x1fd0, 0x1fd3), (0x1fe0, 0x1fec),
   (0x1ff2, 0x1ff4), (0x214e, 0x214e), (0x2150, 0x2189), (0x2c00, 0x2ce4), (0x2ceb, 0x2cee),
   (0x2cf2, 0x2cf3), (0x2d00, 0x2d25), (0x2d27, 0x2d27), (0x2d2d, 0x2d2d), (0xa640, 0xa66e),
   (0xa67f, 0xa69d), (0xa722, 0xa788), (0xa78b, 0xa7ca), (0xa7d0, 0xa7d1), (0xa7d5, 0xa7d9),
   (0xa7f2, 0xa801), (0xab30, 0xab5a), (0xab70, 0xabe2), (0xff41, 0xff5a), (0x10400, 0x1049d),
   (0x104d8, 0x104fb), (0x10597, 0x105a1), (0x105a3, 0x105b1), (0x105b3, 0x105b9),
   (0x105bb, 0x105bc), (0x10cc0, 0x10cf2), (0x118a0, 0x118f2), (0x16e40, 0x16e96),
   (0x1e900, 0x1e943)]

theorem smallSpans_sublist : smallSpans.Sublist wordSpans := by
  rw [← List.isSublist_iff_sublist]
  decide +kernel

theorem smallSpans_valid : ∀ span ∈ smallSpans, 0x80 ≤ span.1 ∧
    (span.2 < 0xd800 ∨ (0xdfff < span.1 ∧ span.2 < 0x110000)) := by
  decide

/-- The small letters of ASCII, and the spans of those outside of it. -/
def letterSpans : List (Nat × Nat) := (0x61, 0x7a) :: smallSpans

theorem ascii_word : ∀ n < 0x80,
    (0x61 ≤ n ∧ n ≤ 0x7a → isWord (Char.ofNat n) = true) ∧
      (isWord (Char.ofNat n) = true → isWord (Char.ofNat n).toLower = true) := by
  decide

theorem isWord_ofNat {n : Nat} (h : inSpans letterSpans n = true) :
    isWord (Char.ofNat n) = true := by
  obtain ⟨span, hs, hspan⟩ := List.any_eq_true.1 h
  simp only [Bool.and_eq_true, decide_eq_true_eq] at hspan
  rcases List.mem_cons.1 hs with rfl | hs
  · exact (ascii_word n (by omega)).1 hspan
  · obtain ⟨hascii, hvalid⟩ := smallSpans_valid span hs
    have hn : n.isValidChar := by
      rw [Nat.isValidChar]
      omega
    have he : Char.ofNat n = Char.ofNatAux n hn := dif_pos hn
    have hcode : (Char.ofNat n).toNat = n := by
      rw [he]
      rfl
    rw [isWord, hcode, if_neg (by omega), inSpans, List.any_eq_true]
    refine ⟨span, smallSpans_sublist.subset hs, ?_⟩
    simpa only [Bool.and_eq_true, decide_eq_true_eq] using hspan

namespace CaseRule

/-- The rule moves a span of code points into a span of letters. -/
def lands (r : CaseRule) (first last : Nat) : Bool :=
  letterSpans.any fun span =>
    span.1.ble (first + r.shift).toNat && (last + r.shift).toNat.ble span.2

/-- The rule moves what it covers to letters, as far as it can stand in a name. -/
def keepsWords (r : CaseRule) : Bool :=
  r.lands r.first r.last || wordSpans.all fun span =>
    span.2.blt r.first || r.last.blt span.1 || r.lands (max span.1 r.first) (min span.2 r.last)

theorem lowerRules_keep_words : ∀ r ∈ lowerRules, r.keepsWords = true := by decide +kernel

variable {r : CaseRule} {first last n : Nat}

theorem inSpans_of_lands (h : r.lands first last = true) (hfirst : first ≤ n) (hlast : n ≤ last) :
    inSpans letterSpans (n + r.shift).toNat = true := by
  obtain ⟨span, hs, hspan⟩ := List.any_eq_true.1 h
  simp only [Bool.and_eq_true, Nat.ble_eq] at hspan
  rw [inSpans, List.any_eq_true]
  refine ⟨span, hs, ?_⟩
  simp only [Bool.and_eq_true, decide_eq_true_eq]
  omega

theorem inSpans_of_keepsWords (h : r.keepsWords = true) (hc : r.covers n = true)
    (hn : inSpans wordSpans n = true) : inSpans letterSpans (n + r.shift).toNat = true := by
  simp only [covers, Bool.and_eq_true, decide_eq_true_eq] at hc
  obtain ⟨⟨hfirst, hlast⟩, _⟩ := hc
  rcases Bool.or_eq_true_iff.1 h with h | h
  · exact inSpans_of_lands h hfirst hlast
  · obtain ⟨span, hs, hspan⟩ := List.any_eq_true.1 hn
    simp only [Bool.and_eq_true, decide_eq_true_eq] at hspan
    have hland := List.all_eq_true.1 h span hs
    simp only [Bool.or_eq_true, Nat.blt_eq] at hland
    rcases hland with (hland | hland) | hland
    · omega
    · omega
    · exact inSpans_of_lands hland (by omega) (by omega)

end CaseRule

variable {c d : Char} {s w : Text}

theorem isWord_lowerChar (h : isWord c = true) : isWord (lowerChar c) = true := by
  rw [lowerChar]
  split
  · rename_i hc
    rw [← Char.ofNat_toNat c] at h ⊢
    exact (ascii_word c.toNat hc).2 h
  · rename_i hc
    rw [isWord, if_neg hc] at h
    rw [applyRules]
    split
    · rename_i r hf
      have hr := CaseRule.lowerRules_keep_words r (List.mem_of_find?_eq_some hf)
      have hcovers := List.find?_some hf
      exact isWord_ofNat (CaseRule.inSpans_of_keepsWords hr hcovers h)
    · rw [Char.ofNat_toNat, isWord, if_neg hc]
      exact h

/-- A small letter that only its capital is equal to up to case. -/
def isLone (c : Char) : Bool := lowerChar c == c && caseTwins.all fun twin => twin.1 != c.toNat

theorem sameLetter_iff (hc : isLone c = true) : sameLetter c d = true ↔ lowerChar d = c := by
  obtain ⟨hsmall, hlone⟩ := Bool.and_eq_true_iff.1 hc
  rw [sameLetter, beq_iff_eq.1 hsmall, Bool.or_eq_true]
  constructor
  · rintro (h | h)
    · exact (beq_iff_eq.1 h).symm
    · have hne := List.all_eq_true.1 hlone _ (List.contains_iff_mem.1 h)
      exact absurd rfl (bne_iff_ne.1 hne)
  · intro h
    exact .inl (beq_iff_eq.2 h.symm)

namespace Text

/-- What begins with a character of a name does so in small letters. -/
theorem head_lower (h : isWord c = true) (s : Text) :
    ∃ d rest, lower (c :: s) = d :: rest ∧ isWord d = true := by
  rw [lower, lowerAfter]
  split_ifs
  · exact ⟨_, _, rfl, by decide⟩
  · exact ⟨_, _, rfl, by decide⟩
  · exact ⟨_, _, rfl, by decide⟩
  · exact ⟨_, _, rfl, isWord_lowerChar h⟩

theorem lowerAfter_eq_map (hsigma : 'Σ' ∉ s) (hdotted : 'İ' ∉ s) (before : Text) :
    lowerAfter before s = s.map lowerChar := by
  induction s generalizing before with
  | nil => rfl
  | cons c s ih =>
    rw [lowerAfter, if_neg (List.ne_of_not_mem_cons hsigma).symm,
      if_neg (List.ne_of_not_mem_cons hdotted).symm,
      ih (List.not_mem_of_not_mem_cons hsigma) (List.not_mem_of_not_mem_cons hdotted)]
    rfl

theorem trace_of_mem (h : 'Σ' ∈ s ∨ 'İ' ∈ s) (before : Text) :
    ∃ d ∈ lowerAfter before s, 0x80 ≤ d.toNat := by
  induction s generalizing before with
  | nil => simp at h
  | cons c s ih =>
    rw [lowerAfter]
    by_cases hsigma : c = 'Σ'
    · rw [if_pos hsigma]
      split_ifs
      · exact ⟨'ς', List.mem_cons_self, by decide⟩
      · exact ⟨'σ', List.mem_cons_self, by decide⟩
    · by_cases hdotted : c = 'İ'
      · rw [if_neg hsigma, if_pos hdotted]
        exact ⟨Char.ofNat 0x307, List.mem_cons_of_mem _ List.mem_cons_self, by decide⟩
      · rw [List.mem_cons, List.mem_cons] at h
        obtain ⟨d, hd, hcode⟩ := ih
          (h.imp (·.resolve_left (Ne.symm hsigma)) (·.resolve_left (Ne.symm hdotted))) (c :: before)
        exact ⟨d, List.mem_append_right _ hd, hcode⟩

/-- A text whose small letters are ASCII has as many characters as they are. -/
theorem map_lowerChar_of_lower (hw : ∀ d ∈ w, d.toNat < 0x80) (h : s.lower = w) :
    s.map lowerChar = w := by
  have hplain : ¬ ('Σ' ∈ s ∨ 'İ' ∈ s) := by
    intro hs
    obtain ⟨d, hd, hcode⟩ := trace_of_mem hs []
    exact Nat.not_lt_of_le hcode (hw d (h ▸ hd))
  rw [not_or] at hplain
  rw [← h, lower, lowerAfter_eq_map hplain.1 hplain.2]

theorem lower_of_map_lowerChar (hw : ∀ d ∈ w, d.toNat < 0x80) (hi : 'i' ∉ w)
    (h : s.map lowerChar = w) : s.lower = w := by
  have hsigma : 'Σ' ∉ s := by
    intro hs
    exact absurd (hw _ (h ▸ List.mem_map_of_mem hs)) (by decide)
  have hdotted : 'İ' ∉ s := by
    intro hs
    have hm : lowerChar 'İ' ∈ w := h ▸ List.mem_map_of_mem hs
    exact hi hm
  rw [lower, lowerAfter_eq_map hsigma hdotted, h]

end Text

end JavaSketch
