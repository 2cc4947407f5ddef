import JavaSketch.Proofs.Braces
import JavaSketch.Text.Case

namespace JavaSketch

theorem lookup_mem {α β : Type} [BEq α] [LawfulBEq α] {table : List (α × β)} {key : α} {b : β}
    (h : table.lookup key = some b) : ∃ a, (a, b) ∈ table := by
  obtain ⟨l₁, l₂, rfl, _⟩ := List.lookup_eq_some_iff.1 h
  exact ⟨key, List.mem_append_right _ List.mem_cons_self⟩

/-- A character of ASCII that is no letter. -/
def isSign (c : Char) : Bool := decide (0 < c.toNat) && decide (c.toNat < 0x80) && !c.isAlpha

/-- The code of a letter of ASCII, or of a character outside of it. -/
def isLetterCode (n : Nat) : Bool :=
  decide (0x80 ≤ n) || decide (0x41 ≤ n ∧ n ≤ 0x5a) || decide (0x61 ≤ n ∧ n ≤ 0x7a)

theorem toNat_ofNat (n : Nat) : (Char.ofNat n).toNat = n ∨ (Char.ofNat n).toNat = 0 := by
  by_cases h : n.isValidChar
  · have he : Char.ofNat n = Char.ofNatAux n h := dif_pos h
    rw [he]
    exact .inl rfl
  · have he : Char.ofNat n = ⟨0, by decide⟩ := dif_neg h
    rw [he]
    exact .inr rfl

theorem ascii_letterCode : ∀ n < 0x80, isLetterCode n = true → isSign (Char.ofNat n) = false := by
  decide

theorem isSign_ofNat {n : Nat} (h : isLetterCode n = true) : isSign (Char.ofNat n) = false := by
  rcases Nat.lt_or_ge n 0x80 with hn | hn
  · exact ascii_letterCode n hn h
  · rw [isSign]
    rcases toNat_ofNat n with ht | ht
    · rw [ht, decide_eq_false (Nat.not_lt_of_le hn), Bool.and_false, Bool.false_and]
    · rw [ht]
      rfl

/-- The rule moves code points outside ASCII to letters. -/
def CaseRule.SkipsSigns (r : CaseRule) : Prop :=
  0x80 ≤ r.first + r.shift ∨ (0x41 ≤ r.first + r.shift ∧ r.last + r.shift ≤ 0x5a) ∨
    (0x61 ≤ r.first + r.shift ∧ r.last + r.shift ≤ 0x7a)

instance (r : CaseRule) : Decidable r.SkipsSigns := inferInstanceAs (Decidable (_ ∨ _))

theorem lowerRules_skip_signs : ∀ r ∈ lowerRules, r.SkipsSigns := by decide +kernel

theorem titleRules_skip_signs : ∀ r ∈ titleRules, r.SkipsSigns := by decide +kernel

theorem longTitles_skip_signs : ∀ entry ∈ longTitles, ∀ n ∈ entry.2, isLetterCode n = true := by
  decide +kernel

theorem isLetterCode_applyRules {rules : List CaseRule} (hr : ∀ r ∈ rules, r.SkipsSigns) {n : Nat}
    (hn : 0x80 ≤ n) : isLetterCode (applyRules rules n) = true := by
  simp only [isLetterCode, Bool.or_eq_true, decide_eq_true_eq]
  rw [applyRules]
  split
  · rename_i r hf
    have hm := hr r (List.mem_of_find?_eq_some hf)
    have hc := List.find?_some hf
    simp only [CaseRule.covers, Bool.and_eq_true, decide_eq_true_eq] at hc
    rw [CaseRule.SkipsSigns] at hm
    omega
  · exact .inl (.inl hn)

theorem ascii_case : ∀ n < 0x80,
    (isSign (Char.ofNat n).toLower = true → (Char.ofNat n).toLower = Char.ofNat n) ∧
      (isSign (Char.ofNat n).toUpper = true → (Char.ofNat n).toUpper = Char.ofNat n) := by
  decide

variable {c d : Char} {s : Text}

theorem toNat_lt_of_isAlpha (h : c.isAlpha = true) : c.toNat < 0x80 := by
  rcases Bool.or_eq_true_iff.1 h with h | h
  · have hz : c.val ≤ 'Z'.val := (of_decide_eq_true h).2
    exact Nat.lt_of_le_of_lt (UInt32.le_iff_toNat_le.1 hz) (by decide)
  · have hz : c.val ≤ 'z'.val := of_decide_eq_true (Bool.and_eq_true_iff.1 h).2
    exact Nat.lt_of_le_of_lt (UInt32.le_iff_toNat_le.1 hz) (by decide)

theorem eq_of_lowerChar (h : isSign (lowerChar c) = true) : lowerChar c = c := by
  rw [lowerChar] at h ⊢
  split at h
  · rename_i hc
    rw [← Char.ofNat_toNat c] at h ⊢
    rw [Char.ofNat_toNat, if_pos hc, ← Char.ofNat_toNat c]
    exact (ascii_case c.toNat hc).1 h
  · rename_i hc
    rw [isSign_ofNat (isLetterCode_applyRules lowerRules_skip_signs (Nat.le_of_not_lt hc))] at h
    cases h

theorem ascii_lower_sign : ∀ n < 0x80,
    isSign (Char.ofNat n) = true → (Char.ofNat n).toLower = Char.ofNat n := by
  decide

theorem lowerChar_sign (h : isSign d = true) : lowerChar d = d := by
  have hd : d.toNat < 0x80 := by
    simp only [isSign, Bool.and_eq_true, decide_eq_true_eq] at h
    exact h.1.2
  rw [lowerChar, if_pos hd]
  rw [← Char.ofNat_toNat d] at h ⊢
  exact ascii_lower_sign _ hd h

theorem caseTwins_letters : ∀ twin ∈ caseTwins, isLetterCode twin.2 = true := by decide +kernel

/-- A sign is equal to itself only, in either case. -/
theorem eq_of_sameLetter (h : sameLetter c d = true) (hd : isSign d = true) : c = d := by
  rw [sameLetter, lowerChar_sign hd] at h
  rcases Bool.or_eq_true_iff.1 h with h | h
  · have he := beq_iff_eq.1 h
    rw [← he] at hd ⊢
    exact (eq_of_lowerChar hd).symm
  · have hl := isSign_ofNat (caseTwins_letters _ (List.contains_iff_mem.1 h))
    rw [Char.ofNat_toNat, hd] at hl
    cases hl

theorem eq_of_mem_titleChar (h : d ∈ titleChar c) (hd : isSign d = true) : d = c := by
  rw [titleChar] at h
  split at h
  · rename_i hc
    rw [List.mem_singleton] at h
    rw [h] at hd ⊢
    rw [← Char.ofNat_toNat c] at hd ⊢
    exact (ascii_case c.toNat hc).2 hd
  · rename_i hc
    split at h
    · rename_i ns hl
      obtain ⟨k, hm⟩ := lookup_mem hl
      obtain ⟨n, hn, rfl⟩ := List.mem_map.1 h
      rw [isSign_ofNat (longTitles_skip_signs _ hm n hn)] at hd
      cases hd
    · rw [List.mem_singleton] at h
      have hletter := isLetterCode_applyRules titleRules_skip_signs (Nat.le_of_not_lt hc)
      rw [h, isSign_ofNat hletter] at hd
      cases hd

namespace Text

/-- The characters of the lower-case forms that depend on neighbours or are two characters. -/
def specialLows : Text := ['ς', 'σ', 'i', Char.ofNat 0x307]

theorem mem_lowerAfter {before : Text} (h : d ∈ lowerAfter before s) :
    d ∈ specialLows ∨ ∃ c ∈ s, d = lowerChar c := by
  induction s generalizing before with
  | nil => cases h
  | cons c s ih =>
    rw [lowerAfter] at h
    rcases List.mem_append.1 h with h | h
    · split_ifs at h
      · rw [List.mem_singleton.1 h]
        exact .inl (by decide)
      · rw [List.mem_singleton.1 h]
        exact .inl (by decide)
      · exact .inl (List.mem_cons_of_mem _ (List.mem_cons_of_mem _ h))
      · exact .inr ⟨c, List.mem_cons_self, List.mem_singleton.1 h⟩
    · obtain hlow | ⟨b, hb, hd⟩ := ih h
      · exact .inl hlow
      · exact .inr ⟨b, List.mem_cons_of_mem _ hb, hd⟩

theorem sign_mem_lowerAfter {before : Text} (h : d ∈ lowerAfter before s) (hd : isSign d = true) :
    d ∈ s := by
  obtain hlow | ⟨c, hc, rfl⟩ := mem_lowerAfter h
  · have hletters : specialLows.all (!isSign ·) = true := by decide
    have hletter := List.all_eq_true.1 hletters d hlow
    rw [hd] at hletter
    cases hletter
  · rw [eq_of_lowerChar hd]
    exact hc

theorem sign_mem_lower (h : d ∈ s.lower) (hd : isSign d = true) : d ∈ s :=
  sign_mem_lowerAfter h hd

theorem sign_mem_capitalize (h : d ∈ s.capitalize) (hd : isSign d = true) : d ∈ s := by
  cases s with
  | nil => exact h
  | cons c s =>
    rcases List.mem_append.1 h with h | h
    · rw [eq_of_mem_titleChar h hd]
      exact List.mem_cons_self
    · exact List.mem_cons_of_mem _ (sign_mem_lowerAfter h hd)

end Text

namespace BraceFree

theorem of_signs {t : Text} (h : BraceFree s) (hs : ∀ d ∈ t, isSign d = true → d ∈ s) :
    BraceFree t := by
  intro c hc
  constructor
  · rintro rfl
    exact (h _ (hs _ hc rfl)).1 rfl
  · rintro rfl
    exact (h _ (hs _ hc rfl)).2 rfl

theorem lower (h : BraceFree s) : BraceFree s.lower :=
  h.of_signs fun _ => Text.sign_mem_lower

theorem capitalize (h : BraceFree s) : BraceFree s.capitalize :=
  h.of_signs fun _ => Text.sign_mem_capitalize

end BraceFree

end JavaSketch
