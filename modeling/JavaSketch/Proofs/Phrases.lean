import JavaSketch.Proofs.CommentMarks
import JavaSketch.Statement.Convert

namespace JavaSketch

namespace Pattern

variable {p : Pattern} {s w : Text} {kept : List Text} {c : Char}

/-- The fixed texts of a pattern stand in each text that it accepts. -/
theorem infix_of_accepts (hw : exactly w <:+: p) (h : p.accepts s = true) : w <:+: s := by
  obtain ⟨kept, hk⟩ := Option.isSome_iff_exists.1 h
  obtain ⟨before, after, rfl⟩ := hw
  rw [List.append_assoc] at hk
  obtain ⟨n, kept', hn⟩ := find?_of_suffix (List.suffix_append _ _) hk
  exact (isPrefix_of_find? hn).isInfix.trans (List.drop_suffix n s).isInfix

theorem mem_of_accepts (hc : .exact c ∈ p) (h : p.accepts s = true) : c ∈ s := by
  have hw : exactly [c] <:+: p := (List.singleton_infix_iff _ _).2 hc
  exact (List.singleton_infix_iff _ _).1 (infix_of_accepts hw h)

theorem blank_of_find? (h : find? (.gap :: p) s = some kept) : ∃ c ∈ s, isBlank c = true := by
  obtain ⟨n, _, hn, _⟩ := takes_of_find? h
  have hl : 0 < (s.takeWhile isBlank).length := Nat.lt_of_lt_of_le Nat.zero_lt_one (hn.1.trans hn.2)
  obtain ⟨c, hc⟩ := List.exists_mem_of_length_pos hl
  exact ⟨c, (List.takeWhile_prefix _).subset hc, List.all_eq_true.1 List.all_takeWhile c hc⟩

theorem blank_of_accepts (hg : .gap ∈ p) (h : p.accepts s = true) : ∃ c ∈ s, isBlank c = true := by
  obtain ⟨kept, hk⟩ := Option.isSome_iff_exists.1 h
  obtain ⟨before, after, rfl⟩ := List.append_of_mem hg
  obtain ⟨n, kept', hn⟩ := find?_of_suffix (List.suffix_append _ _) hk
  obtain ⟨c, hc, hb⟩ := blank_of_find? hn
  exact ⟨c, (List.drop_suffix n s).subset hc, hb⟩

theorem accepts_run (cls : CharClass) (longest keep : Bool) (h : p.accepts s = true) :
    accepts (.run cls 0 longest keep :: p) s = true := by
  exact accepts_cons.2 ⟨0, ⟨Nat.le_refl 0, Nat.zero_le _⟩, h⟩

end Pattern

/-- The rule moves no code point to a blank. -/
def CaseRule.AvoidsBlanks (r : CaseRule) : Prop :=
  ∀ span ∈ blankSpans, span.2 < r.first + r.shift ∨ r.last + r.shift < span.1

instance (r : CaseRule) : Decidable r.AvoidsBlanks :=
  inferInstanceAs (Decidable (∀ span ∈ blankSpans, _))

theorem lowerRules_avoid_blanks : ∀ r ∈ lowerRules, r.AvoidsBlanks := by decide +kernel

theorem blankSpans_pos : ∀ span ∈ blankSpans, 0 < span.1 := by decide

theorem ascii_lower_blank : ∀ n < 0x80,
    isBlank (Char.ofNat n).toLower = true → isBlank (Char.ofNat n) = true := by
  decide

variable {c d : Char} {s : Text}

theorem isBlank_of_lowerChar (h : isBlank (lowerChar c) = true) : isBlank c = true := by
  rw [lowerChar] at h
  split at h
  · rename_i hc
    rw [← Char.ofNat_toNat c] at h ⊢
    exact ascii_lower_blank c.toNat hc h
  · rw [applyRules] at h
    split at h
    · rename_i r hf
      have hm := lowerRules_avoid_blanks r (List.mem_of_find?_eq_some hf)
      have hc := List.find?_some hf
      simp only [CaseRule.covers, Bool.and_eq_true, decide_eq_true_eq] at hc
      obtain ⟨span, hs, hspan⟩ := List.any_eq_true.1 h
      simp only [Bool.and_eq_true, decide_eq_true_eq] at hspan
      have hmove := hm span hs
      have hpos := blankSpans_pos span hs
      rcases toNat_ofNat (c.toNat + r.shift).toNat with ht | ht
      · rw [ht] at hspan
        omega
      · rw [isBlank, ht] at h
        cases h
    · rwa [Char.ofNat_toNat] at h

theorem Text.blank_mem_lowerAfter {before : Text} (h : d ∈ lowerAfter before s)
    (hd : isBlank d = true) : ∃ c ∈ s, isBlank c = true := by
  obtain hlow | ⟨c, hc, rfl⟩ := mem_lowerAfter h
  · have hwords : specialLows.all (!isBlank ·) = true := by decide
    have hword := List.all_eq_true.1 hwords d hlow
    rw [hd] at hword
    cases hword
  · exact ⟨c, hc, isBlank_of_lowerChar hd⟩

namespace Phrasebook

variable {book : Phrasebook}

/-- The patterns by which operations are recognised are those by which they are read, each as often,
in an order of their own. -/
def Agrees (book : Phrasebook) : Prop := book.patterns.Perm (book.operations.map (·.shape))

instance (book : Phrasebook) : Decidable book.Agrees :=
  decidable_of_iff (book.patterns.isPerm (book.operations.map (·.shape)) = true) List.isPerm_iff

theorem all_agrees : all.Agrees := by decide +kernel

theorem indexedLists_agrees : indexedLists.Agrees := by decide +kernel

/-- A statement is recognised exactly if an operation covers it. -/
theorem Agrees.isOperation_eq (h : book.Agrees) (s : Text) :
    isOperation book s = (!s.startsWith "print " && book.operations.any (·.covers s.lower)) := by
  have hany : book.patterns.any (·.accepts s.lower) = book.operations.any (·.covers s.lower) := by
    rw [Bool.eq_iff_iff, List.any_eq_true, List.any_eq_true]
    constructor
    · rintro ⟨p, hp, hs⟩
      obtain ⟨op, hop, rfl⟩ := List.mem_map.1 (h.mem_iff.1 hp)
      exact ⟨op, hop, hs⟩
    · rintro ⟨op, hop, hs⟩
      exact ⟨op.shape, h.mem_iff.2 (List.mem_map_of_mem hop), hs⟩
  rw [isOperation, hany]

end Phrasebook

namespace Operation

theorem all_spaced : ∀ op ∈ all, .gap ∈ op.shape ∨ .exact '(' ∈ op.shape := by decide

theorem isOperation_eq_false (h : ∀ op ∈ all, op.covers s.lower = false) :
    isOperation .all s = false := by
  rw [Phrasebook.all_agrees.isOperation_eq, Bool.and_eq_false_iff]
  right
  rw [List.any_eq_false]
  intro op hop
  exact Bool.eq_false_iff.1 (h op hop)

theorem isOperation_of_isName (h : IsName s) : isOperation .all s = false := by
  apply isOperation_eq_false
  intro op hop
  rw [Bool.eq_false_iff]
  intro hc
  rcases all_spaced op hop with hg | hp
  · obtain ⟨d, hd, hb⟩ := Pattern.blank_of_accepts hg hc
    obtain ⟨c, hc, hblank⟩ := Text.blank_mem_lowerAfter hd hb
    rw [not_blank_of_isWord (h.char hc)] at hblank
    cases hblank
  · have hm := Text.sign_mem_lower (Pattern.mem_of_accepts hp hc) rfl
    exact h.notMem rfl hm

end Operation

end JavaSketch
