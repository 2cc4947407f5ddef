import JavaSketch.Proofs.WordGaps

namespace JavaSketch

/-- The spans of characters of names, outside of ASCII, in which there are capitals and no small
letters. -/
def capitalSpans : List (Nat × Nat) :=
  [(0xc0, 0xd6), (0x37f, 0x37f), (0x386, 0x386), (0x388, 0x38a), (0x38c, 0x38c), (0x38e, 0x3a1),
   (0x531, 0x556), (0x10a0, 0x10c5), (0x10c7, 0x10c7), (0x10cd, 0x10cd), (0x13a0, 0x13f5),
   (0x1c90, 0x1cba), (0x1cbd, 0x1cbf), (0x1f18, 0x1f1d), (0x1f48, 0x1f4d), (0x1f59, 0x1f59),
   (0x1f5b, 0x1f5b), (0x1f5d, 0x1f5d), (0x1fb6, 0x1fbc), (0x1fc6, 0x1fcc), (0x1fd6, 0x1fdb),
   (0x1ff6, 0x1ffc), (0x2126, 0x2126), (0x212a, 0x212d), (0x212f, 0x2139), (0xff21, 0xff3a),
   (0x104b0, 0x104d3), (0x10570, 0x1057a), (0x1057c, 0x1058a), (0x1058c, 0x10592),
   (0x10594, 0x10595), (0x10c80, 0x10cb2)]

theorem capitalSpans_sublist : capitalSpans.Sublist wordSpans := by
  rw [← List.isSublist_iff_sublist]
  decide +kernel

/-- The spans of characters of names, outside of ASCII, in which there are letters of either
kind. -/
def bothCaseSpans : List (Nat × Nat) := smallSpans ++ capitalSpans

theorem bothCaseSpans_subset : bothCaseSpans ⊆ wordSpans :=
  List.append_subset.2 ⟨smallSpans_sublist.subset, capitalSpans_sublist.subset⟩

namespace CaseRule

/-- What the rule covers can stand in a name, or what it leads to cannot. -/
def reflectsWords (r : CaseRule) : Bool :=
  (bothCaseSpans.any fun span => span.1.ble r.first && r.last.ble span.2) ||
    ((List.range' r.first (r.last + 1 - r.first)).all fun n =>
      !r.covers n || inSpans bothCaseSpans n) ||
    (Nat.ble 0x80 (r.first + r.shift).toNat && wordSpans.all fun span =>
      span.2.blt (r.first + r.shift).toNat || (r.last + r.shift).toNat.blt span.1)

theorem lowerRules_reflect_words : ∀ r ∈ lowerRules, r.reflectsWords = true := by decide +kernel

end CaseRule

theorem ascii_of_lower_word : ∀ n < 0x80,
    isWord (Char.ofNat n).toLower = true → isWord (Char.ofNat n) = true := by
  decide

variable {c d : Char} {s before : Text}

theorem CaseRule.inSpans_of_reflectsWords {r : CaseRule} {n : Nat} (h : r.reflectsWords = true)
    (hc : r.covers n = true) (hn : isWord (Char.ofNat (n + r.shift).toNat) = true) :
    inSpans wordSpans n = true := by
  have hcovers := hc
  simp only [covers, Bool.and_eq_true, decide_eq_true_eq] at hcovers
  obtain ⟨⟨hfirst, hlast⟩, _⟩ := hcovers
  rw [reflectsWords, Bool.or_assoc] at h
  rcases Bool.or_eq_true_iff.1 h with h | h
  · obtain ⟨span, hs, hspan⟩ := List.any_eq_true.1 h
    simp only [Bool.and_eq_true, Nat.ble_eq] at hspan
    rw [inSpans, List.any_eq_true]
    refine ⟨span, bothCaseSpans_subset hs, ?_⟩
    simp only [Bool.and_eq_true, decide_eq_true_eq]
    omega
  rcases Bool.or_eq_true_iff.1 h with h | h
  · have hin := List.all_eq_true.1 h n (List.mem_range'_1.2 (by omega))
    rw [hc, Bool.not_true, Bool.false_or] at hin
    obtain ⟨span, hs, hspan⟩ := List.any_eq_true.1 hin
    exact List.any_eq_true.2 ⟨span, bothCaseSpans_subset hs, hspan⟩
  · obtain ⟨hlow, hspans⟩ := Bool.and_eq_true_iff.1 h
    rw [Nat.ble_eq] at hlow
    rcases toNat_ofNat (n + r.shift).toNat with ht | ht
    · rw [isWord, ht, if_neg (by omega)] at hn
      obtain ⟨span, hs, hspan⟩ := List.any_eq_true.1 hn
      have hout := List.all_eq_true.1 hspans span hs
      simp only [Bool.and_eq_true, Bool.or_eq_true, decide_eq_true_eq, Nat.blt_eq] at hspan hout
      omega
    · have hzero : Char.ofNat (n + r.shift).toNat = Char.ofNat 0 := by
        rw [← Char.ofNat_toNat (Char.ofNat _), ht]
      rw [hzero] at hn
      exact absurd hn (by decide)

theorem isWord_of_lowerChar (h : isWord (lowerChar c) = true) : isWord c = true := by
  rw [lowerChar] at h
  split at h
  · rename_i hc
    rw [← Char.ofNat_toNat c] at h ⊢
    exact ascii_of_lower_word c.toNat hc h
  · rename_i hc
    rw [applyRules] at h
    split at h
    · rename_i r hf
      have hr := CaseRule.lowerRules_reflect_words r (List.mem_of_find?_eq_some hf)
      have hcovers : r.covers c.toNat = true :=
        List.find?_some (p := fun r : CaseRule => r.covers c.toNat) hf
      rw [isWord, if_neg hc]
      exact CaseRule.inSpans_of_reflectsWords hr hcovers h
    · rwa [Char.ofNat_toNat] at h

/-- The dot that is left of a capital with a dot. -/
def dotAbove : Char := Char.ofNat 0x307

/-- Small letters are made of the first character of a text, which may leave a dot, and then of the
others. -/
theorem Text.exists_lowerAfter_cons (before : Text) (c : Char) (s : Text) :
    ∃ d rest, lowerAfter before (c :: s) = d :: rest ∧ (d = lowerChar c ∨ c = 'Σ' ∧ d = 'ς') ∧
      (rest = lowerAfter (c :: before) s ∨
        d = 'i' ∧ rest = dotAbove :: lowerAfter (c :: before) s) := by
  rw [lowerAfter]
  split_ifs with hsigma hfinal hdot
  · exact ⟨'ς', _, rfl, .inr ⟨hsigma, rfl⟩, .inl rfl⟩
  · refine ⟨'σ', _, rfl, .inl ?_, .inl rfl⟩
    rw [hsigma]
    decide +kernel
  · refine ⟨'i', _, rfl, .inl ?_, .inr ⟨rfl, rfl⟩⟩
    rw [hdot]
    decide +kernel
  · exact ⟨lowerChar c, _, rfl, .inl rfl, .inl rfl⟩

namespace CharClass

/-- What becomes a character of the class is one. -/
def Reflects (cls : CharClass) : Prop :=
  ∀ c d, (d = lowerChar c ∨ c = 'Σ' ∧ d = 'ς') → cls.holds d = true → cls.holds c = true

theorem blank_reflects : blank.Reflects := by
  rintro c d (rfl | ⟨rfl, rfl⟩) h
  · exact isBlank_of_lowerChar h
  · cases h

theorem word_reflects : word.Reflects := by
  rintro c d (rfl | ⟨rfl, rfl⟩) h
  · exact isWord_of_lowerChar h
  · decide +kernel

theorem any_reflects : any.Reflects := by
  rintro c d (rfl | ⟨rfl, rfl⟩) h
  · refine bne_iff_ne.2 ?_
    rintro rfl
    exact absurd h (by decide)
  · rfl

/-- What a run takes of the small letters, it takes of the text, up to a dot that is left. -/
theorem Reflects.exists_takes {cls : CharClass} (h : cls.Reflects) {n : Nat}
    (hn : n ≤ ((Text.lowerAfter before s).takeWhile cls.holds).length) :
    ∃ m front, m ≤ (s.takeWhile cls.holds).length ∧ (1 ≤ n → 1 ≤ m) ∧
      ((Text.lowerAfter before s).drop n = Text.lowerAfter front (s.drop m) ∨
        cls.holds 'i' = true ∧
          (Text.lowerAfter before s).drop n = dotAbove :: Text.lowerAfter front (s.drop m)) := by
  induction s generalizing before n with
  | nil =>
    have hzero : n = 0 := Nat.le_zero.1 hn
    rw [hzero]
    exact ⟨0, before, Nat.le_refl 0, id, .inl rfl⟩
  | cons c s ih =>
    cases n with
    | zero => exact ⟨0, before, Nat.zero_le _, id, .inl rfl⟩
    | succ n =>
      obtain ⟨d, rest, he, hd, hrest⟩ := Text.exists_lowerAfter_cons before c s
      rw [he] at hn ⊢
      cases hholds : cls.holds d with
      | false =>
        rw [List.takeWhile_cons_of_neg (Bool.eq_false_iff.1 hholds)] at hn
        cases hn
      | true =>
        rw [List.takeWhile_cons_of_pos hholds] at hn
        replace hn := Nat.le_of_succ_le_succ hn
        rw [List.takeWhile_cons_of_pos (h c d hd hholds), List.drop_succ_cons]
        rcases hrest with rfl | ⟨rfl, rfl⟩
        · obtain ⟨m, front, hm, -, hdrop⟩ := ih hn
          exact ⟨m + 1, front, Nat.succ_le_succ hm, fun _ => Nat.le_add_left 1 m, hdrop⟩
        · cases n with
          | zero => exact ⟨1, c :: before, Nat.le_add_left 1 _, id, .inr ⟨hholds, rfl⟩⟩
          | succ n =>
            cases hdot : cls.holds dotAbove with
            | false =>
              rw [List.takeWhile_cons_of_neg (Bool.eq_false_iff.1 hdot)] at hn
              cases hn
            | true =>
              rw [List.takeWhile_cons_of_pos hdot] at hn
              obtain ⟨m, front, hm, -, hdrop⟩ := ih (Nat.le_of_succ_le_succ hn)
              exact ⟨m + 1, front, Nat.succ_le_succ hm, fun _ => Nat.le_add_left 1 m, hdrop⟩

end CharClass

namespace Step

/-- The step reads the same letters or a class that knows no case. -/
def isPlain : Step → Bool
  | .exact c => decide (c.toNat < 0x80)
  | .run cls least _ _ => (cls == .blank || cls == .word || cls == .any) && decide (least ≤ 1)
  | _ => false

/-- The step cannot begin with the dot that is left of a capital. -/
def bars : Step → Bool
  | .exact c => decide (c.toNat < 0x80)
  | .run .blank least _ _ => decide (0 < least)
  | _ => false

end Step

namespace Pattern

/-- A pattern of plain steps, each of which takes blanks or is followed by a step that bars a
dot. -/
def isSpoken : Pattern → Bool
  | [] => true
  | step :: p => step.isPlain && (p.head?.all Step.bars || step == .gap) && isSpoken p

variable {p q : Pattern} {step reader : Step}

theorem not_accepts_dot (h : step.bars = true) (s : Text) :
    accepts (step :: p) (dotAbove :: s) = false := by
  rw [Bool.eq_false_iff, ne_eq, accepts_cons]
  rintro ⟨n, hn, -⟩
  cases step with
  | exact c =>
    obtain ⟨-, hc⟩ := hn
    cases hc
    exact absurd h (by decide)
  | run cls least longest keep =>
    cases cls with
    | blank =>
      have hnone : (dotAbove :: s).takeWhile CharClass.blank.holds = [] :=
        List.takeWhile_cons_of_neg (by decide +kernel)
      obtain ⟨hleast, hmost⟩ := hn
      rw [hnone] at hmost
      exact absurd (of_decide_eq_true h) (Nat.not_lt_of_le (hleast.trans hmost))
    | _ => cases h
  | _ => cases h

theorem exists_takes (h : step.Reads reader) (hplain : step.isPlain = true) {n : Nat}
    (ht : step.Takes (Text.lowerAfter before s) n) :
    ∃ m front, reader.Takes s m ∧
      ((Text.lowerAfter before s).drop n = Text.lowerAfter front (s.drop m) ∨
        step ≠ .gap ∧
          (Text.lowerAfter before s).drop n = dotAbove :: Text.lowerAfter front (s.drop m)) := by
  have hexact {c : Char} (hc : c.toNat < 0x80)
      (ht : (Step.exact c).Takes (Text.lowerAfter before s) n) :
      ∃ d rest, s = d :: rest ∧ lowerChar d = c ∧ n = 1 ∧
        ((Text.lowerAfter before s).drop n = Text.lowerAfter (d :: before) rest ∨
          (Text.lowerAfter before s).drop n = dotAbove :: Text.lowerAfter (d :: before) rest) := by
    obtain ⟨rfl, hhead⟩ := ht
    cases s with
    | nil => cases hhead
    | cons d rest =>
      obtain ⟨e, more, he, hd, hmore⟩ := Text.exists_lowerAfter_cons before d rest
      rw [he] at hhead ⊢
      cases hhead
      refine ⟨d, rest, rfl, ?_, rfl, hmore.imp id And.right⟩
      rcases hd with hd | ⟨rfl, rfl⟩
      · exact hd.symm
      · exact absurd hc (by decide)
  cases h with
  | @letter c hc =>
    obtain ⟨d, rest, rfl, hd, rfl, hdrop⟩ := hexact (of_decide_eq_true hplain) ht
    refine ⟨1, d :: before, ⟨rfl, d, rfl, ?_⟩, hdrop.imp id fun h => ⟨Step.noConfusion, h⟩⟩
    rw [sameLetter, hc, hd, beq_self_eq_true, Bool.true_or]
  | @sign c hc =>
    obtain ⟨d, rest, rfl, hd, rfl, hdrop⟩ := hexact (of_decide_eq_true hplain) ht
    refine ⟨1, d :: before, ⟨rfl, ?_⟩, hdrop.imp id fun h => ⟨Step.noConfusion, h⟩⟩
    rw [← hd] at hc ⊢
    rw [eq_of_lowerChar hc]
    rfl
  | @run cls hcls least longest keep longest' keep' =>
    obtain ⟨hcls, hleast⟩ := Bool.and_eq_true_iff.1 hplain
    have hleast : least ≤ 1 := of_decide_eq_true hleast
    have hreflects : cls.Reflects := by
      rw [Bool.or_eq_true, Bool.or_eq_true, beq_iff_eq, beq_iff_eq, beq_iff_eq] at hcls
      rcases hcls with (rfl | rfl) | rfl
      · exact CharClass.blank_reflects
      · exact CharClass.word_reflects
      · exact CharClass.any_reflects
    obtain ⟨m, front, hm, hone, hdrop⟩ := hreflects.exists_takes ht.2
    have hmin : least ≤ m := by
      have hn := ht.1
      omega
    refine ⟨m, front, ⟨hmin, hm⟩, hdrop.imp id fun h => ⟨?_, h.2⟩⟩
    rintro ⟨⟩
    exact absurd h.1 (by decide)

/-- What is recognised in small letters can be read from the text, whatever its letters are. -/
theorem Reads.accepts_lowerAfter (h : Reads p q) (hp : p.isSpoken = true)
    (ha : p.accepts (Text.lowerAfter before s) = true) : q.accepts s = true := by
  induction h generalizing s before with
  | nil => rfl
  | @cons step reader p q hstep htail ih =>
    simp only [isSpoken, Bool.and_eq_true, Bool.or_eq_true, beq_iff_eq] at hp
    obtain ⟨⟨hplain, hnext⟩, hp⟩ := hp
    obtain ⟨n, hn, hrest⟩ := accepts_cons.1 ha
    obtain ⟨m, front, hm, hdrop | ⟨hgap, hdrop⟩⟩ := exists_takes hstep hplain hn
    · rw [hdrop] at hrest
      exact accepts_cons.2 ⟨m, hm, ih hp hrest⟩
    · rw [hdrop] at hrest
      cases p with
      | nil =>
        cases htail
        exact accepts_cons.2 ⟨m, hm, rfl⟩
      | cons next p =>
        rw [not_accepts_dot (hnext.resolve_right hgap)] at hrest
        cases hrest

theorem countP_kept {kept : List Text} (h : find? p s = some kept) :
    kept.flatten.countP isBlank + p.count .gap ≤ s.countP isBlank := by
  induction p generalizing s kept with
  | nil =>
    cases h
    exact Nat.zero_le _
  | cons step p ih =>
    obtain ⟨n, more, hn, hm, rfl⟩ := takes_of_find? h
    have hmore := ih hm
    have hsplit : s.countP isBlank = (s.take n).countP isBlank + (s.drop n).countP isBlank := by
      rw [← List.countP_append, List.take_append_drop]
    by_cases hgap : step = .gap
    · rw [hgap] at hn ⊢
      have hpos : 0 < (s.take n).countP isBlank := by
        obtain ⟨hone, hrun⟩ := hn
        cases s with
        | nil => exact absurd (hone.trans hrun) (by decide)
        | cons d s =>
          cases hd : isBlank d with
          | false =>
            have hnone : (d :: s).takeWhile CharClass.blank.holds = [] :=
              List.takeWhile_cons_of_neg (Bool.eq_false_iff.1 hd)
            rw [hnone] at hrun
            exact absurd (hone.trans hrun) (by decide)
          | true =>
            obtain ⟨m, rfl⟩ := Nat.exists_eq_add_of_le' hone
            rw [List.take_succ_cons, List.countP_cons_of_pos hd]
            exact Nat.succ_pos _
      rw [List.count_cons_self, hsplit]
      have hskip : (if Step.isKept .gap then s.take n :: more else more) = more := rfl
      rw [hskip]
      omega
    · rw [List.count_cons_of_ne hgap, hsplit]
      split
      · rw [List.flatten_cons, List.countP_append]
        omega
      · omega

end Pattern

namespace Operation

open Pattern

variable {first second method : Text} {parts : List Part} {e : Text} {op : Operation}

/-- What the operation recognises it can read, and its expression has three blanks fewer. -/
structure Shortens (op : Operation) : Prop where
  reads : ∀ s, op.covers s.lower = true → ∃ e, op.expression? s = some e
  blanks : ∀ s e, op.expression? s = some e → e.countP isBlank + 3 ≤ s.countP isBlank

theorem countP_gap_spaced (ps : List Pattern) : ps.length ≤ (spaced ps).count .gap + 1 := by
  cases ps with
  | nil => exact Nat.zero_le _
  | cons p ps =>
    have htail : ps.length ≤ (ps.flatMap (.gap :: ·)).count .gap := by
      induction ps with
      | nil => exact Nat.zero_le _
      | cons q ps ih =>
        rw [List.flatMap_cons, List.count_append, List.count_cons_self, List.length_cons]
        omega
    rw [spaced_cons, List.count_append, List.length_cons]
    omega

theorem ofPhrase_shortens {build : List Text → Option Text} (hsmall : parts.all Part.isSmall = true)
    (hspoken : (spaced (parts.map Part.shape)).isSpoken = true)
    (hb : ∀ kept, kept.length = parts.countP Part.isKept → ∃ e, build kept = some e ∧
      e.countP isBlank + 4 ≤ kept.flatten.countP isBlank + parts.length) :
    (ofPhrase parts build).Shortens where
  reads s hc := by
    obtain ⟨kept, hk⟩ := Option.isSome_iff_exists.1
      ((Part.reads_phrase hsmall).accepts_lowerAfter hspoken hc)
    obtain ⟨e, he, _⟩ := hb kept ((length_of_find? hk).trans (Part.countP_phrase parts))
    exact ⟨e, Option.bind_eq_some_iff.2 ⟨kept, hk, he⟩⟩
  blanks s e h := by
    obtain ⟨kept, hk, he⟩ := Option.bind_eq_some_iff.1 h
    obtain ⟨e', he', hle⟩ := hb kept ((length_of_find? hk).trans (Part.countP_phrase parts))
    rw [he] at he'
    cases he'
    have hkept := countP_kept hk
    have hgaps := countP_gap_spaced (parts.map Part.reader)
    rw [List.length_map] at hgaps
    omega

theorem pair_shortens {f : Text → Text → Text} (hsmall : parts.all Part.isSmall = true)
    (hspoken : (spaced (parts.map Part.shape)).isSpoken = true)
    (hk : parts.countP Part.isKept = 2) (hl : 4 ≤ parts.length)
    (hf : ∀ a b, (f a b).countP isBlank ≤ a.countP isBlank + b.countP isBlank) :
    (ofPhrase parts fun
      | [a, b] => some (f a b)
      | _ => none).Shortens := by
  apply ofPhrase_shortens hsmall hspoken
  intro kept hlength
  obtain ⟨a, b, rfl⟩ := List.length_eq_two.1 (hlength.trans hk)
  refine ⟨f a b, rfl, ?_⟩
  have hle := hf a b
  rw [List.flatten_cons, List.flatten_singleton, List.countP_append]
  omega

theorem triple_shortens {f : Text → Text → Text → Text} (hsmall : parts.all Part.isSmall = true)
    (hspoken : (spaced (parts.map Part.shape)).isSpoken = true)
    (hk : parts.countP Part.isKept = 3) (hl : 5 ≤ parts.length)
    (hf : ∀ a b c, (f a b c).countP isBlank ≤
      a.countP isBlank + b.countP isBlank + c.countP isBlank + 1) :
    (ofPhrase parts fun
      | [a, b, c] => some (f a b c)
      | _ => none).Shortens := by
  apply ofPhrase_shortens hsmall hspoken
  intro kept hlength
  obtain ⟨a, b, c, rfl⟩ := List.length_eq_three.1 (hlength.trans hk)
  refine ⟨f a b c, rfl, ?_⟩
  have hle := hf a b c
  rw [List.flatten_cons, List.flatten_cons, List.flatten_singleton, List.countP_append,
    List.countP_append]
  omega

theorem countP_call (c method argument : Text) (hm : method.countP isBlank = 0) :
    (call c method argument).countP isBlank = c.countP isBlank + argument.countP isBlank := by
  have hdot : List.countP isBlank "." = 0 := rfl
  have hopen : List.countP isBlank "(" = 0 := rfl
  have hclose : List.countP isBlank ")" = 0 := rfl
  simp only [call, List.countP_append, hdot, hm, hopen, hclose, Nat.add_zero]

theorem countP_trim_le (s : Text) : s.trim.countP isBlank ≤ s.countP isBlank :=
  s.trim_infix.sublist.countP_le

theorem countP_call_two (c method a b : Text) (hm : method.countP isBlank = 0) :
    (call c method (a.trim ++ ", " ++ b.trim)).countP isBlank ≤
      c.countP isBlank + a.countP isBlank + b.countP isBlank + 1 := by
  have ha := countP_trim_le a
  have hb := countP_trim_le b
  have hcomma : List.countP isBlank ", " = 1 := rfl
  rw [countP_call c method _ hm, List.countP_append, List.countP_append, hcomma]
  omega

theorem passing_shortens
    (hsmall : [Part.words first, .operand, .words second, .receiver].all Part.isSmall = true)
    (hspoken : (spaced ([Part.words first, .operand, .words second, .receiver].map
      Part.shape)).isSpoken = true) (hm : method.countP isBlank = 0) :
    (passing first second method).Shortens := by
  refine pair_shortens hsmall hspoken rfl (Nat.le_refl 4) fun item c => ?_
  have hle := countP_trim_le item
  rw [countP_call c method _ hm]
  omega

theorem removing_shortens
    (hsmall : [Part.words first, .operand, .words "from", .receiver].all Part.isSmall = true)
    (hspoken : (spaced ([Part.words first, .operand, .words "from", .receiver].map
      Part.shape)).isSpoken = true) : (removing first).Shortens := by
  refine pair_shortens hsmall hspoken rfl (Nat.le_refl 4) fun item c => ?_
  have hle := countP_trim_le item
  have hopen : List.countP isBlank "Integer.valueOf(" = 0 := rfl
  have hclose : List.countP isBlank ")" = 0 := rfl
  rw [countP_call c "remove" _ rfl]
  split
  · rw [List.countP_append, List.countP_append, hopen, hclose]
    omega
  · omega

theorem setting_shortens
    (hsmall : [Part.words first, .operand, .words "in", .receiver, .words "to", .tail].all
      Part.isSmall = true)
    (hspoken : (spaced ([Part.words first, .operand, .words "in", .receiver, .words "to",
      .tail].map Part.shape)).isSpoken = true) : (setting first).Shortens := by
  refine triple_shortens hsmall hspoken rfl (Nat.le_succ 5) fun index c value => ?_
  have hle := countP_call_two c "set" index value rfl
  omega

theorem inserting_shortens : inserting.Shortens := by
  refine triple_shortens rfl (by decide +kernel) rfl (by decide) fun item c index => ?_
  have hle := countP_call_two c "add" index item rfl
  omega

theorem putting_shortens : putting.Shortens := by
  refine triple_shortens rfl (by decide +kernel) rfl (by decide) fun key value c => ?_
  have hle := countP_call_two c "put" key value rfl
  omega

/-- An operation on a receiver alone: with a single word it is a call on the receiver or with the
receiver. -/
def IsReceiving (op : Operation) : Prop :=
  ∃ words ∈ receiverPhrases, ∃ build, op = onReceiver (Text.join " " words) build ∧
    (words.length = 1 → ∃ method, IsName method ∧
      (build = (call · method []) ∨ build = call "Collections" method))

theorem isReceiving_of_build {words method : Text} {build : Text → Text}
    (hw : words.splitAt ' ' ∈ receiverPhrases) (hm : IsName method)
    (hbuild : build = (call · method []) ∨ build = call "Collections" method) :
    (onReceiver words build).IsReceiving := by
  have hjoin : Text.join " " (words.splitAt ' ') = words := Text.join_splitAt ' ' words
  refine ⟨words.splitAt ' ', hw, build, ?_, fun _ => ⟨method, hm, hbuild⟩⟩
  rw [hjoin]

theorem asking_isReceiving {words method : Text} (hw : words.splitAt ' ' ∈ receiverPhrases)
    (hne : method ≠ []) (hm : method.all isWord = true) : (asking words method).IsReceiving :=
  isReceiving_of_build hw ⟨hne, hm⟩ (.inl rfl)

theorem applying_isReceiving {words method : Text} (hw : words.splitAt ' ' ∈ receiverPhrases)
    (hne : method ≠ []) (hm : method.all isWord = true) : (applying words method).IsReceiving :=
  isReceiving_of_build hw ⟨hne, hm⟩ (.inr rfl)

/-- A phrase has operands, or is about a receiver alone. -/
theorem phrases_cases : ∀ op ∈ phrases, op.Shortens ∨ op.IsReceiving := by
  have hadding (place method : Text) : (adding place method).shape.firstWord? = none := rfl
  have hstoring : storing.shape.firstWord? = none := rfl
  have hfirst : (onReceiver "first in" fun c => call c "get" "0").IsReceiving :=
    ⟨["first", "in"], by decide, _, rfl, fun h => absurd h (by decide)⟩
  have hlast :
      (onReceiver "last in" fun c => call c "get" (call c "size" [] ++ " - 1")).IsReceiving :=
    ⟨["last", "in"], by decide, _, rfl, fun h => absurd h (by decide)⟩
  have hall : ∀ op ∈ all, op.shape.firstWord?.isSome = true → op.Shortens ∨ op.IsReceiving := by
    simp only [all, removals, sizes, searches, placements, arrangements, List.forall_mem_append,
      List.forall_mem_cons, List.not_mem_nil, false_imp_iff, implies_true, and_true, hadding,
      hstoring, Option.isSome_none, Bool.false_eq_true, true_and, hfirst, hlast,
      inserting_shortens, putting_shortens, true_or, or_true]
    simp (disch := decide +kernel) only [passing_shortens, removing_shortens, setting_shortens,
      asking_isReceiving, applying_isReceiving, true_or, or_true, implies_true, and_self]
  intro op hop
  obtain ⟨hop, hword⟩ := List.mem_filter.1 hop
  exact hall op hop hword

end Operation

end JavaSketch
