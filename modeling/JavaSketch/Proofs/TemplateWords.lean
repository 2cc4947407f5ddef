import JavaSketch.Proofs.Headings
import JavaSketch.Proofs.Joining
import JavaSketch.Proofs.Openings
import JavaSketch.Proofs.Sections
import JavaSketch.Proofs.Simulation

namespace JavaSketch

theorem lowerRules_skip_blanks : ∀ r ∈ lowerRules, ∀ span ∈ blankSpans,
    span.2 < r.first ∨ r.last < span.1 := by
  decide +kernel

theorem caseTwins_skip_blanks : ∀ twin ∈ caseTwins, inSpans blankSpans twin.2 = false := by
  decide +kernel

theorem ascii_blank_sign :
    ∀ n < 0x80, isBlank (Char.ofNat n) = true → isSign (Char.ofNat n) = true := by
  decide

theorem ascii_alpha_lower : ∀ n < 0x80, (Char.ofNat n).toLower.toNat < 0x80 := by
  decide

variable {c d : Char} {k t : Text}

theorem lowerChar_alpha_lt (h : c.isAlpha = true) : (lowerChar c).toNat < 0x80 := by
  have hc := toNat_lt_of_isAlpha h
  rw [lowerChar, if_pos hc, ← Char.ofNat_toNat c]
  exact ascii_alpha_lower _ hc

theorem lowerChar_blank (hd : isBlank d = true) : lowerChar d = d := by
  rw [lowerChar]
  split_ifs with h
  · rw [← Char.ofNat_toNat d] at hd ⊢
    exact ascii_lower_sign _ h (ascii_blank_sign _ h hd)
  · have hnone : lowerRules.find? (·.covers d.toNat) = none := by
      rw [List.find?_eq_none]
      intro r hr hcovers
      obtain ⟨span, hspan, hin⟩ := List.any_eq_true.1 hd
      have hskip := lowerRules_skip_blanks r hr span hspan
      simp only [CaseRule.covers, Bool.and_eq_true, decide_eq_true_eq] at hcovers hin
      omega
    rw [applyRules, hnone]
    exact Char.ofNat_toNat d

theorem isSign_of_isBlank (hd : isBlank d = true) (h : d.toNat < 0x80) : isSign d = true := by
  rw [← Char.ofNat_toNat d] at hd ⊢
  exact ascii_blank_sign _ h hd

theorem not_isSign_of_isAlpha (h : c.isAlpha = true) : isSign c = false := by
  rw [isSign, h, Bool.not_true, Bool.and_false]

theorem not_isBlank_of_isAlpha (h : c.isAlpha = true) : isBlank c = false := by
  rw [Bool.eq_false_iff]
  intro hb
  have hs := isSign_of_isBlank hb (toNat_lt_of_isAlpha h)
  rw [not_isSign_of_isAlpha h] at hs
  cases hs

theorem sameLetter_blank (hc : c.isAlpha = true) (hd : isBlank d = true) :
    sameLetter c d = false := by
  have hne : lowerChar c ≠ d := by
    rintro rfl
    have hs := isSign_of_isBlank hd (lowerChar_alpha_lt hc)
    rw [eq_of_lowerChar hs, not_isSign_of_isAlpha hc] at hs
    cases hs
  have htwin : caseTwins.contains ((lowerChar c).toNat, d.toNat) = false := by
    rw [Bool.eq_false_iff]
    intro h
    have hblank := caseTwins_skip_blanks _ (List.contains_iff_mem.1 h)
    rw [← isBlank, hd] at hblank
    cases hblank
  rw [sameLetter, lowerChar_blank hd, htwin, beq_eq_false_iff_ne.2 hne]
  rfl

theorem sameLetter_self (c : Char) : sameLetter c c = true := by
  rw [sameLetter, beq_self_eq_true, Bool.true_or]

namespace Text

/-- A word that is made of letters. -/
structure IsLetters (k : Text) : Prop where
  ne_nil : k ≠ []
  alpha : ∀ c ∈ k, c.isAlpha = true

namespace IsLetters

theorem blank_notMem (h : IsLetters k) : ' ' ∉ k := by
  intro hm
  cases h.alpha ' ' hm

theorem head_not_blank (h : IsLetters k) (t : Text) : ∀ c ∈ (k ++ t).head?, isBlank c = false := by
  intro c hc
  rw [List.head?_append_of_ne_nil _ h.ne_nil] at hc
  exact not_isBlank_of_isAlpha (h.alpha c (List.mem_of_head? hc))

theorem dropWhile_reverse (h : IsLetters k) : k.reverse.dropWhile isBlank = k.reverse := by
  apply trimLeft_of_head
  intro c hc
  exact not_isBlank_of_isAlpha (h.alpha c (List.mem_reverse.1 (List.mem_of_head? hc)))

theorem trim_append (h : IsLetters k) (t : Text) : trim (k ++ t) = k ++ t.trimRight := by
  rw [trim, trimLeft_of_head (h.head_not_blank t), trimRight, trimRight, dropEndWhile, dropEndWhile,
    List.reverse_append, List.dropWhile_append, h.dropWhile_reverse]
  split_ifs with he
  · rw [List.isEmpty_iff.1 he, List.reverse_reverse]
    exact (List.append_nil k).symm
  · rw [List.reverse_append, List.reverse_reverse]

theorem lowerAfter_append (h : ∀ c ∈ k, c.isAlpha = true) (before t : Text) :
    lowerAfter before (k ++ t) = k.map lowerChar ++ lowerAfter (k.reverse ++ before) t := by
  induction k generalizing before with
  | nil => rfl
  | cons c k ih =>
    obtain ⟨hc, hk⟩ := List.forall_mem_cons.1 h
    have hsigma : c ≠ 'Σ' := by
      rintro rfl
      cases hc
    have hdotted : c ≠ 'İ' := by
      rintro rfl
      cases hc
    rw [List.cons_append, lowerAfter, if_neg hsigma, if_neg hdotted, ih hk, List.map_cons,
      List.reverse_cons, List.append_assoc]
    rfl

theorem includes_lower (h : IsLetters k) (t : Text) : (lower (k ++ t)).includes k.lower = true := by
  have hword := lowerAfter_append h.alpha [] []
  have hline := lowerAfter_append h.alpha [] t
  rw [List.append_nil, lowerAfter, List.append_nil] at hword
  apply includes_iff.2
  rw [lower, lower, hline, hword]
  exact (List.prefix_append _ _).isInfix

end IsLetters

end Text

open Text (IsLetters)

section Openings

variable {word word' tail name : Text}

theorem Spells.unique {other : Text} (h : Spells word tail name) (ho : Spells word tail other) :
    name = other := by
  have hn := Pattern.find?_spelled h
  rw [Pattern.find?_spelled ho] at hn
  cases hn
  rfl

theorem Spells.head_blank (h : Spells [] tail name) :
    ∃ c rest, tail = c :: rest ∧ isBlank c = true := by
  cases h with
  | @name gap _ rest blanks apart named ends =>
    cases gap with
    | nil => exact absurd rfl apart
    | cons c gap => exact ⟨c, _, rfl, blanks c List.mem_cons_self⟩

theorem spells_append (h : Spells [] tail name) (k : Text) : Spells k (k ++ tail) name := by
  induction k with
  | nil => exact h
  | cons c k ih => exact .letter (sameLetter_self c) ih

theorem Spells.of_letters {other : Text} (h : Spells word (k ++ tail) other)
    (hs : Spells [] tail name) (hw : ∀ c ∈ word, c.isAlpha = true)
    (hk : ∀ c ∈ k, c.isAlpha = true) : other = name := by
  obtain ⟨b, rest, rfl, hb⟩ := hs.head_blank
  generalize hl : k ++ b :: rest = line at h
  induction h generalizing k with
  | @name gap other rest' blanks apart named ends =>
    cases k with
    | nil =>
      have ho := Spells.name blanks apart named ends
      rw [← hl] at ho
      exact ho.unique hs
    | cons c k =>
      cases gap with
      | nil => exact absurd rfl apart
      | cons d gap =>
        obtain ⟨rfl, -⟩ := List.cons.inj hl
        have hblank := blanks c List.mem_cons_self
        rw [not_isBlank_of_isAlpha (hk c List.mem_cons_self)] at hblank
        cases hblank
  | @letter word s other c d same more ih =>
    obtain ⟨hc, hw⟩ := List.forall_mem_cons.1 hw
    cases k with
    | nil =>
      cases hl
      rw [sameLetter_blank hc hb] at same
      cases same
    | cons e k =>
      cases hl
      exact ih hw (List.forall_mem_cons.1 hk).2 rfl

end Openings

namespace Vocabulary

/-- The template words are made of letters; none of them names a section of other members, and no
line can begin with one of them and also with a mark. -/
structure Regular (v : Vocabulary) : Prop where
  ordinary : v.Ordinary
  filled : [] ∉ v.templateWords
  marks : v.MarksApart
  sections : ∀ word ∈ v.templateWords, ∀ name ∈ ownSections word, name ∉ v.abstractSections

theorem standard_regular : standard.Regular where
  ordinary := by decide
  filled := by decide
  marks := standard_marksApart
  sections := by decide

variable {v : Vocabulary} {k k' tail name : Text}

theorem Regular.isLetters (hv : v.Regular) (hk : k ∈ v.templateWords) : IsLetters k where
  ne_nil h := hv.filled (h ▸ hk)
  alpha := List.all_eq_true.1 (hv.ordinary k hk).2

/-- Every template word opens a template with the name behind it. -/
theorem Regular.templateName? (hv : v.Regular) (hk : k ∈ v.templateWords)
    (hs : Spells [] tail name) (ht : Text.trim (k ++ tail) = k ++ tail) :
    v.templateName? (k ++ tail) = some name := by
  have hsome : (v.templateName? (k ++ tail)).isSome = true := by
    rw [Vocabulary.templateName?, List.findSome?_isSome_iff]
    refine ⟨k, hk, ?_⟩
    rw [ht, nameAfter?, Pattern.find?_spelled (spells_append hs k)]
    rfl
  obtain ⟨other, ho⟩ := Option.isSome_iff_exists.1 hsome
  obtain ⟨before, word, after, hwords, hword, -⟩ := templateName?_eq_some.1 ho
  rw [ht] at hword
  have hmem : word ∈ v.templateWords := hwords ▸ List.mem_append_right _ List.mem_cons_self
  rw [ho, hword.of_letters hs (hv.isLetters hmem).alpha (hv.isLetters hk).alpha]

end Vocabulary

namespace Header

variable {v : Vocabulary} {k k' tail name : Text}

/-- Clauses are looked for behind the template word. -/
theorem clause?_append (hk : IsLetters k) (words : List Text) (s : Text) :
    clause? words (k ++ s) =
      (words.findSome? fun word => Text.cut? (" " ++ word ++ " ") s).map
        fun res => (k ++ res.1.trimRight, res.2.trim) := by
  have hcut (word : Text) : Text.cut? (" " ++ word ++ " ") (k ++ s) =
      (Text.cut? (" " ++ word ++ " ") s).map fun res => (k ++ res.1, res.2) :=
    Text.cut?_append hk.blank_notMem
  have hfound : (words.findSome? fun word => Text.cut? (" " ++ word ++ " ") (k ++ s)) =
      (words.findSome? fun word => Text.cut? (" " ++ word ++ " ") s).map
        fun res => (k ++ res.1, res.2) := by
    simp only [hcut]
    exact (List.map_findSome? ..).symm
  rw [clause?, hfound, Option.map_map]
  apply congrArg (Option.map · _)
  funext res
  exact congrArg (·, res.2.trim) (hk.trim_append res.1)

theorem clauses_append (hk : IsLetters k) (hk' : IsLetters k') (v : Vocabulary) (s : Text) :
    clauses v (k' ++ s) = clauses v (k ++ s) := by
  rw [clauses, clauses, clause?_append hk, clause?_append hk']
  cases v.parentWords.findSome? fun word => Text.cut? (" " ++ word ++ " ") s with
  | none =>
    dsimp only [Option.map_none]
    rw [clause?_append hk, clause?_append hk']
    cases v.interfaceWords.findSome? fun word => Text.cut? (" " ++ word ++ " ") s with
    | none => rfl
    | some found => rfl
  | some parts =>
    dsimp only [Option.map_some]
    have hinterfaces := clause?_append hk v.interfaceWords parts.1.trimRight
    have hinterfaces' := clause?_append hk' v.interfaceWords parts.1.trimRight
    generalize v.interfaceWords.findSome? (fun word =>
      Text.cut? (" " ++ word ++ " ") parts.1.trimRight) = found at hinterfaces hinterfaces'
    rcases clause? v.interfaceWords parts.2.trim with - | ⟨parent, interfaces⟩
    · dsimp only
      rw [hinterfaces, hinterfaces']
      cases parts.2.trim <;> cases found <;> rfl
    · dsimp only
      rw [hinterfaces, hinterfaces']
      cases parent <;> cases found <;> rfl

theorem read_of_unmarked {line : Text} (h : ∀ m ∈ "interface".toList :: v.abstractWords,
    line.trim.startsWith (m ++ " ") = false) : read v line =
      { parent := (clauses v line.trim).1, interfaces := (clauses v line.trim).2 } := by
  have habstract : dropAbstract v line.trim = (false, line.trim) := by
    have hnone : (v.abstractWords.find? fun word => line.trim.startsWith (word ++ " ")) = none := by
      rw [List.find?_eq_none]
      intro m hm
      exact Bool.eq_false_iff.1 (h m (List.mem_cons_of_mem _ hm))
    rw [dropAbstract, hnone]
  have hinterface : dropInterface line.trim = (false, line.trim) :=
    if_neg (Bool.eq_false_iff.1 (h _ List.mem_cons_self))
  rw [read, habstract]
  dsimp only
  rw [hinterface]

theorem read_append (hv : v.Regular) (hk : k ∈ v.templateWords) (hk' : k' ∈ v.templateWords)
    (hs : Spells [] tail name) (ht : Text.trim (k ++ tail) = k ++ tail)
    (ht' : Text.trim (k' ++ tail) = k' ++ tail) : read v (k' ++ tail) = read v (k ++ tail) := by
  have hunmarked {word : Text} (hw : word ∈ v.templateWords)
      (ht : Text.trim (word ++ tail) = word ++ tail) {m : Text}
      (hm : m ∈ "interface".toList :: v.abstractWords) :
      (Text.trim (word ++ tail)).startsWith (m ++ " ") = false :=
    hv.marks.unmarked (Vocabulary.templateName?_eq_some.1 (hv.templateName? hw hs ht)) hm
  rw [read_of_unmarked fun m => hunmarked hk ht, read_of_unmarked fun m => hunmarked hk' ht', ht,
    ht',
    clauses_append (hv.isLetters hk) (hv.isLetters hk')]

end Header

namespace Vocabulary

variable {v : Vocabulary} {k k' tail name line : Text} {kind : Section}

/-- A template word that is before the given one in the list occurs in the line. -/
def Hides (v : Vocabulary) (k line : Text) : Prop :=
  ∃ word ∈ v.templateWords.takeWhile (· ≠ k), line.lower.includes word.lower = true

/-- The sections that are named with the word are those of static members in a template with this
opening line. -/
def Recognised (v : Vocabulary) (k line : Text) : Prop :=
  k ∈ ["template".toList, "static".toList, "class".toList] ∨ ¬v.Hides k line

instance (v : Vocabulary) (k line : Text) : Decidable (v.Recognised k line) :=
  inferInstanceAs (Decidable (_ ∨ ¬∃ word ∈ v.templateWords.takeWhile (· ≠ k), _))

theorem templateWordIn_mem (hk : k ∈ v.templateWords) (hi : line.lower.includes k.lower = true) :
    v.templateWordIn line ∈ v.templateWords := by
  rw [Synonyms.templateWordIn]
  cases hf : v.templateWords.find? fun word => line.lower.includes word.lower with
  | none => exact absurd hi (List.find?_eq_none.1 hf k hk)
  | some word => exact List.mem_of_find?_eq_some hf

/-- The word itself counts exactly if no word before it occurs. -/
theorem templateWordIn_eq_iff (hk : k ∈ v.templateWords) (hi : line.lower.includes k.lower = true) :
    v.templateWordIn line = k ↔ ¬v.Hides k line := by
  obtain ⟨before, after, hwords, hnot⟩ := List.eq_append_cons_of_mem hk
  have htake : v.templateWords.takeWhile (· ≠ k) = before := by
    have hbefore : ∀ word ∈ before, decide (word ≠ k) = true := by
      intro word hw
      rw [decide_eq_true_eq]
      rintro rfl
      exact hnot hw
    rw [hwords, List.takeWhile_append_of_pos hbefore, List.takeWhile_cons_of_neg (by simp),
      List.append_nil]
  rw [Synonyms.templateWordIn, Hides, htake, hwords, List.find?_append]
  cases hf : before.find? fun word => line.lower.includes word.lower with
  | none =>
    have hnone : ¬∃ word ∈ before, line.lower.includes word.lower = true := by
      rintro ⟨word, hw, ho⟩
      exact List.find?_eq_none.1 hf word hw ho
    have hfirst : ((k :: after).find? fun word => line.lower.includes word.lower) = some k :=
      List.find?_cons_of_pos hi
    rw [Option.none_or, hfirst]
    exact iff_of_true rfl hnone
  | some word =>
    have hword := List.mem_of_find?_eq_some hf
    have hne : word ≠ k := by
      rintro rfl
      exact hnot hword
    have hfound := List.find?_some hf
    exact iff_of_false hne (not_not_intro ⟨word, hword, hfound⟩)

/-- The words that name sections of static members in a template with the given word. -/
def staticWords (word : Text) : List Text := [word, "template", "static", "class"]

theorem vars_ne_methods (a b : Text) : a ++ " vars".toList ≠ b ++ " methods".toList := by
  intro h
  have hr := congrArg List.reverse h
  rw [List.reverse_append, List.reverse_append] at hr
  cases hr

theorem mem_map_append {a part : Text} {words : List Text} :
    a ++ part ∈ words.map (· ++ part) ↔ a ∈ words := by
  rw [List.mem_map]
  constructor
  · rintro ⟨word, hw, he⟩
    rw [← List.append_cancel_right he]
    exact hw
  · intro h
    exact ⟨a, h, rfl⟩

theorem vars_mem_iff (k word : Text) :
    k ++ " vars".toList ∈ staticVarSections word ↔ k ∈ staticWords word :=
  @mem_map_append k " vars".toList (staticWords word)

theorem methods_mem_iff (k word : Text) :
    k ++ " methods".toList ∈ staticMethodSections word ↔ k ∈ staticWords word :=
  @mem_map_append k " methods".toList (staticWords word)

theorem vars_notMem (k word : Text) : k ++ " vars".toList ∉ staticMethodSections word := by
  have hsections :
      staticMethodSections word = (staticWords word).map (· ++ " methods".toList) := rfl
  rw [hsections, List.mem_map]
  rintro ⟨other, -, ho⟩
  exact vars_ne_methods k other ho.symm

theorem methods_notMem (k word : Text) : k ++ " methods".toList ∉ staticVarSections word := by
  have hsections : staticVarSections word = (staticWords word).map (· ++ " vars".toList) := rfl
  rw [hsections, List.mem_map]
  rintro ⟨other, -, ho⟩
  exact vars_ne_methods other k ho

/-- Under the heading of its own variables, a template has static members exactly if it knows the
word. -/
theorem Regular.wordKind?_vars (hv : v.Regular) (hk : k ∈ v.templateWords) (word : Text) :
    Edition.wordKind? v.abstractSections word (k ++ " vars") =
      if k ∈ staticWords word then some .staticVars else none := by
  have hvars : k ++ " vars".toList ≠ "instance vars" := by
    intro h
    exact (hv.ordinary k hk).1 ((List.append_left_inj " vars".toList).1 h)
  have hmethods : k ++ " vars".toList ≠ "instance methods" := vars_ne_methods k "instance"
  have hconstructor : k ++ " vars".toList ≠ "constructor" := by
    intro h
    have hr := congrArg List.reverse h
    rw [List.reverse_append] at hr
    cases hr
  have habstract : k ++ " vars".toList ∉ v.abstractSections :=
    hv.sections k hk _ List.mem_cons_self
  simp only [Edition.wordKind?, TemplateRules.memberKind?, List.contains_iff_mem, vars_mem_iff,
    hvars, hconstructor, vars_notMem, hmethods, habstract, ↓reduceIte]

theorem Regular.wordKind?_methods (hv : v.Regular) (hk : k ∈ v.templateWords) (word : Text) :
    Edition.wordKind? v.abstractSections word (k ++ " methods") =
      if k ∈ staticWords word then some .staticMethods else none := by
  have hvars : k ++ " methods".toList ≠ "instance vars" := (vars_ne_methods "instance" k).symm
  have hmethods : k ++ " methods".toList ≠ "instance methods" := by
    intro h
    exact (hv.ordinary k hk).1 ((List.append_left_inj " methods".toList).1 h)
  have hconstructor : k ++ " methods".toList ≠ "constructor" := by
    intro h
    have hr := congrArg List.reverse h
    rw [List.reverse_append] at hr
    cases hr
  have habstract : k ++ " methods".toList ∉ v.abstractSections :=
    hv.sections k hk _ (List.mem_cons_of_mem _ List.mem_cons_self)
  simp only [Edition.wordKind?, TemplateRules.memberKind?, List.contains_iff_mem, methods_mem_iff,
    hvars, hconstructor, methods_notMem, hmethods, habstract, ↓reduceIte]

theorem wordKind?_of_notMem {word word' : Text} (h : name ∉ ownSections word)
    (h' : name ∉ ownSections word') : Edition.wordKind? v.abstractSections word name =
      Edition.wordKind? v.abstractSections word' name := by
  have hvars : ∀ {w : Text}, name ∉ ownSections w → (staticVarSections w).contains name =
      ["template vars".toList, "static vars".toList, "class vars".toList].contains name := by
    intro w hw
    have hne : name ≠ w ++ " vars".toList := fun he => hw (he ▸ List.mem_cons_self)
    rw [staticVarSections, List.contains_cons, beq_eq_false_iff_ne.2 hne, Bool.false_or]
  have hmethods : ∀ {w : Text}, name ∉ ownSections w → (staticMethodSections w).contains name =
      ["template methods".toList, "static methods".toList, "class methods".toList].contains
        name := by
    intro w hw
    have hne : name ≠ w ++ " methods".toList :=
      fun he => hw (he ▸ List.mem_cons_of_mem _ List.mem_cons_self)
    rw [staticMethodSections, List.contains_cons, beq_eq_false_iff_ne.2 hne, Bool.false_or]
  rw [Edition.wordKind?, Edition.wordKind?, TemplateRules.memberKind?, TemplateRules.memberKind?,
    hvars h, hvars h', hmethods h, hmethods h']

theorem recognised_iff (hk : k ∈ v.templateWords) (hi : line.lower.includes k.lower = true) :
    v.Recognised k line ↔ k ∈ staticWords (v.templateWordIn line) := by
  rw [staticWords, List.mem_cons, eq_comm, templateWordIn_eq_iff hk hi, or_comm]
  rfl

/-- The line opens no section that is named with a template word. -/
def Free (v : Vocabulary) (line : Text) : Prop :=
  ∀ name, Template.headingAtFour? line line.trim = some name →
    ∀ word ∈ v.templateWords, name ∉ ownSections word

/-- The second line is the first one; where it opens a section that is named with the template word
`k`, the second one has `k'` in its place. -/
inductive Renamed (v : Vocabulary) (k k' : Text) : Text → Text → Prop
  | same {line : Text} (free : v.Free line) : Renamed v k k' line line
  | heading {part line line' : Text} (own : part = " vars".toList ∨ part = " methods".toList)
    (alike : Text.Alike (headingLine (k ++ part)) line)
    (alike' : Text.Alike (headingLine (k' ++ part)) line') : Renamed v k k' line line'

theorem mem_ownSections {part : Text} (hp : part = " vars".toList ∨ part = " methods".toList) :
    k ++ part ∈ ownSections k := by
  rcases hp with rfl | rfl
  · exact List.mem_cons_self
  · exact List.mem_cons_of_mem _ List.mem_cons_self

/-- The line is the heading of a section that is named with the word. -/
structure Heads (k part line : Text) : Prop where
  trim : line.trim = k ++ part ++ ":"
  inner : Template.isUnindented line = false
  idle : isIdle line.trim = false
  heading : Template.headingAtFour? line line.trim = some (k ++ part)

theorem heads_of_alike {part : Text} (hk : IsLetters k)
    (hp : part = " vars".toList ∨ part = " methods".toList)
    (ha : Text.Alike (headingLine (k ++ part)) line) : Heads k part line := by
  have hname : Text.trim (k ++ part) = k ++ part := by
    rw [hk.trim_append]
    rcases hp with rfl | rfl <;> rfl
  have htrim : line.trim = k ++ part ++ ":" := ha.trim_eq.trans (trim_headingLine hname)
  have hne : (headingLine (k ++ part)).trim ≠ [] := by
    rw [trim_headingLine hname]
    exact List.append_ne_nil_of_right_ne_nil _ (List.cons_ne_nil _ _)
  have hindent : line.indent = 4 := (ha.indent_eq hne).trans (indent_headingLine hname)
  constructor
  case trim => exact htrim
  case inner =>
    have hspaces : line.startsWith "    " = true := by
      rw [ha.startsWith_eq hne rfl]
      rfl
    rw [Template.isUnindented, hspaces, Bool.not_true, Bool.and_false, Bool.false_and]
  case idle =>
    cases k with
    | nil => exact absurd rfl hk.ne_nil
    | cons c k =>
      have hslash : ('/' == c) = false := by
        rw [beq_eq_false_iff_ne]
        rintro rfl
        cases hk.alpha '/' List.mem_cons_self
      simp [htrim, isIdle, Text.startsWith, List.isPrefixOf, hslash]
  case heading =>
    have hlast : (k ++ part ++ ":".toList).dropLast = k ++ part := List.dropLast_concat
    have hcolon : Text.endsWith (k ++ part ++ ":".toList) ":" = true :=
      List.isSuffixOf_iff_suffix.2 (List.suffix_append _ _)
    rw [Template.headingAtFour?, hindent, htrim, hcolon, hlast, hname]
    rfl

end Vocabulary

theorem Template.isHeading_of_headingAtFour? {line name : Text} {sections : List Text}
    (h : headingAtFour? line line.trim = some name) :
    Vocabulary.isHeading sections line.trim line.indent = sections.contains name := by
  rw [headingAtFour?] at h
  split_ifs at h with hcolon
  cases h
  rw [Vocabulary.isHeading, hcolon, Bool.true_and]

namespace Body

variable {v : Vocabulary} {k k' : Text} {convert : Text → Except Fault Text} {st : State}
  {lines lines' : List Text}

/-- Bodies end at the headings of all template words. -/
theorem readFrom_renamed (hv : v.Regular) (hk : k ∈ v.templateWords) (hk' : k' ∈ v.templateWords)
    (hc : st.inComment = false) (h : List.Forall₂ (v.Renamed k k') lines lines') :
    readFrom (Edition.openAccessors v).bodyRules convert st lines' =
      readFrom (Edition.openAccessors v).bodyRules convert st lines := by
  have hr : (Edition.openAccessors v).bodyRules.IsPlain := (Edition.openAccessors_blind v).body
  have hstop {word part line : Text} (hw : word ∈ v.templateWords)
      (hp : part = " vars".toList ∨ part = " methods".toList)
      (ha : Text.Alike (Vocabulary.headingLine (word ++ part)) line) :
      ∀ st : State, st.inComment = false →
        step (Edition.openAccessors v).bodyRules convert st line = .ok .stop := by
    intro st hc
    have hh := Vocabulary.heads_of_alike (hv.isLetters hw) hp ha
    apply step_ends hr hc
    · rw [hh.trim]
      exact List.append_ne_nil_of_right_ne_nil _ (List.cons_ne_nil _ _)
    · have hheading : Vocabulary.isHeading v.memberSections line.trim line.indent = true := by
        rw [Template.isHeading_of_headingAtFour? hh.heading, List.contains_iff_mem]
        exact Vocabulary.mem_memberSections_of_own hw (Vocabulary.mem_ownSections hp)
      have hends : (Edition.openAccessors v).bodyRules.ends line.trim line.indent =
        .ok (Vocabulary.isHeading v.memberSections line.trim line.indent ||
          v.opensOuter line.trim line.indent) := rfl
      rw [StopsAt, hends, hheading, Bool.true_or]
      exact .inl rfl
  induction h generalizing st with
  | nil => rfl
  | @cons line line' rest rest' hline hrest ih =>
    cases hline with
    | same free =>
      cases hs : step (Edition.openAccessors v).bodyRules convert st line with
      | error f =>
        rw [readFrom, readFrom, hs]
        rfl
      | ok res =>
        cases res with
        | stop => rw [readFrom_stop hs, readFrom_stop hs]
        | emit entries next =>
          rw [readFrom_emit hs, readFrom_emit hs, ih (inComment_of_step hr hc hs)]
    | heading own alike alike' =>
      rw [readFrom_stop (hstop hk own alike st hc), readFrom_stop (hstop hk' own alike' st hc)]

end Body

/-- On both texts the reader gives the same. -/
def Agrees {α : Type} (lines lines' : List Text) (read : List Text → Except Fault (α × Nat)) :
    Prop :=
  read lines = read lines'

theorem Agrees.compositional (lines lines' : List Text) :
    Compositional fun {_} => Agrees lines lines' where
  const _ := rfl
  bind h := congrArg _ (funext h)
  andThen h _ := congrArg (· >>= _) h

namespace Edition

variable {v : Vocabulary} {k k' tail name opening opening' line line' : Text}
  {heading heading' : Option Text} {lines lines' rest rest' : List Text}

theorem heading?_eq (v : Vocabulary) (opening line s : Text) :
    ((openAccessors v).templateRules opening).heading? line s = Template.headingAtFour? line s :=
  rfl

theorem ends_of_indented (h : Template.isUnindented line = false) :
    ((openAccessors v).templateRules opening).ends line line.trim = .ok false := by
  have hends := endsTemplate_eq v line line.trim
  rw [h, Bool.false_and] at hends
  exact congrArg Except.ok hends

/-- Under the two headings there are members of the same kind. -/
def SameKind (v : Vocabulary) (opening opening' : Text) (heading heading' : Option Text) : Prop :=
  ∀ indent, (openAccessors v).kind? opening heading indent =
    (openAccessors v).kind? opening' heading' indent

theorem sameKind_none : SameKind v opening opening' none none := by
  intro indent
  simp only [openAccessors, atEight, Option.bind_none]

theorem sameKind_of_wordKind? {name name' : Text}
    (h : wordKind? v.abstractSections (v.templateWordIn opening) name =
      wordKind? v.abstractSections (v.templateWordIn opening') name') :
    SameKind v opening opening' (some name) (some name') := by
  intro indent
  simp only [openAccessors, atEight, Option.bind_some, h]

theorem readMember_sameKind (h : SameKind v opening opening' heading heading') (t : Template)
    (line : Text) (rest : List Text) :
    Template.readMember ((openAccessors v).templateRules opening) t heading line rest =
      Template.readMember ((openAccessors v).templateRules opening') t heading' line rest := by
  have hkind : ((openAccessors v).templateRules opening).kind? heading line.indent =
    ((openAccessors v).templateRules opening').kind? heading' line.indent := h line.indent
  rw [Template.readMember, Template.readMember, hkind]
  rfl

theorem readMember_renamed (hv : v.Regular) (hk : k ∈ v.templateWords) (hk' : k' ∈ v.templateWords)
    (h : List.Forall₂ (v.Renamed k k') rest rest') (opening : Text) (t : Template)
    (heading : Option Text) (line : Text) :
    Template.readMember ((openAccessors v).templateRules opening) t heading line rest' =
      Template.readMember ((openAccessors v).templateRules opening) t heading line rest := by
  have hbody : Agrees rest' rest (openAccessors v).readBody :=
    Body.readFrom_renamed hv hk hk' rfl h
  exact (Agrees.compositional rest' rest).readMember hbody (openAccessors_blind v).kind opening t
    heading line

section Words

variable (hv : v.Regular) (hk : k ∈ v.templateWords) (hk' : k' ∈ v.templateWords)

include hv hk

theorem readTemplate_eq (ho : opening.trim = k ++ tail) (hs : Spells [] tail name) :
    (openAccessors v).readTemplate opening lines =
      Template.readMembers ((openAccessors v).templateRules (k ++ tail))
        (.ofHeader name (Header.read v (k ++ tail))) none lines := by
  have ht : Text.trim (k ++ tail) = k ++ tail := by rw [← ho, Text.trim_trim]
  have hname : nameWith v (k ++ tail) = .ok name := by
    rw [nameWith, hv.templateName? hk hs ht]
  have hread : (openAccessors v).readTemplate opening lines =
      nameWith v opening.trim >>= fun name =>
        Template.readMembers ((openAccessors v).templateRules opening.trim)
          (.ofHeader name (Header.read v opening.trim)) none lines := rfl
  rw [hread, ho, hname]
  rfl

theorem takes_probe (t : Template) :
    ∃ u, Template.Takes ((openAccessors v).templateRules (k ++ tail)) t none
        [Vocabulary.headingLine (k ++ " vars"), "        x as int"] u 2 ∧
      (u.staticVars = t.staticVars ↔ ¬v.Recognised k (k ++ tail)) := by
  have hheads : Vocabulary.Heads k " vars" (Vocabulary.headingLine (k ++ " vars")) :=
    Vocabulary.heads_of_alike (hv.isLetters hk) (.inl rfl) (.refl _)
  have hkind : ((openAccessors v).templateRules (k ++ tail)).kind? (some (k ++ " vars")) 8 =
      some (if v.Recognised k (k ++ tail) then .staticVars else .accessors) := by
    have hword := hv.wordKind?_vars hk (v.templateWordIn (k ++ tail))
    simp only [← Vocabulary.recognised_iff hk ((hv.isLetters hk).includes_lower tail)] at hword
    simp only [templateRules, openAccessors, atEight, Option.bind_some, hword, Nat.lt_irrefl,
      ↓reduceIte]
    split_ifs <;> rfl
  have hmember : ∃ u, Template.readMember ((openAccessors v).templateRules (k ++ tail)) t
      (some (k ++ " vars")) "        x as int" [] = .ok (u, 0) ∧
      (u.staticVars = t.staticVars ↔ ¬v.Recognised k (k ++ tail)) := by
    have hindent : Text.indent "        x as int" = 8 := rfl
    rw [Template.readMember, hindent, hkind]
    by_cases hrec : v.Recognised k (k ++ tail)
    · have hfield : ((openAccessors v).templateRules (k ++ tail)).field true "        x as int" =
        .ok (some ⟨"x", "int", .pack, none, true⟩) := rfl
      simp only [if_pos hrec, hfield]
      refine ⟨_, rfl, iff_of_false ?_ (not_not_intro hrec)⟩
      intro h
      cases List.append_right_eq_self.1 h
    · simp only [if_neg hrec]
      exact ⟨_, rfl, iff_of_true rfl hrec⟩
  have hidle : isIdle (Text.trim "        x as int") = false := by decide +kernel
  have hinner : Template.isUnindented "        x as int" = false := by decide +kernel
  have hnone : ((openAccessors v).templateRules (k ++ tail)).heading? "        x as int"
      (Text.trim "        x as int") = none := by
    rw [heading?_eq]
    decide +kernel
  have hopens := hheads.heading
  rw [← heading?_eq v (k ++ tail)] at hopens
  obtain ⟨u, hu, hstatic⟩ := hmember
  have hlast : Template.Takes ((openAccessors v).templateRules (k ++ tail)) t
      (some (k ++ " vars")) ["        x as int"] u (0 + 0 + 1) :=
    .member hidle (ends_of_indented hinner) hnone hu .finish
  exact ⟨u, .enter hheads.idle (ends_of_indented hheads.inner) hopens hlast, hstatic⟩

include hk'

theorem sameKind_free (hn : ∀ word ∈ v.templateWords, name ∉ Vocabulary.ownSections word) :
    SameKind v (k ++ tail) (k' ++ tail) (some name) (some name) := by
  have hword := Vocabulary.templateWordIn_mem hk ((hv.isLetters hk).includes_lower tail)
  have hword' := Vocabulary.templateWordIn_mem hk' ((hv.isLetters hk').includes_lower tail)
  exact sameKind_of_wordKind? (Vocabulary.wordKind?_of_notMem (hn _ hword) (hn _ hword'))

theorem sameKind_own {part : Text} (hp : part = " vars".toList ∨ part = " methods".toList)
    (hrec : v.Recognised k (k ++ tail) ↔ v.Recognised k' (k' ++ tail)) :
    SameKind v (k ++ tail) (k' ++ tail) (some (k ++ part)) (some (k' ++ part)) := by
  rw [Vocabulary.recognised_iff hk ((hv.isLetters hk).includes_lower tail),
    Vocabulary.recognised_iff hk' ((hv.isLetters hk').includes_lower tail)] at hrec
  apply sameKind_of_wordKind?
  rcases hp with rfl | rfl
  · rw [hv.wordKind?_vars hk, hv.wordKind?_vars hk', if_congr hrec rfl rfl]
  · rw [hv.wordKind?_methods hk, hv.wordKind?_methods hk', if_congr hrec rfl rfl]

theorem parallel_renamed : Template.Parallel ((openAccessors v).templateRules (k ++ tail))
    ((openAccessors v).templateRules (k' ++ tail))
    (fun line line' => v.Renamed k k' line line' ∧
      ((v.Recognised k (k ++ tail) ↔ v.Recognised k' (k' ++ tail)) ∨ v.Free line))
    Eq (SameKind v (k ++ tail) (k' ++ tail)) where
  idle h := by
    cases h.1 with
    | same free => rfl
    | heading own alike alike' =>
      rw [(Vocabulary.heads_of_alike (hv.isLetters hk) own alike).idle,
        (Vocabulary.heads_of_alike (hv.isLetters hk') own alike').idle]
  ends {line line'} h := by
    cases h.1 with
    | same free => rfl
    | heading own alike alike' =>
      have hinner := (Vocabulary.heads_of_alike (hv.isLetters hk) own alike).inner
      have hinner' := (Vocabulary.heads_of_alike (hv.isLetters hk') own alike').inner
      rw [ends_of_indented hinner, ends_of_indented hinner']
  heading {line line'} h := by
    obtain ⟨hrenamed, hcase⟩ := h
    rw [heading?_eq, heading?_eq]
    cases hrenamed with
    | same free =>
      cases hname : Template.headingAtFour? line line.trim with
      | none => exact .none
      | some name => exact .some (sameKind_free hv hk hk' (free name hname))
    | heading own alike alike' =>
      have hheads := Vocabulary.heads_of_alike (hv.isLetters hk) own alike
      rw [hheads.heading, (Vocabulary.heads_of_alike (hv.isLetters hk') own alike').heading]
      rcases hcase with hrec | hfree
      · exact .some (sameKind_own hv hk hk' own hrec)
      · exact absurd (Vocabulary.mem_ownSections own) (hfree _ hheads.heading k hk)
  member {t u heading heading' line line' rest rest'} ht hh hline hrest hnone := by
    subst ht
    cases hline.1 with
    | same free =>
      rw [InStep.sameCount_eq_iff, readMember_sameKind hh]
      exact (readMember_renamed hv hk hk' (hrest.imp fun _ _ h => h.1) _ _ _ _).symm
    | heading own alike alike' =>
      have hheading := (Vocabulary.heads_of_alike (hv.isLetters hk) own alike).heading
      rw [heading?_eq, hheading] at hnone
      cases hnone

theorem readTemplate_renamed (ho : opening.trim = k ++ tail) (ho' : opening'.trim = k' ++ tail)
    (hs : Spells [] tail name) (h : List.Forall₂ (v.Renamed k k') lines lines')
    (hcase : (v.Recognised k (k ++ tail) ↔ v.Recognised k' (k' ++ tail)) ∨
      ∀ line ∈ lines, v.Free line) :
    (openAccessors v).readTemplate opening lines =
      (openAccessors v).readTemplate opening' lines' := by
  have ht : Text.trim (k ++ tail) = k ++ tail := by rw [← ho, Text.trim_trim]
  have ht' : Text.trim (k' ++ tail) = k' ++ tail := by rw [← ho', Text.trim_trim]
  rw [readTemplate_eq hv hk ho hs, readTemplate_eq hv hk' ho' hs,
    Header.read_append hv hk hk' hs ht ht']
  apply InStep.sameCount_eq_iff.1
  apply (parallel_renamed hv hk hk').readMembers rfl sameKind_none
  rcases hcase with hrec | hfree
  · exact h.imp fun _ _ hline => ⟨hline, .inl hrec⟩
  · exact ((List.forall₂_and_left _ _).2 ⟨hfree, h⟩).imp fun _ _ hline => ⟨hline.2, .inr hline.1⟩

end Words

/-- A template word can be replaced by another one, in the opening line and in the headings that are
named with it, in front of every text exactly if both words are recognised or none is. Where no
heading is named with a template word, it can be replaced in any case. -/
theorem readTemplate_synonym_iff (v : Vocabulary) (k k' tail name opening opening' : Text)
    (hv : v.Regular) (hk : k ∈ v.templateWords) (hk' : k' ∈ v.templateWords)
    (hs : Spells [] tail name) (ho : opening.trim = k ++ tail) (ho' : opening'.trim = k' ++ tail) :
    ((∀ lines lines', List.Forall₂ (v.Renamed k k') lines lines' →
        (openAccessors v).readTemplate opening lines =
          (openAccessors v).readTemplate opening' lines') ↔
      (v.Recognised k opening.trim ↔ v.Recognised k' opening'.trim)) ∧
    ∀ lines, (∀ line ∈ lines, v.Free line) →
      (openAccessors v).readTemplate opening lines =
        (openAccessors v).readTemplate opening' lines := by
  rw [ho, ho']
  refine ⟨⟨?_, ?_⟩, ?_⟩
  · intro h
    obtain ⟨t, ht, hrec⟩ := takes_probe hv hk (.ofHeader name (Header.read v (k ++ tail)))
    obtain ⟨t', ht', hrec'⟩ := takes_probe hv hk' (.ofHeader name (Header.read v (k' ++ tail)))
    have hfree : v.Free "        x as int" := by
      intro name hname
      cases hname
    have hlines :=
      h _ _ (.cons (.heading (.inl rfl) (.refl _) (.refl _)) (.cons (.same hfree) .nil))
    rw [readTemplate_eq hv hk ho hs, readTemplate_eq hv hk' ho' hs, ht.readMembers_eq,
      ht'.readMembers_eq] at hlines
    cases hlines
    exact not_iff_not.1 (hrec.symm.trans hrec')
  · intro hrec lines lines' hlines
    exact readTemplate_renamed hv hk hk' ho ho' hs hlines (.inl hrec)
  · intro lines hfree
    apply readTemplate_renamed hv hk hk' ho ho' hs ?_ (.inr hfree)
    exact List.forall₂_same.2 fun line hl => .same (hfree line hl)

/-- The name `Templates` hides the word `blueprint`, but not the word `template`; the name `Tree`
hides no word. -/
theorem readTemplate_synonym_of_templates_tree :
    (¬∀ lines lines',
      List.Forall₂ (Vocabulary.standard.Renamed "blueprint" "template") lines lines' →
      (openAccessors .standard).readTemplate "blueprint Templates" lines =
        (openAccessors .standard).readTemplate "template Templates" lines') ∧
    ∀ lines lines', List.Forall₂ (Vocabulary.standard.Renamed "blueprint" "design") lines lines' →
      (openAccessors .standard).readTemplate "blueprint Tree" lines =
        (openAccessors .standard).readTemplate "design Tree" lines' := by
  have hblank : ∀ c ∈ " ".toList, isBlank c = true := List.all_eq_true.1 rfl
  have hends : ∀ c ∈ ([] : Text).head?, isWord c = false := by
    intro c hc
    cases hc
  have hs : Spells [] " Templates" "Templates" :=
    @Spells.name " " "Templates" [] hblank (by decide) ⟨by decide, by decide⟩ hends
  have hs' : Spells [] " Tree" "Tree" :=
    @Spells.name " " "Tree" [] hblank (by decide) ⟨by decide, by decide⟩ hends
  have htemplates := readTemplate_synonym_iff .standard "blueprint" "template" " Templates"
    "Templates" "blueprint Templates" "template Templates" Vocabulary.standard_regular (by decide)
    (by decide) hs (by decide) (by decide)
  have htree := readTemplate_synonym_iff .standard "blueprint" "design" " Tree" "Tree"
    "blueprint Tree" "design Tree" Vocabulary.standard_regular (by decide) (by decide) hs'
    (by decide) (by decide)
  rw [htemplates.1, htree.1]
  decide +kernel

end Edition

end JavaSketch
