import JavaSketch.Proofs.CaseSigns
import JavaSketch.Proofs.Signatures

namespace JavaSketch

/-- No slash is part of a word for templates or of the name of an abstract section. -/
structure Vocabulary.SlashFree (v : Vocabulary) : Prop where
  words : ∀ word ∈ v.templateWords, '/' ∉ word
  sections : ∀ name ∈ v.abstractSections, '/' ∉ name

theorem Vocabulary.standard_slashFree : standard.SlashFree := ⟨by decide, by decide⟩

namespace Pattern

variable {word pad rest s : Text} {c : Char} {p : Pattern} {cls : CharClass} {least n : Nat}
  {longest keep : Bool}

/-- A run does not see what follows a text if it cannot reach beyond the text. -/
theorem find?_run_append (ht : (s ++ rest).takeWhile cls.holds = s.takeWhile cls.holds)
    (hp : ∀ n, find? p (s.drop n ++ rest) = find? p (s.drop n)) :
    find? (.run cls least longest keep :: p) (s ++ rest) =
      find? (.run cls least longest keep :: p) s := by
  rw [find?, find?, lengths, ht, ← lengths]
  apply findSome?_congr
  intro n hn
  have hle : n ≤ s.length := (le_of_mem_lengths hn).trans (List.takeWhile_prefix _).length_le
  rw [List.drop_append_of_le_length hle, hp, List.take_append_of_le_length hle]

theorem head_blanks (hp : ∀ c ∈ pad, isBlank c = true) :
    ∀ c ∈ (pad ++ '/' :: rest).head?, isWord c = false := by
  intro c hc
  cases pad with
  | nil =>
    cases hc
    rfl
  | cons b pad =>
    cases hc
    exact not_isWord_of_blank (hp c List.mem_cons_self)

theorem find?_name_append (hp : ∀ c ∈ pad, isBlank c = true) (s : Text) :
    find? [.name] (s ++ (pad ++ '/' :: rest)) = find? [.name] s := by
  apply find?_run_append
  · exact Text.takeWhile_append_of_head (head_blanks hp)
  · intro n
    rfl

theorem find?_gap_slash (hp : ∀ c ∈ pad, isBlank c = true) :
    find? [.gap, .name] (pad ++ '/' :: rest) = none := by
  have ht : (pad ++ '/' :: rest).takeWhile isBlank = pad :=
    Text.takeWhile_exact hp (by intro c hc; cases hc; rfl)
  rw [Step.gap, find?, List.findSome?_eq_none_iff]
  intro n hn
  have hle : n ≤ pad.length := by
    have h := le_of_mem_lengths hn
    rw [show (pad ++ '/' :: rest).takeWhile CharClass.blank.holds = pad from ht] at h
    exact h
  have hd : ∀ c ∈ pad.drop n, isBlank c = true := fun c hc => hp c (List.mem_of_mem_drop hc)
  have hnone : find? [.name] (pad.drop n ++ '/' :: rest) = none := find?_name_append hd []
  rw [List.drop_append_of_le_length hle, hnone]
  rfl

theorem sameLetter_slash (hw : '/' ∉ word) : ∀ c ∈ word, sameLetter c '/' = false := by
  intro c hc
  rw [Bool.eq_false_iff]
  intro h
  rw [eq_of_sameLetter h (by decide)] at hc
  exact hw hc

theorem find?_word_slash (hw : '/' ∉ word) (hp : ∀ c ∈ pad, isBlank c = true) :
    find? (anyCase word ++ [.gap, .name]) (pad ++ '/' :: rest) = none := by
  have hl := sameLetter_slash hw
  clear hw
  induction word generalizing pad with
  | nil => exact find?_gap_slash hp
  | cons c word ih =>
    obtain ⟨hc, hl⟩ := List.forall_mem_cons.1 hl
    rw [anyCase, List.map_cons, List.cons_append, ← anyCase]
    cases pad with
    | nil => rw [List.nil_append, find?, hc, if_neg Bool.false_ne_true]
    | cons b pad =>
      rw [List.cons_append, find?]
      split
      · exact ih (List.forall_mem_cons.1 hp).2 hl
      · rfl

theorem find?_word_append (hw : '/' ∉ word) (hp : ∀ c ∈ pad, isBlank c = true)
    (hs : ∀ c ∈ s.getLast?, isBlank c = false) :
    find? (anyCase word ++ [.gap, .name]) (s ++ (pad ++ '/' :: rest)) =
      find? (anyCase word ++ [.gap, .name]) s := by
  induction word generalizing s with
  | nil =>
    cases s with
    | nil => exact find?_gap_slash hp
    | cons d s =>
      apply find?_run_append
      · rw [List.takeWhile_append, if_neg]
        intro hl
        have he := (List.takeWhile_prefix isBlank).eq_of_length hl
        have hm : (d :: s).getLast (List.cons_ne_nil d s) ∈ (d :: s).takeWhile isBlank := by
          rw [he]
          exact List.getLast_mem _
        have hb := List.all_eq_true.1 List.all_takeWhile _ hm
        rw [hs _ (List.getLast?_eq_some_getLast _)] at hb
        cases hb
      · intro n
        exact find?_name_append hp _
  | cons c word ih =>
    have hword : '/' ∉ word := List.not_mem_of_not_mem_cons hw
    cases s with
    | nil => exact find?_word_slash hw hp
    | cons d s =>
      have hlast : ∀ c ∈ s.getLast?, isBlank c = false := by
        intro e he
        apply hs
        rw [List.getLast?_cons, Option.mem_def.1 he]
        rfl
      rw [anyCase, List.map_cons, List.cons_append, ← anyCase, List.cons_append, find?, find?,
        ih hword hlast]

end Pattern

namespace Vocabulary

variable {v : Vocabulary} {s pad rest name : Text}

theorem SlashFree.templateName?_slash (hv : v.SlashFree) (rest : Text) :
    v.templateName? ('/' :: rest) = none := by
  have ht : Text.trim ([] ++ '/' :: rest) = [] ++ '/' :: rest.trimRight :=
    Text.trim_append_cons (Text.head_cons rfl) rfl
  rw [List.nil_append, List.nil_append] at ht
  rw [templateName?, ht, List.findSome?_eq_none_iff]
  intro word hw
  have h : Pattern.find? _ ([] ++ '/' :: rest.trimRight) = none :=
    Pattern.find?_word_slash (hv.words word hw) (List.forall_mem_nil _)
  rw [List.nil_append] at h
  exact nameAfter?_of_none h

theorem SlashFree.templateName?_append (hv : v.SlashFree) (hp : ∀ c ∈ pad, isBlank c = true)
    (hs : s.trim = s) (ht : Text.trim (s ++ (pad ++ '/' :: rest)) = s ++ (pad ++ '/' :: rest)) :
    v.templateName? (s ++ (pad ++ '/' :: rest)) = v.templateName? s := by
  rw [templateName?, templateName?, ht, hs]
  apply findSome?_congr
  intro word hw
  exact nameAfter?_congr (Pattern.find?_word_append (hv.words word hw) hp (Text.getLast_of_trim hs))

theorem SlashFree.notMem_memberSections (hv : v.SlashFree) (h : name ∈ v.memberSections) :
    '/' ∉ name := by
  rw [Synonyms.memberSections, List.mem_append, List.mem_append] at h
  rcases h with (h | h) | h
  · revert name
    decide
  · obtain ⟨word, hw, h⟩ := List.mem_flatMap.1 h
    have hn := hv.words word hw
    simp only [ownSections, List.mem_cons, List.not_mem_nil, or_false] at h
    rcases h with rfl | rfl
    · rw [List.mem_append, not_or]
      exact ⟨hn, by decide⟩
    · rw [List.mem_append, not_or]
      exact ⟨hn, by decide⟩
  · exact hv.sections name h

end Vocabulary

end JavaSketch
