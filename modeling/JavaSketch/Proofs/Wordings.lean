import JavaSketch.Proofs.SpokenWords

namespace JavaSketch

namespace Pattern

variable {p : Pattern} {s t w y rest : Text} {kept : List Text} {cls : CharClass}

theorem find?_anyCase_append (h : t.map lowerChar = w.map lowerChar) :
    find? (anyCase w ++ p) (t ++ s) = find? p s := by
  induction w generalizing t with
  | nil =>
    rw [List.map_eq_nil_iff.1 h]
    rfl
  | cons c w ih =>
    obtain ⟨d, t, rfl, hd, ht⟩ := List.map_eq_cons_iff.1 h
    have hsame : sameLetter c d = true := by
      rw [sameLetter, hd, beq_self_eq_true, Bool.true_or]
    rw [anyCase, List.map_cons, List.cons_append, List.cons_append, find?_letter, if_pos hsame]
    exact ih ht

/-- A run takes a part of the text if the rest of the pattern matches behind it. -/
theorem accepts_run_append {least : Nat} {longest keep : Bool} {run : Text}
    (hrun : ∀ d ∈ run, cls.holds d = true) (hl : least ≤ run.length) (h : p.accepts rest = true) :
    accepts (.run cls least longest keep :: p) (run ++ rest) = true := by
  refine accepts_cons.2 ⟨run.length, ⟨hl, ?_⟩, ?_⟩
  · rw [List.takeWhile_append_of_pos hrun, List.length_append]
    exact Nat.le_add_right _ _
  · rw [List.drop_left]
    exact h

theorem accepts_run_past {least : Nat} {longest keep : Bool} {run : Text}
    (hrun : ∀ d ∈ run, cls.holds d = true)
    (h : accepts (.run cls least longest keep :: p) rest = true) :
    accepts (.run cls least longest keep :: p) (run ++ rest) = true := by
  obtain ⟨n, ⟨hleast, hmost⟩, hrest⟩ := accepts_cons.1 h
  refine accepts_cons.2 ⟨run.length + n, ⟨by omega, ?_⟩, ?_⟩
  · rw [List.takeWhile_append_of_pos hrun, List.length_append]
    exact Nat.add_le_add_left hmost _
  · rw [List.drop_length_add_append]
    exact hrest

theorem find?_run_past {run : Text} (hrun : ∀ d ∈ run, cls.holds d = true) (hl : 1 ≤ run.length)
    (hnone : ∀ n ≤ run.length, p.find? ((run ++ rest).drop n) = none)
    (h : find? (.run cls 1 false true :: p) rest = some (y :: kept)) :
    find? (.run cls 1 false true :: p) (run ++ rest) = some ((run ++ y) :: kept) := by
  have hfront : (List.range' 1 (run.length - 1)).findSome? (fun n =>
      (p.find? ((run ++ rest).drop n)).map fun kept => (run ++ rest).take n :: kept) = none := by
    rw [List.findSome?_eq_none_iff]
    intro n hn
    have hle : n ≤ run.length := by
      have := (List.mem_range'_1.1 hn).2
      omega
    rw [hnone n hle]
    rfl
  have hback (n : Nat) : ((p.find? ((run ++ rest).drop (run.length + n))).map fun kept =>
      (run ++ rest).take (run.length + n) :: kept) =
        ((p.find? (rest.drop n)).map fun kept => rest.take n :: kept).map fun kept =>
          (run ++ kept.headD []) :: kept.tail := by
    rw [List.drop_length_add_append, List.take_length_add_append, Option.map_map]
    rfl
  have hlengths : lengths cls 1 false rest =
      List.range' 1 (rest.takeWhile cls.holds).length := by
    rw [lengths, Nat.add_sub_cancel]
    rfl
  rw [find?_run, hlengths] at h
  have hmap := congrArg (Option.map fun kept : List Text => (run ++ kept.headD []) :: kept.tail) h
  rw [List.map_findSome?] at hmap
  rw [find?_run, lengths_shortest hrun hl, List.findSome?_append]
  simp only [↓reduceIte] at hmap ⊢
  rw [hfront, List.findSome?_cons, hnone _ (Nat.le_refl _), ← List.map_add_range',
    List.findSome?_map]
  simp only [Function.comp_def, hback, Option.none_or, Option.map_none]
  exact hmap

theorem find?_gap_of_not_blank (h : ∀ c ∈ s.head?, isBlank c = false) :
    find? (.gap :: p) s = none := by
  cases s with
  | nil => rfl
  | cons c s => exact find?_gap (h c rfl) s

theorem find?_gap_inside (h : IsUnbroken t) {n : Nat} (hn : n < t.length) (rest : Text) :
    find? (.gap :: p) ((t ++ rest).drop n) = none := by
  rw [List.drop_append_of_le_length (Nat.le_of_lt hn), List.drop_eq_getElem_cons hn]
  exact find?_gap (h.char (List.getElem_mem hn)) _

theorem spaced_one (p : Pattern) : spaced [p] = p := by
  rw [spaced_cons, List.flatMap_nil, List.append_nil]

theorem spaced_gap (p : Pattern) {ps : List Pattern} (h : ps ≠ []) :
    spaced (p :: ps) = p ++ .gap :: spaced ps := by
  obtain ⟨next, ps, rfl⟩ := List.exists_cons_of_ne_nil h
  rw [spaced_cons, spaced_cons, List.flatMap_cons]
  rfl

theorem accepts_gap (h : p.accepts s = true) : accepts (.gap :: p) ([' '] ++ s) = true :=
  accepts_run_append (List.forall_mem_singleton.2 rfl) (Nat.le_refl 1) h

end Pattern

namespace Part

open Pattern

theorem shape_word {w : Text} (h : ' ' ∉ w) : shape (.words w) = exactly w := by
  rw [shape, Text.splitAt_of_notMem h]
  exact spaced_one _

theorem reader_word {w : Text} (h : ' ' ∉ w) : reader (.words w) = anyCase w := by
  rw [reader, Text.splitAt_of_notMem h]
  exact spaced_one _

/-- A phrase, a text that words it, and what is kept of the text. -/
inductive Wording : List Part → Text → List Text → Prop
  | receiver {c rest : Text} (hc : IsName c) (hrest : ∀ d ∈ rest.head?, isWord d = false)
    (hlast : ∀ d ∈ rest.getLast?, isBlank d = false) : Wording [.receiver] (c ++ rest) [c]
  | tail {v : Text} (hv : IsUnbroken v) : Wording [.tail] v [v]
  | word {w v t : Text} {parts : List Part} {kept : List Text} (hw : IsKeyword w)
    (hv : IsUnbroken v) (hcase : v.lower = w) (more : Wording parts t kept) :
    Wording (.words w :: parts) (v ++ ' ' :: t) kept
  | operand {x t : Text} {parts : List Part} {kept : List Text} (hx : IsUnbroken x)
    (more : Wording parts t kept) : Wording (.operand :: parts) (x ++ ' ' :: t) (x :: kept)
  /-- An operand goes on behind a blank at which the rest of the phrase cannot be read. -/
  | longer {x y t : Text} {parts : List Part} {kept : List Text} (hx : IsUnbroken x)
    (hskip : Pattern.find? (spaced (parts.map reader)) t = none)
    (more : Wording (.operand :: parts) t (y :: kept)) :
    Wording (.operand :: parts) (x ++ ' ' :: t) ((x ++ ' ' :: y) :: kept)
  | named {c t : Text} {parts : List Part} {kept : List Text} (hc : IsReceiver c)
    (more : Wording parts t kept) : Wording (.receiver :: parts) (c ++ ' ' :: t) (c :: kept)

namespace Wording

variable {parts : List Part} {t : Text} {kept : List Text}

theorem name {c : Text} (hc : IsName c) : Wording [.receiver] c [c] := by
  have hname : Wording [.receiver] (c ++ []) [c] :=
    .receiver hc (fun d hd => by cases hd) (fun d hd => by cases hd)
  rwa [List.append_nil] at hname

theorem keyword {w : Text} (hw : IsKeyword w) (more : Wording parts t kept) :
    Wording (.words w :: parts) (w ++ ' ' :: t) kept :=
  .word hw hw.isOperand.toIsUnbroken hw.lower_eq more

theorem keywords {more words : List Text} (hw : ∀ w ∈ more, IsKeyword w) (hne : words ≠ [])
    (h : Wording parts (Text.join " " words) kept) :
    Wording (more.map .words ++ parts) (Text.join " " (more ++ words)) kept := by
  induction more with
  | nil => exact h
  | cons w more ih =>
    obtain ⟨hfirst, hmore⟩ := List.forall_mem_cons.1 hw
    rw [List.cons_append, Text.join_blank _ (List.append_ne_nil_of_right_ne_nil _ hne)]
    exact .keyword hfirst (ih hmore)

theorem spaced_parts (h : Wording parts t kept) (p : Pattern) (f : Part → Pattern) :
    spaced (p :: parts.map f) = p ++ .gap :: spaced (parts.map f) := by
  apply spaced_gap
  cases h with
  | _ => exact List.cons_ne_nil _ _

theorem ne_nil_of_find? (h : Pattern.find? (spaced (parts.map reader)) t = none) : parts ≠ [] := by
  rintro rfl
  cases h

theorem head (h : Wording parts t kept) : ∀ c ∈ t.head?, isBlank c = false := by
  cases h with
  | receiver hc => exact hc.isUnbroken.head_append _
  | tail hv => exact fun c hc => hv.char (List.mem_of_mem_head? hc)
  | word _ hv => exact hv.head_append _
  | operand hx => exact hx.head_append _
  | longer hx => exact hx.head_append _
  | named hc => exact hc.isOperand.head_append _

theorem text_ne_nil (h : Wording parts t kept) : t ≠ [] := by
  cases h with
  | receiver hc => exact List.append_ne_nil_of_left_ne_nil hc.ne_nil _
  | tail hv => exact hv.ne_nil
  | _ => exact List.append_ne_nil_of_right_ne_nil _ (List.cons_ne_nil _ _)

theorem last (h : Wording parts t kept) : ∀ c ∈ t.getLast?, isBlank c = false := by
  have hbehind {x t : Text} (hne : t ≠ []) (ht : ∀ c ∈ t.getLast?, isBlank c = false) :
      ∀ c ∈ (x ++ ' ' :: t).getLast?, isBlank c = false := by
    obtain ⟨d, t, rfl⟩ := List.exists_cons_of_ne_nil hne
    rw [List.getLast?_append_cons, List.getLast?_cons_cons]
    exact ht
  induction h with
  | @receiver c rest hc _ hlast =>
    cases rest with
    | nil =>
      rw [List.append_nil]
      exact fun d hd => hc.isUnbroken.char (List.mem_of_mem_getLast? hd)
    | cons d rest =>
      rw [List.getLast?_append_cons]
      exact hlast
  | tail hv => exact fun c hc => hv.char (List.mem_of_mem_getLast? hc)
  | word _ _ _ hmore ih => exact hbehind hmore.text_ne_nil ih
  | operand _ hmore ih => exact hbehind hmore.text_ne_nil ih
  | longer _ _ hmore ih => exact hbehind hmore.text_ne_nil ih
  | named _ hmore ih => exact hbehind hmore.text_ne_nil ih

/-- A wording is read into what is kept of it. -/
theorem find? (h : Wording parts t kept) :
    Pattern.find? (spaced (parts.map reader)) t = some kept := by
  induction h with
  | receiver hc hrest =>
    rw [List.map_singleton, spaced_one]
    exact find?_longest true hc.holds_word hrest (List.length_pos_iff.2 hc.ne_nil) rfl
  | @tail v hv =>
    have hrun : Pattern.find? [.run .any 1 true true] (v ++ []) = some [v] :=
      find?_longest true hv.holds_any (by simp) (List.length_pos_iff.2 hv.ne_nil) rfl
    rw [List.append_nil] at hrun
    rw [List.map_singleton, spaced_one]
    exact hrun
  | word hw hv hcase hmore ih =>
    have hascii := Statement.isAscii_of_isAsciiName hw.name
    have hletters := (Text.map_lowerChar_of_lower hascii hcase).trans
      (Text.map_lowerChar_of_lower hascii hw.lower_eq).symm
    rw [List.map_cons, hmore.spaced_parts, reader_word hw.notMem, find?_anyCase_append hletters,
      find?_gap_one hmore.head, ih]
  | operand hx hmore ih =>
    rw [← find?_gap_one hmore.head] at ih
    rw [List.map_cons, hmore.spaced_parts]
    apply find?_run_shortest hx.holds_any (List.length_pos_iff.2 hx.ne_nil) _ ih
    exact fun n hn => find?_gap_inside hx hn _
  | @longer x y t parts kept hx hskip hmore ih =>
    have hparts : parts.map reader ≠ [] := fun he =>
      ne_nil_of_find? hskip (List.map_eq_nil_iff.1 he)
    rw [List.map_cons, spaced_gap _ hparts] at ih ⊢
    have hrun : ∀ d ∈ x ++ [' '], CharClass.any.holds d = true :=
      List.forall_mem_append.2 ⟨hx.holds_any, List.forall_mem_singleton.2 rfl⟩
    have hnone : ∀ n ≤ (x ++ [' ']).length,
        Pattern.find? (.gap :: spaced (parts.map reader)) ((x ++ [' '] ++ t).drop n) = none := by
      intro n hn
      rw [List.length_append, List.length_singleton] at hn
      rw [List.append_assoc, List.singleton_append]
      rcases Nat.lt_trichotomy n x.length with hlt | rfl | hlt
      · exact find?_gap_inside hx hlt _
      · rw [List.drop_left, find?_gap_one hmore.head, hskip]
      · obtain rfl : n = x.length + 1 := by omega
        rw [List.drop_length_add_append]
        exact find?_gap_of_not_blank hmore.head
    have hpast := find?_run_past hrun (by simp) hnone ih
    rwa [List.append_assoc, List.append_assoc] at hpast
  | named hc hmore ih =>
    rw [← find?_gap_one hmore.head] at ih
    rw [List.map_cons, hmore.spaced_parts]
    apply find?_longest true hc.isName.holds_word _ (List.length_pos_iff.2 hc.isName.ne_nil) ih
    intro d hd
    cases hd
    rfl

/-- A wording is recognised in its small letters. -/
theorem covers (h : Wording parts t kept) :
    (spaced (parts.map shape)).accepts t.lower = true := by
  induction h with
  | @receiver c rest hc =>
    obtain ⟨a, c, rfl⟩ := List.exists_cons_of_ne_nil hc.ne_nil
    obtain ⟨d, more, he, hd⟩ := Text.head_lower (hc.char List.mem_cons_self) (c ++ rest)
    have hrun : accepts [.run .word 1 true false] ([d] ++ more) = true :=
      accepts_run_append (List.forall_mem_singleton.2 hd) (Nat.le_refl 1) rfl
    rw [List.map_singleton, spaced_one, List.cons_append, he]
    exact hrun
  | @tail v hv =>
    have hrun : accepts [.run .any 1 true false] (v.lower ++ []) = true :=
      accepts_run_append hv.lower.holds_any (List.length_pos_iff.2 hv.lower.ne_nil) rfl
    rw [List.append_nil] at hrun
    rw [List.map_singleton, spaced_one]
    exact hrun
  | word hw hv hcase hmore ih =>
    rw [List.map_cons, hmore.spaced_parts, shape_word hw.notMem, Text.lower_append_blank, hcase,
      accepts, find?_exactly_append]
    exact accepts_gap ih
  | operand hx hmore ih =>
    rw [List.map_cons, hmore.spaced_parts, Text.lower_append_blank]
    exact accepts_run_append hx.lower.holds_any (List.length_pos_iff.2 hx.lower.ne_nil)
      (accepts_gap ih)
  | @longer x y t parts kept hx hskip hmore ih =>
    have hparts : parts.map shape ≠ [] := fun he =>
      ne_nil_of_find? hskip (List.map_eq_nil_iff.1 he)
    have hrun : ∀ d ∈ x.lower ++ [' '], CharClass.any.holds d = true :=
      List.forall_mem_append.2 ⟨hx.lower.holds_any, List.forall_mem_singleton.2 rfl⟩
    rw [List.map_cons, spaced_gap _ hparts] at ih ⊢
    rw [Text.lower_append_blank, List.append_cons x.lower]
    exact accepts_run_past hrun ih
  | named hc hmore ih =>
    rw [List.map_cons, hmore.spaced_parts, Text.lower_append_blank]
    exact accepts_run_append hc.isName_lower.holds_word
      (List.length_pos_iff.2 hc.isName_lower.ne_nil) (accepts_gap ih)

end Wording

end Part

end JavaSketch
