import JavaSketch.Proofs.Wordings
import JavaSketch.Proofs.StatementPieces

namespace JavaSketch

namespace Pattern

variable {p : Pattern} {s t w : Text}

theorem find?_otherWord (hw : ' ' ∉ w) (ht : ∀ c ∈ t, isBlank c = false) (hne : t ≠ w) (s : Text) :
    find? (exactly w ++ .gap :: p) (t ++ ' ' :: s) = none := by
  induction w generalizing t with
  | nil =>
    obtain ⟨d, t, rfl⟩ := List.exists_cons_of_ne_nil hne
    exact find?_gap (ht d List.mem_cons_self) _
  | cons c w ih =>
    cases t with
    | nil => exact find?_exactly_of_head (List.ne_of_not_mem_cons hw)
    | cons d t =>
      by_cases hd : d = c
      · subst hd
        obtain ⟨_, ht⟩ := List.forall_mem_cons.1 ht
        rw [exactly, List.map_cons, List.cons_append, List.cons_append, find?_exact,
          if_pos rfl]
        exact ih (List.not_mem_of_not_mem_cons hw) ht fun he => hne (congrArg (d :: ·) he)
      · exact find?_exactly_of_head hd

theorem eq_of_accepts_words {vs us words : List Text} (hl : us.length = vs.length)
    (hv : ∀ v ∈ vs, ' ' ∉ v) (hu : ∀ u ∈ us ++ words, IsUnbroken u) (hne : words ≠ [])
    (h : accepts (vs.flatMap (exactly · ++ [.gap]) ++ p) (Text.join " " (us ++ words)) = true) :
    us = vs := by
  induction vs generalizing us with
  | nil => exact List.length_eq_zero_iff.1 hl
  | cons v vs ih =>
    obtain ⟨u, us, rfl⟩ := List.exists_cons_of_length_eq_add_one hl
    obtain ⟨hfirst, hmore⟩ := List.forall_mem_cons.1 hu
    obtain ⟨hvfirst, hvmore⟩ := List.forall_mem_cons.1 hv
    have hmany : us ++ words ≠ [] := List.append_ne_nil_of_right_ne_nil us hne
    rw [List.cons_append, Text.join_blank _ hmany, List.flatMap_cons, List.append_assoc,
      List.append_assoc, List.singleton_append, accepts] at h
    by_cases he : u = v
    · subst he
      rw [find?_exactly_append, find?_gap_one (Text.head_words hmany hmore)] at h
      rw [ih (Nat.succ.inj hl) hvmore hmore h]
    · rw [find?_otherWord hvfirst (fun _ => hfirst.char) he] at h
      cases h

end Pattern

namespace Part

open Pattern

/-- A phrase with the words by which it is said, one for each part, and those of them that are
kept. -/
inductive Says : List Part → List Text → List Text → Prop
  | receiver {c : Text} (hc : IsReceiver c) : Says [.receiver] [c] [c]
  | tail {v : Text} (hv : IsOperand v) : Says [.tail] [v] [v]
  | word {w : Text} {parts : List Part} {words kept : List Text} (hw : IsKeyword w)
    (more : Says parts words kept) : Says (.words w :: parts) (w :: words) kept
  | operand {x : Text} {parts : List Part} {words kept : List Text} (hx : IsOperand x)
    (more : Says parts words kept) : Says (.operand :: parts) (x :: words) (x :: kept)
  | named {c : Text} {parts : List Part} {words kept : List Text} (hc : IsReceiver c)
    (more : Says parts words kept) : Says (.receiver :: parts) (c :: words) (c :: kept)

namespace Says

variable {parts : List Part} {words kept : List Text}

theorem ne_nil (h : Says parts words kept) : parts ≠ [] ∧ words ≠ [] := by
  cases h with
  | _ => exact ⟨List.cons_ne_nil _ _, List.cons_ne_nil _ _⟩

theorem isOperand (h : Says parts words kept) : ∀ w ∈ words, IsOperand w := by
  induction h with
  | receiver hc => exact List.forall_mem_singleton.2 hc.isOperand
  | tail hv => exact List.forall_mem_singleton.2 hv
  | word hw _ ih => exact List.forall_mem_cons.2 ⟨hw.isOperand, ih⟩
  | operand hx _ ih => exact List.forall_mem_cons.2 ⟨hx, ih⟩
  | named hc _ ih => exact List.forall_mem_cons.2 ⟨hc.isOperand, ih⟩

theorem wording (h : Says parts words kept) : Wording parts (Text.join " " words) kept := by
  induction h with
  | receiver hc =>
    rw [Text.join_one]
    exact .name hc.isName
  | tail hv =>
    rw [Text.join_one]
    exact .tail hv.toIsUnbroken
  | word hw hmore ih =>
    rw [Text.join_blank _ hmore.ne_nil.2]
    exact .keyword hw ih
  | operand hx hmore ih =>
    rw [Text.join_blank _ hmore.ne_nil.2]
    exact .operand hx.toIsUnbroken ih
  | named hc hmore ih =>
    rw [Text.join_blank _ hmore.ne_nil.2]
    exact .named hc ih

end Says

end Part

namespace Pattern

/-- The word with which every text of the pattern begins, if the pattern gives one. -/
def firstWord? : Pattern → Option Text
  | .exact c :: p => (firstWord? p).map (c :: ·)
  | .run .blank 1 true false :: _ => some []
  | _ => none

variable {p : Pattern} {w v t : Text}

theorem firstWord?_append (w : Text) (p : Pattern) :
    firstWord? (exactly w ++ .gap :: p) = some w := by
  induction w with
  | nil => rfl
  | cons c w ih => exact congrArg (Option.map (c :: ·)) ih

theorem exists_of_firstWord? (h : p.firstWord? = some w) :
    ∃ rest, p = exactly w ++ .gap :: rest := by
  fun_induction firstWord? p generalizing w with
  | case1 c p ih =>
    obtain ⟨v, hv, rfl⟩ := Option.map_eq_some_iff.1 h
    obtain ⟨rest, rfl⟩ := ih hv
    exact ⟨rest, rfl⟩
  | case2 rest =>
    cases h
    exact ⟨rest, rfl⟩
  | case3 => cases h

theorem firstWord?_of_accepts (hp : p.firstWord? = some v) (hv : ' ' ∉ v)
    (hw : ∀ c ∈ w, isBlank c = false) (h : p.accepts (w ++ ' ' :: t) = true) :
    p.firstWord? = some w := by
  by_cases he : w = v
  · rw [hp, he]
  · obtain ⟨rest, rfl⟩ := exists_of_firstWord? hp
    rw [accepts, find?_otherWord hv hw he] at h
    cases h

theorem not_accepts_method (hw : '.' ∉ w) (t : Text) :
    accepts (.run .word 1 true false :: .exact '.' :: p) (w ++ ' ' :: t) = false := by
  rw [Bool.eq_false_iff, ne_eq, accepts_cons]
  rintro ⟨n, ⟨_, hn⟩, hdot⟩
  obtain ⟨m, ⟨_, hm⟩, _⟩ := accepts_cons.1 hdot
  have hblank : ¬ CharClass.word.holds ' ' = true := by decide +kernel
  have hle : n ≤ w.length := by
    rw [List.takeWhile_append, List.takeWhile_cons_of_neg hblank, List.append_nil] at hn
    split at hn
    · exact hn
    · exact hn.trans (List.takeWhile_prefix _).length_le
  rw [List.drop_append_of_le_length hle] at hm
  cases hw' : w.drop n with
  | nil =>
    rw [hw'] at hm
    cases hm
  | cons c rest =>
    rw [hw'] at hm
    cases hm
    exact hw (List.mem_of_mem_drop (hw' ▸ List.mem_cons_self))

end Pattern

namespace Operation

open Pattern

/-- The operations that are said in words. -/
def phrases : List Operation := all.filter (·.shape.firstWord?.isSome)

/-- The operations that are half in Java. -/
def calls : List Operation := [adding "first" "addFirst", adding "last" "addLast", storing]

/-- The phrases that begin with a word, in the order in which they are tried. -/
def opening (w : Text) : List Operation := all.filter (·.shape.firstWord? == some w)

def firstWords : List Text := all.filterMap (·.shape.firstWord?)

/-- The words with which more than one phrase begins. -/
def sharedWords : List Text := ["add", "remove", "get", "set", "pop"]

theorem keyword_of_firstWords : ∀ w ∈ firstWords, IsKeyword w ∧ w ≠ "print" ∧ w ≠ "var" := by
  decide +kernel

theorem count_firstWords : ∀ w ∈ firstWords, w ∈ sharedWords ∨ firstWords.count w = 1 := by
  decide +kernel

variable {w t : Text} {op : Operation} {back : List Operation}

theorem mem_firstWords (hop : op ∈ all) (hw : op.shape.firstWord? = some w) : w ∈ firstWords :=
  List.mem_filterMap.2 ⟨op, hop, hw⟩

theorem mem_all_cases (hop : op ∈ all) : op ∈ phrases ∨ op ∈ calls := by
  have hcalls : all.filter (·.shape.firstWord?.isNone) = calls := Eq.refl _
  cases hw : op.shape.firstWord? with
  | none =>
    rw [← hcalls]
    exact .inr (List.mem_filter.2 ⟨hop, by rw [hw]; rfl⟩)
  | some w => exact .inl (List.mem_filter.2 ⟨hop, by rw [hw]; rfl⟩)

theorem exists_of_mem_calls (hop : op ∈ calls) : ∃ (method : Text) (p : Pattern),
    method.all isWord = true ∧ op.shape =
      [.run .word 1 true false] ++ exactly ('.' :: method) ++ [.space] ++ .exact '(' :: p := by
  simp only [calls, List.mem_cons, List.not_mem_nil, or_false] at hop
  rcases hop with rfl | rfl | rfl
  · exact ⟨"add", _, rfl, rfl⟩
  · exact ⟨"add", _, rfl, rfl⟩
  · exact ⟨"set", _, rfl, rfl⟩

theorem mem_phrases (hdot : '.' ∉ w) (hop : op ∈ all) (hc : op.covers (w ++ ' ' :: t) = true) :
    op ∈ phrases := by
  rcases mem_all_cases hop with hop | hop
  · exact hop
  · obtain ⟨method, p, _, hshape⟩ := exists_of_mem_calls hop
    rw [covers, hshape] at hc
    exact absurd hc (Bool.eq_false_iff.1 (not_accepts_method hdot t))

theorem firstWord?_of_covers (hop : op ∈ all) (hw : IsName w)
    (hc : op.covers (w ++ ' ' :: t) = true) : op.shape.firstWord? = some w := by
  obtain ⟨v, hv⟩ := Option.isSome_iff_exists.1
    (List.mem_filter.1 (mem_phrases (hw.notMem rfl) hop hc)).2
  have hkey := (keyword_of_firstWords v (mem_firstWords hop hv)).1
  exact firstWord?_of_accepts hv hkey.notMem (fun _ => hw.isUnbroken.char) hc

theorem opening_of_lone (op : Operation) (hop : op ∈ all) (hw : op.shape.firstWord? = some w)
    (hlone : w ∉ sharedWords) : opening w = [op] := by
  have hmem : op ∈ opening w := List.mem_filter.2 ⟨hop, beq_iff_eq.2 hw⟩
  have hlength : (opening w).length = 1 := by
    rw [opening, ← List.countP_eq_length_filter, ← List.count_filterMap]
    exact (count_firstWords w (mem_firstWords hop hw)).resolve_left hlone
  obtain ⟨other, hother⟩ := List.length_eq_one_iff.1 hlength
  rw [hother] at hmem ⊢
  rw [List.mem_singleton.1 hmem]

/-- The first operation that can cover a text: none that is tried before it does. -/
def IsFirst (op : Operation) (s : Text) : Prop :=
  ∃ front back, all = front ++ op :: back ∧ ∀ other ∈ front, other.covers s = false

theorem IsFirst.mem {s : Text} (h : op.IsFirst s) : op ∈ all := by
  obtain ⟨front, back, hall, _⟩ := h
  rw [hall]
  exact List.mem_append_right _ List.mem_cons_self

theorem IsFirst.find? {s : Text} (h : op.IsFirst s) (hc : op.covers s = true) :
    all.find? (·.covers s) = some op := by
  obtain ⟨front, back, hall, hfront⟩ := h
  rw [List.find?_eq_some_iff_append]
  exact ⟨hc, front, back, hall, fun other hother => by rw [hfront other hother]; rfl⟩

theorem isName_of_opening (hop : op ∈ opening w) : IsName w := by
  obtain ⟨hmem, hfirst⟩ := List.mem_filter.1 hop
  exact (keyword_of_firstWords w (mem_firstWords hmem (beq_iff_eq.1 hfirst))).1.isName

/-- Only the phrases with the same first word can stand in the way of a phrase. -/
theorem isFirst_of_opening (front : List Operation) (h : opening w = front ++ op :: back)
    (hfront : ∀ other ∈ front, other.covers (w ++ ' ' :: t) = false) :
    op.IsFirst (w ++ ' ' :: t) := by
  have hw : IsName w := isName_of_opening (h ▸ List.mem_append_right front List.mem_cons_self)
  obtain ⟨before, rest, hall, hbefore, hrest⟩ := List.filter_eq_append_iff.1 h
  obtain ⟨skipped, after, rfl, hskipped, _, _⟩ := List.filter_eq_cons_iff.1 hrest
  refine ⟨before ++ skipped, after, by rw [hall, List.append_assoc], ?_⟩
  intro other hother
  rw [Bool.eq_false_iff]
  intro hc
  have hmem : other ∈ all := by
    rw [hall]
    rcases List.mem_append.1 hother with hm | hm
    · exact List.mem_append_left _ hm
    · exact List.mem_append_right _ (List.mem_append_left _ hm)
  have hfirst := beq_iff_eq.2 (firstWord?_of_covers hmem hw hc)
  rcases List.mem_append.1 hother with hm | hm
  · rw [hfront other (hbefore ▸ List.mem_filter.2 ⟨hm, hfirst⟩)] at hc
    cases hc
  · exact hskipped other hm hfirst

theorem isFirst_of_head (h : opening w = op :: back) (t : Text) : op.IsFirst (w ++ ' ' :: t) :=
  isFirst_of_opening [] h (List.forall_mem_nil _)

theorem isFirst_of_lone (op : Operation) (hop : op ∈ all) (hfirst : op.shape.firstWord? = some w)
    (hlone : w ∉ sharedWords) (t : Text) : op.IsFirst (w ++ ' ' :: t) :=
  isFirst_of_head (opening_of_lone op hop hfirst hlone) t

theorem mem_all_of_placements (h : op ∈ placements) : op ∈ all := by
  simp only [all, List.mem_append, h, true_or, or_true]

theorem opening_get : opening "get" =
    [passing "get item at" "from" "get", asking "get first from" "getFirst",
      asking "get last from" "getLast", passing "get" "from" "get"] := Eq.refl _

end Operation

namespace Statement

open Operation

variable {w c method argument : Text} {parts : List Part} {words kept : List Text}
  {build : List Text → Option Text}

theorem call_line (c method argument : Text) : call c method argument ++ ";" =
    c ++ ("." ++ method ++ "(") ++ argument ++ ");" := by simp [call]

theorem not_endsWith_call : (call c method argument).endsWith ";" = false := by
  rw [Bool.eq_false_iff]
  intro h
  have hclose : (";" : Text) <:+ ")" := List.suffix_of_suffix_length_le
    (List.isSuffixOf_iff_suffix.1 h) (List.isSuffixOf_iff_suffix.1 (call_endsWith ..))
    (Nat.le_refl 1)
  exact absurd (hclose.eq_of_length rfl) (by decide)

theorem not_isLocal_of_includes {s : Text} (has : s.includes " as " = false)
    (hv : s.startsWith "var " = false) : isLocal s = false := by
  rw [isLocal, isValuedLocal, hv, has]
  rfl

theorem not_isLocal_words (h : ∀ x ∈ words, IsOperand x)
    (hv : (Text.join " " words).startsWith "var " = false) :
    isLocal (Text.join " " words) = false := by
  apply not_isLocal_of_includes _ hv
  apply Text.includes_words (w := "as") (by decide)
  exact fun x hx => ⟨(h x hx).notMem rfl, (h x hx).ne_as⟩

/-- A statement whose first covering operation can be read becomes the call for which the operation
stands. -/
theorem convert_covered {op : Operation} {s : Text} (htrim : s.trim = s)
    (hp : s.startsWith "print " = false) (hlocal : isLocal s = false)
    (hfirst : Operation.all.find? (·.covers s.lower) = some op)
    (he : op.expression? s = some (call c method argument)) :
    convert .current s = .ok (c ++ ("." ++ method ++ "(") ++ argument ++ ");") := by
  have hany : Operation.all.any (·.covers s.lower) = true :=
    List.isSome_find?.symm.trans (congrArg Option.isSome hfirst)
  have ho : isOperation .all s = true := by
    rw [Phrasebook.all_agrees.isOperation_eq, hp]
    exact hany
  have hcall : operationExpression Phrasebook.all.operations s = call c method argument :=
    operationExpression_of_find? hfirst he
  have hprint : s.trim.startsWith "print " = false := by rw [htrim, hp]
  rw [convert_unprinted hprint, htrim, hlocal, ho, operationStatement, hcall, not_endsWith_call,
    ← call_line]
  rfl

theorem opens_phrase {t : Text} (hw : IsKeyword w) (h : Part.Wording parts t kept)
    (hop : ofPhrase (.words w :: parts) build ∈ Operation.all) :
    (ofPhrase (.words w :: parts) build).covers (w ++ ' ' :: t.lower) = true ∧
      (w ++ ' ' :: t).startsWith "print " = false ∧ (w ++ ' ' :: t).startsWith "var " = false := by
  have hcovers := (Part.Wording.keyword hw h).covers
  rw [Text.lower_append_blank, hw.lower_eq] at hcovers
  obtain ⟨_, hprint, hvar⟩ := keyword_of_firstWords w
    (mem_firstWords hop (firstWord?_of_covers hop hw.isName hcovers))
  exact ⟨hcovers, Text.startsWith_word hw.notMem (v := "print") (by decide) hprint _,
    Text.startsWith_word hw.notMem (v := "var") (by decide) hvar _⟩

/-- A statement that words a phrase becomes the call for which the phrase stands. -/
theorem convert_wording {t : Text} (hw : IsKeyword w) (h : Part.Wording parts t kept)
    (hfirst : (ofPhrase (.words w :: parts) build).IsFirst (w ++ ' ' :: t.lower))
    (hb : build kept = some (call c method argument))
    (hlocal : isLocal (w ++ ' ' :: t) = false) :
    convert .current (w ++ ' ' :: t) = .ok (c ++ ("." ++ method ++ "(") ++ argument ++ ");") := by
  have hwording := Part.Wording.keyword hw h
  obtain ⟨hcovers, hprint, _⟩ := opens_phrase hw h hfirst.mem
  apply convert_covered (Text.trim_of_ends hwording.head hwording.last) hprint hlocal
  · rw [Text.lower_append_blank, hw.lower_eq]
    exact hfirst.find? hcovers
  · exact Option.bind_eq_some_iff.2 ⟨kept, hwording.find?, hb⟩

theorem convert_phrase (hw : IsKeyword w) (h : Part.Says parts words kept)
    (hfirst : (ofPhrase (.words w :: parts) build).IsFirst
      (w ++ ' ' :: Text.join " " (words.map Text.lower)))
    (hb : build kept = some (call c method argument)) :
    convert .current (Text.join " " (w :: words)) =
      .ok (c ++ ("." ++ method ++ "(") ++ argument ++ ");") := by
  have hspoken : Part.Says (.words w :: parts) (w :: words) kept := .word hw h
  have hjoin := Text.join_blank w h.ne_nil.2
  obtain ⟨_, _, hvar⟩ := opens_phrase hw h.wording hfirst.mem
  rw [← hjoin] at hvar
  have hlocal := not_isLocal_words hspoken.isOperand hvar
  rw [← Text.lower_join] at hfirst
  rw [hjoin] at hlocal ⊢
  exact convert_wording hw h.wording hfirst hb hlocal

section

variable {x r : Text} (first : Text) (more : List Text) (second method : Text)

theorem wording_passing {more : List Text} {second : Text} (hm : ∀ w ∈ more, IsKeyword w)
    (hs : IsKeyword second) (hx : IsUnbroken x) (hr : Part.Wording [.receiver] r [c]) :
    Part.Wording (more.map .words ++ [.operand, .words second, .receiver])
      (Text.join " " (more ++ [x, second, r])) [x, c] := by
  apply Part.Wording.keywords hm (List.cons_ne_nil _ _)
  rw [Text.join_blank_cons, Text.join_blank_cons, Text.join_one]
  exact .operand hx (.keyword hs hr)

/-- A method with one argument is called on what is kept of the receiver. -/
theorem convert_called (hwords : ∀ w ∈ first :: second :: more, IsKeyword w)
    (hfirst : (ofPhrase (.words first ::
      (more.map .words ++ [.operand, .words second, .receiver])) build).IsFirst
        (first ++ ' ' :: Text.join " " ((more ++ [x, second, r]).map Text.lower)))
    (hb : build [x, c] = some (call c method x.trim))
    (hx : IsUnbroken x) (hr : Part.Wording [.receiver] r [c])
    (hlocal : isLocal (Text.join " " (first :: (more ++ [x, second, r]))) = false) :
    convert .current (Text.join " " (first :: (more ++ [x, second, r]))) =
      .ok (c ++ ("." ++ method ++ "(") ++ x ++ ");") := by
  obtain ⟨hf, hs, hm⟩ := List.forall_mem_cons.1 hwords |>.imp_right List.forall_mem_cons.1
  rw [hx.trim_eq] at hb
  rw [← Text.lower_join] at hfirst
  rw [Text.join_blank _ (List.append_ne_nil_of_right_ne_nil _ (List.cons_ne_nil _ _))] at hlocal ⊢
  exact convert_wording hf (wording_passing hm hs hx hr) hfirst hb hlocal

/-- The phrases of a method with one argument. -/
theorem convert_passing (hwords : ∀ w ∈ first :: second :: more, IsKeyword w)
    (hfirst : (ofPhrase (.words first ::
      (more.map .words ++ [.operand, .words second, .receiver])) build).IsFirst
        (first ++ ' ' :: Text.join " " ((more ++ [x, second, c]).map Text.lower)))
    (hb : build [x, c] = some (call c method x.trim)) (hx : IsOperand x) (hc : IsReceiver c) :
    convert .current (Text.join " " (first :: (more ++ [x, second, c]))) =
      .ok (c ++ ("." ++ method ++ "(") ++ x ++ ");") := by
  obtain ⟨hf, hs, hm⟩ := List.forall_mem_cons.1 hwords |>.imp_right List.forall_mem_cons.1
  have hr : Part.Wording [.receiver] c [c] := .name hc.isName
  have hoperands : ∀ w ∈ first :: (more ++ [x, second, c]), IsOperand w := by
    simp only [List.forall_mem_cons, List.forall_mem_append, List.not_mem_nil, false_imp_iff,
      implies_true, and_true]
    exact ⟨hf.isOperand, fun w hw => (hm w hw).isOperand, hx, hs.isOperand, hc.isOperand⟩
  obtain ⟨_, _, hvar⟩ := opens_phrase hf (wording_passing hm hs hx.toIsUnbroken hr) hfirst.mem
  rw [← Text.join_blank _ (List.append_ne_nil_of_right_ne_nil _ (List.cons_ne_nil _ _))] at hvar
  exact convert_called first more second method hwords hfirst hb hx.toIsUnbroken hr
    (not_isLocal_words hoperands hvar)

end

theorem convert_placing {a b : Text} (method : Text) (hw : IsKeyword w)
    (h : Part.Says parts words kept)
    (hfirst : (ofPhrase (.words w :: parts) build).IsFirst
      (w ++ ' ' :: Text.join " " (words.map Text.lower)))
    (hb : build kept = some (call c method (a.trim ++ ", " ++ b.trim)))
    (ha : IsOperand a) (hbo : IsOperand b) :
    convert .current (Text.join " " (w :: words)) =
      .ok (c ++ ("." ++ method ++ "(") ++ a ++ ", " ++ b ++ ");") := by
  rw [ha.trim_eq, hbo.trim_eq] at hb
  rw [convert_phrase hw h hfirst hb, ← List.append_assoc, ← List.append_assoc]

theorem not_covers_of_words {op : Operation} {p : Pattern} {w : Text} (vs us : List Text)
    (hop : op.shape = (w :: vs).flatMap (Pattern.exactly · ++ [.gap]) ++ p)
    (hv : ∀ v ∈ w :: vs, IsKeyword v) (hu : ∀ u ∈ us ++ words, IsUnbroken u) (hne : words ≠ [])
    (hl : us.length = vs.length) (hdiff : us.map Text.lower ≠ vs) :
    op.covers (w ++ ' ' :: Text.join " " ((us ++ words).map Text.lower)) = false := by
  have hmany : (us ++ words).map Text.lower ≠ [] := fun he =>
    hne (List.append_eq_nil_iff.1 (List.map_eq_nil_iff.1 he)).2
  have hwords : ∀ u ∈ w :: us.map Text.lower ++ words.map Text.lower, IsUnbroken u := by
    rw [List.cons_append, ← List.map_append, List.forall_mem_cons, List.forall_mem_map]
    exact ⟨(hv w List.mem_cons_self).isOperand.toIsUnbroken, fun u h => (hu u h).lower⟩
  rw [Bool.eq_false_iff, covers, hop, ← Text.join_blank w hmany, List.map_append,
    ← List.cons_append]
  intro h
  have he := Pattern.eq_of_accepts_words (by simpa using hl) (fun v h => (hv v h).notMem) hwords
    (fun he => hne (List.map_eq_nil_iff.1 he)) h
  exact hdiff (List.cons.inj he).2

section

variable {x r : Text}

/-- Of the phrases with `get` that are tried before the general one, only those for the two ends
can cover what takes an operand from a collection, each with its own word. -/
theorem not_covers_get (h : ∀ u ∈ [x, "from", r], IsUnbroken u) :
    let s := "get" ++ ' ' :: Text.join " " ([x, "from", r].map Text.lower)
    (passing "get item at" "from" "get").covers s = false ∧
      (x.lower ≠ "first" → (asking "get first from" "getFirst").covers s = false) ∧
      (x.lower ≠ "last" → (asking "get last from" "getLast").covers s = false) := by
  refine ⟨?_, fun hfirst => ?_, fun hlast => ?_⟩
  · apply not_covers_of_words ["item", "at"] [x, "from"] rfl (by decide) h
      (List.cons_ne_nil _ _) rfl
    intro he
    exact absurd (List.cons.inj (List.cons.inj he).2).1 (by decide +kernel)
  · apply not_covers_of_words ["first"] [x] rfl (by decide) h (List.cons_ne_nil _ _) rfl
    exact fun he => hfirst (List.cons.inj he).1
  · apply not_covers_of_words ["last"] [x] rfl (by decide) h (List.cons_ne_nil _ _) rfl
    exact fun he => hlast (List.cons.inj he).1

theorem isFirst_getFirst (h : ∀ u ∈ [x, "from", r], IsUnbroken u) :
    (asking "get first from" "getFirst").IsFirst
      ("get" ++ ' ' :: Text.join " " ([x, "from", r].map Text.lower)) := by
  apply isFirst_of_opening [passing "get item at" "from" "get"] opening_get
  exact List.forall_mem_singleton.2 (not_covers_get h).1

theorem isFirst_getLast (h : ∀ u ∈ [x, "from", r], IsUnbroken u) (hfirst : x.lower ≠ "first") :
    (asking "get last from" "getLast").IsFirst
      ("get" ++ ' ' :: Text.join " " ([x, "from", r].map Text.lower)) := by
  obtain ⟨hitem, hend, _⟩ := not_covers_get h
  apply isFirst_of_opening
    [passing "get item at" "from" "get", asking "get first from" "getFirst"] opening_get
  exact List.forall_mem_cons.2 ⟨hitem, List.forall_mem_singleton.2 (hend hfirst)⟩

theorem isFirst_get (h : ∀ u ∈ [x, "from", r], IsUnbroken u) (hfirst : x.lower ≠ "first")
    (hlast : x.lower ≠ "last") : (passing "get" "from" "get").IsFirst
      ("get" ++ ' ' :: Text.join " " ([x, "from", r].map Text.lower)) := by
  obtain ⟨hitem, hfront, hback⟩ := not_covers_get h
  apply isFirst_of_opening [passing "get item at" "from" "get",
    asking "get first from" "getFirst", asking "get last from" "getLast"] opening_get
  simpa only [List.forall_mem_cons, List.not_mem_nil, false_imp_iff, implies_true, and_true]
    using ⟨hitem, hfront hfirst, hback hlast⟩

end

theorem isFirst_set {i c v : Text} (h : ∀ u ∈ [i, "in", c, "to", v], IsOperand u) :
    (setting "set").IsFirst
      ("set" ++ ' ' :: Text.join " " ([i, "in", c, "to", v].map Text.lower)) := by
  have hset : opening "set" = [setting "set item at", setting "set"] := Eq.refl _
  apply isFirst_of_opening [setting "set item at"] hset
  rw [List.forall_mem_singleton]
  apply not_covers_of_words ["item", "at"] [i, "in"] rfl (by decide)
    (fun u hu => (h u hu).toIsUnbroken) (List.cons_ne_nil _ _) rfl
  intro he
  exact absurd (List.cons.inj (List.cons.inj he).2).1 (by decide +kernel)

theorem isFirst_add (t : Text) : (passing "add" "to" "add").IsFirst ("add" ++ ' ' :: t) := by
  have hadd : opening "add" = [passing "add" "to" "add", passing "add first" "to" "addFirst",
      passing "add last" "to" "addLast"] := Eq.refl _
  exact isFirst_of_head hadd t

theorem isFirst_removeIndex (t : Text) :
    (passing "remove index" "from" "remove").IsFirst ("remove" ++ ' ' :: t) := by
  have hremove : opening "remove" =
      [passing "remove index" "from" "remove", removing "remove value", removing "remove"] :=
    Eq.refl _
  exact isFirst_of_head hremove t

theorem isFirst_getItem (t : Text) :
    (passing "get item at" "from" "get").IsFirst ("get" ++ ' ' :: t) :=
  isFirst_of_head opening_get t

/-- The phrases of a method with one argument whose first word is theirs alone. -/
def lonePassings : List (Text × Text × Text) :=
  [("append", "to", "add"), ("push", "to", "push"), ("enqueue", "to", "offer"),
   ("offer", "to", "offer"), ("contains", "in", "contains"), ("has", "in", "contains")]

theorem lonePassings_words : ∀ f ∈ lonePassings,
    (passing f.1 f.2.1 f.2.2).shape.firstWord? = some f.1 ∧ f.1 ∉ sharedWords := by
  decide +kernel

theorem isFirst_passing {first second method : Text}
    (h : (first, second, method) ∈ lonePassings) (t : Text) :
    (passing first second method).IsFirst (first ++ ' ' :: t) := by
  obtain ⟨hfirst, hlone⟩ := lonePassings_words _ h
  refine isFirst_of_lone _ ?_ hfirst hlone t
  simp only [lonePassings, List.mem_cons, Prod.mk.injEq, List.not_mem_nil, or_false] at h
  simp only [Operation.all, searches, List.mem_append, List.mem_cons]
  rcases h with ⟨rfl, rfl, rfl⟩ | ⟨rfl, rfl, rfl⟩ | ⟨rfl, rfl, rfl⟩ | ⟨rfl, rfl, rfl⟩ |
    ⟨rfl, rfl, rfl⟩ | ⟨rfl, rfl, rfl⟩
  all_goals simp only [true_or, or_true]

theorem isFirst_indexOf (t : Text) :
    (passing "index of" "in" "indexOf").IsFirst ("index" ++ ' ' :: t) := by
  refine isFirst_of_lone _ (mem_all_of_placements ?_) rfl (by decide) t
  simp only [placements, List.mem_cons, true_or, or_true]

theorem isFirst_inserting (t : Text) : inserting.IsFirst ("insert" ++ ' ' :: t) := by
  refine isFirst_of_lone _ (mem_all_of_placements ?_) rfl (by decide) t
  simp only [placements, List.mem_cons, true_or, or_true]

theorem isFirst_putting (t : Text) : putting.IsFirst ("put" ++ ' ' :: t) := by
  refine isFirst_of_lone _ ?_ rfl (by decide) t
  simp only [Operation.all, List.mem_append, List.mem_cons, true_or, or_true]

/-- Operations said with operands that are single words, whatever these words are, become calls of
the methods that they name. -/
theorem convert_spoken {x i k v c : Text} (hx : IsOperand x) (hi : IsOperand i) (hk : IsOperand k)
    (hv : IsOperand v) (hc : isAsciiName c = true) (has : c ≠ "as") :
    convert .current (Text.join " " ["add", x, "to", c]) = .ok (c ++ ".add(" ++ x ++ ");") ∧
    convert .current (Text.join " " ["append", x, "to", c]) = .ok (c ++ ".add(" ++ x ++ ");") ∧
    convert .current (Text.join " " ["push", x, "to", c]) = .ok (c ++ ".push(" ++ x ++ ");") ∧
    convert .current (Text.join " " ["enqueue", x, "to", c]) = .ok (c ++ ".offer(" ++ x ++ ");") ∧
    convert .current (Text.join " " ["offer", x, "to", c]) = .ok (c ++ ".offer(" ++ x ++ ");") ∧
    convert .current (Text.join " " ["remove", "index", i, "from", c]) =
      .ok (c ++ ".remove(" ++ i ++ ");") ∧
    convert .current (Text.join " " ["contains", x, "in", c]) =
      .ok (c ++ ".contains(" ++ x ++ ");") ∧
    convert .current (Text.join " " ["has", x, "in", c]) = .ok (c ++ ".contains(" ++ x ++ ");") ∧
    convert .current (Text.join " " ["index", "of", x, "in", c]) =
      .ok (c ++ ".indexOf(" ++ x ++ ");") ∧
    convert .current (Text.join " " ["get", "item", "at", i, "from", c]) =
      .ok (c ++ ".get(" ++ i ++ ");") ∧
    (k.lower ≠ "first" → k.lower ≠ "last" →
      convert .current (Text.join " " ["get", k, "from", c]) = .ok (c ++ ".get(" ++ k ++ ");")) ∧
    convert .current (Text.join " " ["set", i, "in", c, "to", v]) =
      .ok (c ++ ".set(" ++ i ++ ", " ++ v ++ ");") ∧
    convert .current (Text.join " " ["insert", x, "into", c, "at", i]) =
      .ok (c ++ ".add(" ++ i ++ ", " ++ x ++ ");") ∧
    convert .current (Text.join " " ["put", k, "with", v, "in", c]) =
      .ok (c ++ ".put(" ++ k ++ ", " ++ v ++ ");") := by
  have hr : IsReceiver c := ⟨hc, has⟩
  refine ⟨?_, ?_, ?_, ?_, ?_, ?_, ?_, ?_, ?_, ?_, ?_, ?_, ?_, ?_⟩
  · exact convert_passing "add" [] "to" "add" (by decide) (isFirst_add _) rfl hx hr
  · exact convert_passing "append" [] "to" "add" (by decide) (isFirst_passing (by decide) _) rfl
      hx hr
  · exact convert_passing "push" [] "to" "push" (by decide) (isFirst_passing (by decide) _) rfl
      hx hr
  · exact convert_passing "enqueue" [] "to" "offer" (by decide) (isFirst_passing (by decide) _) rfl
      hx hr
  · exact convert_passing "offer" [] "to" "offer" (by decide) (isFirst_passing (by decide) _) rfl
      hx hr
  · exact convert_passing "remove" ["index"] "from" "remove" (by decide) (isFirst_removeIndex _) rfl
      hi hr
  · exact convert_passing "contains" [] "in" "contains" (by decide) (isFirst_passing (by decide) _)
      rfl hx hr
  · exact convert_passing "has" [] "in" "contains" (by decide) (isFirst_passing (by decide) _) rfl
      hx hr
  · exact convert_passing "index" ["of"] "in" "indexOf" (by decide) (isFirst_indexOf _) rfl hx hr
  · exact convert_passing "get" ["item", "at"] "from" "get" (by decide) (isFirst_getItem _) rfl
      hi hr
  · intro hfirst hlast
    have hspoken : Part.Says [.operand, .words "from", .receiver] [k, "from", c] [k, c] :=
      .operand hk (.word (by decide) (.receiver hr))
    exact convert_passing "get" [] "from" "get" (by decide)
      (isFirst_get (fun u hu => (hspoken.isOperand u hu).toIsUnbroken) hfirst hlast) rfl hk hr
  · have hspoken : Part.Says [.operand, .words "in", .receiver, .words "to", .tail]
        [i, "in", c, "to", v] [i, c, v] :=
      .operand hi (.word (by decide) (.named hr (.word (by decide) (.tail hv))))
    exact convert_placing "set" (by decide) hspoken (isFirst_set hspoken.isOperand) rfl hi hv
  · have hspoken : Part.Says [.operand, .words "into", .receiver, .words "at", .tail]
        [x, "into", c, "at", i] [x, c, i] :=
      .operand hx (.word (by decide) (.named hr (.word (by decide) (.tail hi))))
    exact convert_placing "add" (by decide) hspoken (isFirst_inserting _) rfl hi hx
  · have hspoken : Part.Says [.operand, .words "with", .operand, .words "in", .receiver]
        [k, "with", v, "in", c] [k, v, c] :=
      .operand hk (.word (by decide) (.operand hv (.word (by decide) (.receiver hr))))
    exact convert_placing "put" (by decide) hspoken (isFirst_putting _) rfl hk hv

theorem convert_spoken_keywords :
    IsOperand "to" ∧ IsOperand "at" ∧ IsOperand "item" ∧ IsOperand "in=\"//#\"" ∧
      isAsciiName "from" = true ∧ convert .current "get item from from" = .ok "from.get(item);" ∧
      convert .current "set at in from to in=\"//#\"" = .ok "from.set(at, in=\"//#\");" ∧
      convert .current "insert to into from at at" = .ok "from.add(at, to);" := by
  have hto : IsOperand "to" := ⟨⟨by decide, by decide⟩, by decide⟩
  have hat : IsOperand "at" := ⟨⟨by decide, by decide⟩, by decide⟩
  have hitem : IsOperand "item" := ⟨⟨by decide, by decide⟩, by decide⟩
  have hin : IsOperand "in=\"//#\"" := ⟨⟨by decide, by decide⟩, by decide⟩
  obtain ⟨_, _, _, _, _, _, _, _, _, _, hget, hset, hinsert, _⟩ :=
    convert_spoken (c := "from") hto hat hitem hin (by decide) (by decide)
  exact ⟨hto, hat, hitem, hin, by decide, hget (by decide +kernel) (by decide +kernel), hset,
    hinsert⟩

end Statement

end JavaSketch
