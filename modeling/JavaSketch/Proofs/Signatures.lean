import JavaSketch.Proofs.Matching
import JavaSketch.Proofs.Position

namespace JavaSketch

theorem wordSpans_skip_blanks :
    ∀ b ∈ blankSpans, ∀ w ∈ wordSpans, b.2 < w.1 ∨ w.2 < b.1 := by decide +kernel

theorem ascii_not_blank :
    ∀ n < 0x80, isAsciiWord (Char.ofNat n) = true → inSpans blankSpans n = false := by decide

theorem not_blank_of_isWord {c : Char} (h : isWord c = true) : isBlank c = false := by
  rw [isWord] at h
  split at h
  · rename_i hc
    rw [← Char.ofNat_toNat c] at h
    exact ascii_not_blank c.toNat hc h
  · obtain ⟨w, hw, hcw⟩ := List.any_eq_true.1 h
    rw [isBlank, inSpans, List.any_eq_false]
    intro b hb hcb
    have hd := wordSpans_skip_blanks b hb w hw
    simp only [Bool.and_eq_true, decide_eq_true_eq] at hcw hcb
    omega

theorem not_isWord_of_blank {c : Char} (h : isBlank c = true) : isWord c = false := by
  rw [Bool.eq_false_iff]
  intro hw
  rw [not_blank_of_isWord hw] at h
  cases h

/-- A name is made of word characters. -/
structure IsName (s : Text) : Prop where
  ne_nil : s ≠ []
  chars : s.all isWord = true

namespace IsName

variable {s : Text} {c : Char} (h : IsName s)
include h

theorem char (hc : c ∈ s) : isWord c = true := List.all_eq_true.1 h.chars c hc

theorem notMem (hc : isWord c = false) : c ∉ s := by
  intro hm
  rw [h.char hm] at hc
  cases hc

theorem trim_eq : s.trim = s := by
  apply Text.trim_of_ends
  · intro c hc
    exact not_blank_of_isWord (h.char (List.mem_of_mem_head? hc))
  · intro c hc
    exact not_blank_of_isWord (h.char (List.mem_of_mem_getLast? hc))

theorem head_append (rest : Text) : ∀ c ∈ (s ++ rest).head?, isBlank c = false := by
  intro c hc
  rw [List.head?_append_of_ne_nil _ h.ne_nil] at hc
  exact not_blank_of_isWord (h.char (List.mem_of_head? hc))

end IsName

namespace Signature

variable {s t name params gap : Text}

/-- A call is read back into its name and what stands in its parentheses, whatever follows it. -/
theorem callParts?_spaced (hn : IsName name) (hgap : ∀ c ∈ gap, isBlank c = true)
    (hp : ∀ c ∈ params, c ≠ '\n' ∧ c ≠ ')') (rest : Text) :
    callParts? (name ++ (gap ++ '(' :: (params ++ ')' :: rest))) = some (name, params) := by
  have hlist : Pattern.find? [.run .any 0 false true, .exact ')'] (params ++ ')' :: rest) =
      some [params] := by
    apply Pattern.find?_shortest
    · intro c hc
      exact bne_iff_ne.2 (hp c hc).1
    · intro hc
      exact (hp _ hc).2 rfl
    · rfl
  have hopen : Pattern.find? [.exact '(', .run .any 0 false true, .exact ')']
      ('(' :: (params ++ ')' :: rest)) = some [params] := by
    rw [Pattern.find?, if_pos rfl, hlist]
  have hspace : Pattern.find? [.space, .exact '(', .run .any 0 false true, .exact ')']
      (gap ++ '(' :: (params ++ ')' :: rest)) = some [params] := by
    apply Pattern.find?_longest false hgap _ (Nat.zero_le _) hopen
    intro c hc
    cases hc
    rfl
  have hname : Pattern.find? [.name, .space, .exact '(', .run .any 0 false true, .exact ')']
      (name ++ (gap ++ '(' :: (params ++ ')' :: rest))) = some [name, params] := by
    have hw : ∀ c ∈ name, isWord c = true := fun c hc => hn.char hc
    apply Pattern.find?_longest true hw _ (List.length_pos_iff.2 hn.ne_nil) hspace
    intro c hc
    cases gap with
    | nil =>
      cases hc
      rfl
    | cons d gap =>
      cases hc
      exact not_isWord_of_blank (hgap c List.mem_cons_self)
  have hpattern : pattern =
      [.name, .space, .exact '(', .run .any 0 false true, .exact ')'] := rfl
  rw [callParts?, hpattern, hname]

theorem callParts?_call (hn : IsName name) (hp : ∀ c ∈ params, c ≠ '\n' ∧ c ≠ ')') (rest : Text) :
    callParts? (name ++ "(" ++ params ++ ")" ++ rest) = some (name, params) := by
  have htext : name ++ "(".toList ++ params ++ ")".toList ++ rest =
      name ++ ([] ++ '(' :: (params ++ ')' :: rest)) := by
    rw [List.append_assoc, List.append_assoc, List.append_assoc]
    rfl
  rw [htext]
  exact callParts?_spaced hn (List.forall_mem_nil _) hp rest

/-- What is read as a call is a name, blanks, and a list up to the first closing parenthesis. -/
theorem exists_of_callParts? (h : callParts? s = some (name, params)) :
    ∃ gap rest, s = name ++ (gap ++ '(' :: (params ++ ')' :: rest)) ∧ IsName name ∧
      (∀ c ∈ gap, isBlank c = true) ∧ ∀ c ∈ params, c ≠ '\n' ∧ c ≠ ')' := by
  have hfind : Pattern.find? (.name :: .space :: .exact '(' :: .run .any 0 false true ::
      Pattern.exactly ")") s = some [name, params] := by
    rw [callParts?] at h
    split at h
    · rename_i hkept
      cases h
      exact hkept
    · cases h
  obtain ⟨n, more, hword, hfind, hkept⟩ := Pattern.takes_of_find? hfind
  obtain ⟨rfl, rfl⟩ : name = s.take n ∧ [params] = more := List.cons.inj hkept
  obtain ⟨m, more, hblank, hfind, hkept⟩ := Pattern.takes_of_find? hfind
  obtain rfl : [params] = more := hkept
  obtain ⟨k, more, ⟨rfl, hopen⟩, hfind, hkept⟩ := Pattern.takes_of_find? hfind
  obtain rfl : [params] = more := hkept
  obtain ⟨list, hlist⟩ := List.head?_eq_some_iff.1 hopen
  rw [hlist, List.drop_one, List.tail_cons, Pattern.find?_upTo] at hfind
  obtain ⟨⟨before, rest⟩, hcut, hbefore⟩ := Option.bind_eq_some_iff.1 hfind
  split at hbefore
  · rename_i hall
    obtain rfl : before = params := (List.cons.inj (Option.some.inj hbefore)).1
    have htake {p : Char → Bool} {s : Text} {n : Nat} (hn : n ≤ (s.takeWhile p).length) :
        ∀ c ∈ s.take n, p c = true := by
      intro c hc
      have hfront : s.take n <+: s.takeWhile p :=
        List.prefix_of_prefix_length_le (List.take_prefix n s) (List.takeWhile_prefix p)
          ((List.length_take_le n s).trans hn)
      exact List.all_eq_true.1 List.all_takeWhile c (hfront.subset hc)
    refine ⟨(s.drop n).take m, rest, ?_, ⟨?_, List.all_eq_true.2 (htake hword.2)⟩,
      htake hblank.2, fun c hc => ⟨bne_iff_ne.1 (List.all_eq_true.1 hall c hc), ?_⟩⟩
    · have hclose : list = before ++ ')' :: rest := by
        rw [Text.eq_of_cut? hcut, List.append_assoc]
        rfl
      rw [← hclose, ← hlist, List.take_append_drop, List.take_append_drop]
    · rw [ne_eq, List.take_eq_nil_iff, not_or]
      refine ⟨Nat.ne_of_gt hword.1, ?_⟩
      rintro rfl
      rw [List.drop_nil, List.drop_nil] at hopen
      cases hopen
    · rintro rfl
      exact Text.notMem_of_cut? hcut hc
  · cases hbefore

theorem callParts?_append {parts : Text × Text} (h : callParts? s = some parts) (rest : Text) :
    callParts? (s ++ rest) = some parts := by
  obtain ⟨gap, more, rfl, hn, hgap, hp⟩ := exists_of_callParts? h
  have htext : parts.1 ++ (gap ++ '(' :: (parts.2 ++ ')' :: more)) ++ rest =
      parts.1 ++ (gap ++ '(' :: (parts.2 ++ ')' :: (more ++ rest))) := by
    simp only [List.append_assoc, List.cons_append]
  rw [htext]
  exact callParts?_spaced hn hgap hp _

theorem callParts?_append_of_notMem {rest : Text} (hrest : ')' ∉ rest) (s : Text) :
    callParts? (s ++ rest) = callParts? s := by
  cases hs : callParts? s with
  | some parts => exact callParts?_append hs rest
  | none =>
    rw [Option.eq_none_iff_forall_ne_some]
    intro parts hparts
    obtain ⟨gap, more, htext, hn, hgap, hp⟩ := exists_of_callParts? hparts
    have hcall : s ++ rest = (parts.1 ++ (gap ++ '(' :: parts.2)) ++ [')'] ++ more := by
      rw [htext]
      simp only [List.append_assoc, List.cons_append, List.nil_append]
    have hfront : (parts.1 ++ (gap ++ '(' :: parts.2)) ++ [')'] <+: s := by
      rcases List.append_eq_append_iff.1 hcall with ⟨tail, htail, hmore⟩ | ⟨behind, rfl, -⟩
      · cases hlast : tail.getLast? with
        | none => rw [htail, List.getLast?_eq_none_iff.1 hlast, List.append_nil]
        | some c =>
          have hend := congrArg List.getLast? htail
          rw [List.getLast?_concat, List.getLast?_append, hlast] at hend
          obtain rfl : ')' = c := Option.some.inj hend
          exact absurd (hmore ▸ List.mem_append_left _ (List.mem_of_getLast? hlast)) hrest
      · exact List.prefix_append _ _
    obtain ⟨behind, rfl⟩ := hfront
    have hagain := callParts?_spaced hn hgap hp behind
    simp only [List.append_assoc, List.cons_append, List.nil_append] at hs
    rw [hs] at hagain
    cases hagain

end Signature

namespace Parameter

/-- What can stand between the commas of a list. -/
structure IsPiece (p : Text) : Prop where
  ne_nil : p ≠ []
  trim_eq : p.trim = p
  comma_notMem : ',' ∉ p

/-- A list with a comma and a blank between its pieces is read piece by piece. -/
theorem readAll_join (one : Text → Except Fault Param) {pieces : List Text}
    (h : ∀ p ∈ pieces, IsPiece p) : readAll one (Text.join ", " pieces) = pieces.mapM one := by
  cases pieces with
  | nil => rfl
  | cons p ps =>
    have hp := h p List.mem_cons_self
    have hne : (Text.join ", " (p :: ps)).trim ≠ [] := by
      obtain ⟨c, w, hw⟩ := List.exists_cons_of_ne_nil hp.ne_nil
      have hc : c ∈ p.head? := by rw [hw, List.head?_cons, Option.mem_some_iff]
      apply Text.trim_ne_nil _ (Text.head_of_trim hp.trim_eq c hc)
      rw [Text.join_cons]
      exact List.mem_append_left _ (List.mem_of_mem_head? hc)
    have hpieces : (Text.splitAt ',' (Text.join ", " (p :: ps))).map Text.trim = p :: ps :=
      Text.map_trim_splitAt_join fun piece hm => ⟨(h piece hm).trim_eq, (h piece hm).comma_notMem⟩
    calc readAll one (Text.join ", " (p :: ps))
        = (Text.splitAt ',' (Text.join ", " (p :: ps))).mapM (one ∘ Text.trim) := if_neg hne
      _ = (p :: ps).mapM one := by rw [← List.mapM_map, hpieces]

end Parameter

/-- A type or a name in a list of parameters. -/
structure IsParamWord (w : Text) : Prop where
  ne_nil : w ≠ []
  ne_returns : w ≠ "returns"
  chars : w.all (fun c => !isBlank c && c != ',' && c != '(' && c != ')') = true

/-- A parameter as it is written. -/
structure ParamText where
  type : Text
  name : Text
  type_word : IsParamWord type
  name_word : IsParamWord name

/-- A signature as it is written: behind eight blanks, an access mark that may be followed by
blanks, a name, the parameters and a return type. -/
structure SignatureText where
  pad : Text
  access : Access
  gap : Text
  name : Text
  params : List ParamText
  returns : Text
  pad_blank : pad.all isBlank = true
  pad_length : pad.length = 8
  gap_blank : gap.all isBlank = true
  gap_of_pack : access = .pack → gap = []
  name_ne : name ≠ []
  name_word : name.all isWord = true
  returns_ne : returns ≠ []
  returns_trim : returns.trim = returns

namespace ParamText

def text (p : ParamText) : Text := p.type ++ " " ++ p.name

/-- The parameter with its type in Java. -/
def toParam (p : ParamText) : Param := ⟨p.name, TypeTable.full.javaName p.type⟩

end ParamText

namespace SignatureText

def paramsText (m : SignatureText) : Text := Text.join ", " (m.params.map ParamText.text)

def call (m : SignatureText) : Text := m.name ++ "(" ++ m.paramsText ++ ")"

/-- What stands behind the access mark. -/
def head (m : SignatureText) : Text := m.call ++ " returns " ++ m.returns

def line (m : SignatureText) : Text := m.pad ++ (m.access.mark ++ m.gap ++ m.head)

end SignatureText

/-- A word that can stand in a list of parameters; an opening parenthesis may be inside. -/
structure IsListWord (w : Text) : Prop where
  ne_nil : w ≠ []
  ne_returns : w ≠ "returns"
  chars : w.all (fun c => !isBlank c && c != ',' && c != ')') = true

theorem IsParamWord.isListWord {w : Text} (h : IsParamWord w) : IsListWord w where
  ne_nil := h.ne_nil
  ne_returns := h.ne_returns
  chars := by
    rw [List.all_eq_true]
    intro c hc
    have ha := List.all_eq_true.1 h.chars c hc
    simp only [Bool.and_eq_true] at ha ⊢
    exact ⟨ha.1.1, ha.2⟩

namespace IsListWord

variable {w : Text} {c : Char} (h : IsListWord w)
include h

theorem char (hc : c ∈ w) : isBlank c = false ∧ c ≠ ',' ∧ c ≠ ')' := by
  have ha := List.all_eq_true.1 h.chars c hc
  simp only [Bool.and_eq_true, Bool.not_eq_true', bne_iff_ne] at ha
  obtain ⟨⟨hb, hcomma⟩, hclose⟩ := ha
  exact ⟨hb, hcomma, hclose⟩

theorem notMem_of_blank (hb : isBlank c = true) : c ∉ w := by
  intro hc
  rw [(h.char hc).1] at hb
  cases hb

theorem trim_eq : w.trim = w := by
  apply Text.trim_of_ends
  · intro c hc
    exact (h.char (List.mem_of_mem_head? hc)).1
  · intro c hc
    exact (h.char (List.mem_of_mem_getLast? hc)).1

end IsListWord

/-- A parameter between commas: a type, a blank and a name. -/
structure WrittenParam where
  type : Text
  name : Text
  type_word : IsListWord type
  name_word : IsListWord name

namespace WrittenParam

def text (p : WrittenParam) : Text := p.type ++ " " ++ p.name

/-- The parameter with its type in Java. -/
def toParam (p : WrittenParam) : Param := ⟨p.name, TypeTable.full.javaName p.type⟩

def list (ps : List WrittenParam) : Text := Text.join ", " (ps.map text)

theorem text_eq (p : WrittenParam) : p.text = p.type ++ ' ' :: p.name := by
  rw [text, List.append_assoc]
  rfl

theorem read_text (bare : Text → Except Fault Text) (p : WrittenParam) :
    Parameter.read .full bare p.text = .ok p.toParam := by
  have hcut : Text.cut? " " p.text = some (p.type, p.name) := by
    have hs : Text.cut? " " (" ".toList ++ p.name) = some ([], p.name) :=
      Text.cut?_self (by decide) p.name
    have ht : Text.cut? " " (p.type ++ (" ".toList ++ p.name)) =
        (Text.cut? " " (" ".toList ++ p.name)).map fun res => (p.type ++ res.1, res.2) :=
      Text.cut?_append (p.type_word.notMem_of_blank rfl)
    rw [text, List.append_assoc, ht, hs, Option.map_some, List.append_nil]
  rw [Parameter.read, hcut]
  dsimp only
  rw [p.name_word.trim_eq, p.type_word.trim_eq]
  rfl

theorem readTyped_text (p : WrittenParam) : Parameter.readTyped .full p.text = .ok p.toParam := by
  have hwords : p.text.words = [p.type, p.name] := by
    rw [text_eq]
    exact Text.words_pair p.type_word.ne_nil p.name_word.ne_nil
      (fun c hc => (p.type_word.char hc).1) fun c hc => (p.name_word.char hc).1
  have hblank : p.text.includes " " = true := by
    rw [text_eq]
    exact Text.includes_of_mem (List.mem_append_right _ List.mem_cons_self)
  rw [Parameter.readTyped, hblank, if_pos rfl, hwords]
  dsimp only
  rw [Text.join_one]
  rfl

theorem head_text (p : WrittenParam) : ∀ c ∈ p.text.head?, isBlank c = false := by
  intro c hc
  obtain ⟨d, w, hw⟩ := List.exists_cons_of_ne_nil p.type_word.ne_nil
  rw [text, List.append_assoc, hw, List.cons_append, List.head?_cons] at hc
  cases hc
  exact (p.type_word.char (hw ▸ List.mem_cons_self)).1

theorem trim_text (p : WrittenParam) : p.text.trim = p.text := by
  apply Text.trim_of_ends p.head_text
  intro c hc
  rw [text, List.getLast?_append_of_ne_nil _ p.name_word.ne_nil] at hc
  exact (p.name_word.char (List.mem_of_mem_getLast? hc)).1

theorem char_text {c : Char} (p : WrittenParam) (hc : c ∈ p.text) :
    c = ' ' ∨ isBlank c = false ∧ c ≠ ',' ∧ c ≠ ')' := by
  rw [text, List.append_assoc, List.mem_append, List.mem_append] at hc
  rcases hc with hc | hc | hc
  · exact .inr (p.type_word.char hc)
  · exact .inl (List.mem_singleton.1 hc)
  · exact .inr (p.name_word.char hc)

theorem isPiece (p : WrittenParam) : Parameter.IsPiece p.text where
  ne_nil := by
    rw [text_eq]
    exact List.append_ne_nil_of_left_ne_nil p.type_word.ne_nil _
  trim_eq := p.trim_text
  comma_notMem := by
    intro hc
    rcases p.char_text hc with h | h
    · cases h
    · exact h.2.1 rfl

theorem list_cons (p : WrittenParam) (ps : List WrittenParam) :
    list (p :: ps) = p.text ++ (ps.map fun q => ' ' :: q.text).flatMap (',' :: ·) := by
  rw [list, List.map_cons, Text.join_cons, List.flatMap_map, List.flatMap_map]
  rfl

theorem readAll_list {one : Text → Except Fault Param} (ps : List WrittenParam)
    (hone : ∀ p : WrittenParam, one p.text = .ok p.toParam) :
    Parameter.readAll one (list ps) = .ok (ps.map toParam) := by
  have hpieces : ∀ piece ∈ ps.map text, Parameter.IsPiece piece := by
    intro piece hp
    obtain ⟨p, _, rfl⟩ := List.mem_map.1 hp
    exact p.isPiece
  rw [list, Parameter.readAll_join _ hpieces, List.mapM_map]
  exact mapM_eq_ok fun p _ => hone p

/-- A written list of parameters is read alike in a template and outside of one. -/
theorem paramsFor_list (t? : Option Template) (ps : List WrittenParam) :
    Method.paramsFor t? (list ps) = .ok (ps.map toParam) := by
  cases t? with
  | none => exact readAll_list ps readTyped_text
  | some t => exact readAll_list ps (read_text _)

/-- The words of a list of parameters, after its first type. -/
def words : WrittenParam → List WrittenParam → List Text
  | p, [] => [p.name ++ [')']]
  | p, q :: ps => (p.name ++ [',']) :: q.type :: words q ps

theorem list_words (p : WrittenParam) (ps : List WrittenParam) :
    list (p :: ps) ++ [')'] = p.type ++ (words p ps).flatMap (' ' :: ·) := by
  induction ps generalizing p with
  | nil =>
    rw [list_cons, words]
    simp [text]
  | cons q ps ih =>
    have hq := ih q
    rw [list_cons, List.append_assoc] at hq
    rw [list_cons, words, List.map_cons, List.flatMap_cons, List.flatMap_cons, List.flatMap_cons]
    simp [text] at hq ⊢
    rw [hq]

theorem space_notMem_append {w : Text} (h : IsListWord w) {c : Char} (hc : c ≠ ' ') :
    ' ' ∉ w ++ [c] := by
  intro hm
  rcases List.mem_append.1 hm with hm | hm
  · exact h.notMem_of_blank rfl hm
  · exact hc (List.mem_singleton.1 hm).symm

theorem append_ne_returns (w : Text) {c : Char} (hc : c ∉ "returns".toList) :
    w ++ [c] ≠ "returns" := by
  intro h
  exact hc (h ▸ List.mem_append_right w (List.mem_singleton.2 rfl))

theorem words_skip (p : WrittenParam) (ps : List WrittenParam) :
    ∀ word ∈ words p ps, ' ' ∉ word ∧ word ≠ "returns" := by
  induction ps generalizing p with
  | nil =>
    rw [words, List.forall_mem_singleton]
    exact ⟨space_notMem_append p.name_word (by decide), append_ne_returns _ (by decide)⟩
  | cons q ps ih =>
    rw [words, List.forall_mem_cons, List.forall_mem_cons]
    exact ⟨⟨space_notMem_append p.name_word (by decide), append_ne_returns _ (by decide)⟩,
      ⟨q.type_word.notMem_of_blank rfl, q.type_word.ne_returns⟩, ih q⟩

theorem char_list {c : Char} {ps : List WrittenParam} (hc : c ∈ list ps) : c ≠ '\n' ∧ c ≠ ')' := by
  have htext (p : WrittenParam) (hc : c ∈ p.text) : c ≠ '\n' ∧ c ≠ ')' := by
    rcases p.char_text hc with rfl | ⟨hb, _, hclose⟩
    · decide
    · refine ⟨?_, hclose⟩
      rintro rfl
      cases hb
  cases ps with
  | nil => cases hc
  | cons p ps =>
    rw [list_cons, List.mem_append, List.flatMap_map, List.mem_flatMap] at hc
    rcases hc with hc | ⟨q, _, hc⟩
    · exact htext p hc
    · rcases List.mem_cons.1 hc with rfl | hc
      · decide
      · rcases List.mem_cons.1 hc with rfl | hc
        · decide
        · exact htext q hc

end WrittenParam

namespace Signature

variable {name returns : Text} (ps : List WrittenParam)

/-- A call with its parameters. -/
def callText (name : Text) : Text := name ++ "(" ++ WrittenParam.list ps ++ ")"

theorem callText_words (hn : IsName name) : ∃ (before : Text) (parts : List Text),
    callText ps name = before ++ parts.flatMap (' ' :: ·) ∧ ' ' ∉ before ∧
      ∀ part ∈ parts, ' ' ∉ part ∧ part ≠ "returns" := by
  cases ps with
  | nil =>
    refine ⟨name ++ "()".toList, [], ?_, ?_, List.forall_mem_nil _⟩
    · simp [callText, WrittenParam.list, Text.join]
    · rw [List.mem_append, not_or]
      exact ⟨hn.notMem rfl, by decide⟩
  | cons p ps =>
    refine ⟨name ++ "(".toList ++ p.type, WrittenParam.words p ps, ?_, ?_,
      WrittenParam.words_skip p ps⟩
    · have hp := WrittenParam.list_words p ps
      rw [callText, List.append_assoc, List.append_assoc _ p.type]
      exact congrArg _ hp
    · rw [List.mem_append, List.mem_append, not_or, not_or]
      exact ⟨⟨hn.notMem rfl, by decide⟩, p.type_word.notMem_of_blank rfl⟩

/-- Reading a signature gives back its name, its list of parameters and its return type. -/
theorem read?_callText (hn : IsName name) (hr : returns.trim = returns) :
    read? returnsOrArrow (callText ps name ++ " returns " ++ returns) =
      some ⟨name, WrittenParam.list ps, returns⟩ := by
  obtain ⟨before, parts, hcall, hb, hp⟩ := callText_words ps hn
  have hcut : Text.cut? " returns " (callText ps name ++ " returns " ++ returns) =
      some (callText ps name, returns) := by
    let after := parts.flatMap (' ' :: ·) ++ (" returns ".toList ++ returns)
    have hw : Text.cut? " returns " after = some (parts.flatMap (' ' :: ·), returns) :=
      Text.cut?_words (by decide) hp
    have hs : Text.cut? " returns " (before ++ after) =
        (Text.cut? " returns " after).map fun res => (before ++ res.1, res.2) :=
      Text.cut?_append hb
    rw [hcall, List.append_assoc, List.append_assoc, hs, hw]
    rfl
  have hsplit : splitReturns returnsOrArrow (callText ps name ++ " returns " ++ returns) =
      (callText ps name, returns) := by
    rw [splitReturns, returnsOrArrow, List.findSome?_cons, hcut]
    dsimp only
    rw [hr]
  have hparts : callParts? (callText ps name ++ []) = some (name, WrittenParam.list ps) :=
    callParts?_call hn (fun c hc => WrittenParam.char_list hc) []
  rw [List.append_nil] at hparts
  rw [read?, hsplit]
  dsimp only
  rw [hparts]
  rfl

end Signature

/-- A parameter without parentheses is a written one. -/
def ParamText.written (p : ParamText) : WrittenParam where
  type := p.type
  name := p.name
  type_word := p.type_word.isListWord
  name_word := p.name_word.isListWord

namespace SignatureText

variable (m : SignatureText)

theorem list_written : WrittenParam.list (m.params.map ParamText.written) = m.paramsText := by
  rw [WrittenParam.list, List.map_map]
  rfl

theorem readIn_paramsText (t : Template) :
    Parameter.readIn t m.paramsText = .ok (m.params.map ParamText.toParam) := by
  have h := WrittenParam.paramsFor_list (some t) (m.params.map ParamText.written)
  rw [list_written, List.map_map] at h
  exact h

theorem isWord_name {c : Char} (hc : c ∈ m.name) : isWord c = true :=
  List.all_eq_true.1 m.name_word c hc

theorem read?_head : Signature.read? Signature.returnsOrArrow m.head =
    some ⟨m.name, m.paramsText, m.returns⟩ := by
  have h := Signature.read?_callText (m.params.map ParamText.written) ⟨m.name_ne, m.name_word⟩
    m.returns_trim
  rw [Signature.callText, list_written] at h
  exact h

/-- What can end the first name of a line that is a signature, or stand in front of it. -/
def signs : List Char := ['*', '-', '+', '(']

/-- What stands behind the blanks in front. -/
def text : Text := m.access.mark ++ m.gap ++ m.head

/-- A signature begins with characters of its name, if any, and then with an access mark or with the
parenthesis after the name. -/
theorem text_eq : ∃ (begun : Text) (d : Char) (rest : Text), m.text = begun ++ d :: rest ∧
    (∀ c ∈ begun, isWord c = true) ∧ d ∈ signs := by
  rw [text]
  cases h : m.access with
  | pub => exact ⟨[], '*', m.gap ++ m.head, rfl, List.forall_mem_nil _, by decide⟩
  | priv => exact ⟨[], '-', m.gap ++ m.head, rfl, List.forall_mem_nil _, by decide⟩
  | prot => exact ⟨[], '+', m.gap ++ m.head, rfl, List.forall_mem_nil _, by decide⟩
  | pack =>
    refine ⟨m.name, '(', m.paramsText ++ ")".toList ++ " returns ".toList ++ m.returns, ?_, ?_,
      by decide⟩
    · rw [m.gap_of_pack h, head, call]
      simp [Access.mark]
    · intro c hc
      exact m.isWord_name hc

theorem sign_not_blank {d : Char} (hd : d ∈ signs) : isBlank d = false ∧ d ≠ '/' ∧ d ≠ '#' := by
  have h : signs.all (fun d => !isBlank d && d != '/' && d != '#') = true := by decide
  have ha := List.all_eq_true.1 h d hd
  simp only [Bool.and_eq_true, Bool.not_eq_true', bne_iff_ne] at ha
  exact ⟨ha.1.1, ha.1.2, ha.2⟩

theorem text_head : ∀ c ∈ m.text.head?, isBlank c = false ∧ c ≠ '/' ∧ c ≠ '#' := by
  obtain ⟨begun, d, rest, he, hb, hd⟩ := m.text_eq
  intro c hc
  rw [he] at hc
  cases begun with
  | nil =>
    cases hc
    exact sign_not_blank hd
  | cons e begun =>
    cases hc
    have hw := hb c List.mem_cons_self
    refine ⟨not_blank_of_isWord hw, ?_, ?_⟩
    · rintro rfl
      cases hw
    · rintro rfl
      cases hw

theorem getLast_head : ∀ c ∈ m.head.getLast?, isBlank c = false := by
  intro c hc
  rw [head, List.getLast?_append_of_ne_nil _ m.returns_ne] at hc
  exact Text.getLast_of_trim m.returns_trim c hc

theorem head_ne : m.head ≠ [] := by
  rw [head]
  exact List.append_ne_nil_of_right_ne_nil _ m.returns_ne

theorem trim_head : m.head.trim = m.head := by
  apply Text.trim_of_ends _ m.getLast_head
  intro c hc
  obtain ⟨d, w, hw⟩ := List.exists_cons_of_ne_nil m.name_ne
  rw [head, call, hw] at hc
  cases hc
  exact not_blank_of_isWord (m.isWord_name (hw ▸ List.mem_cons_self))

theorem pad_isBlank : ∀ c ∈ m.pad, isBlank c = true := List.all_eq_true.1 m.pad_blank

theorem trim_line : m.line.trim = m.text := by
  rw [line, Text.trim_append m.pad_isBlank]
  apply Text.trim_of_ends
  · intro c hc
    exact (m.text_head c hc).1
  · intro c hc
    rw [List.getLast?_append_of_ne_nil _ m.head_ne] at hc
    exact m.getLast_head c hc

theorem indent_line : m.line.indent = 8 := by
  rw [line, Text.indent_append m.pad_isBlank, m.pad_length]
  intro c hc
  exact (m.text_head c hc).1

theorem parts_of_isWord {c : Char} (h : isWord c = true) (s : Text) :
    Access.parts (c :: s) = (.pack, c :: s) := by
  have hm : Access.ofMark? c = none := by
    rw [Access.ofMark?.eq_def]
    split
    · cases h
    · cases h
    · cases h
    · rfl
  rw [Access.parts, Access.ofFirst, hm]

theorem access_parts : Access.parts m.text = (m.access, m.head) := by
  have hgap : Text.trim (m.gap ++ m.head) = m.head := by
    rw [Text.trim_append (List.all_eq_true.1 m.gap_blank), m.trim_head]
  rw [text]
  cases h : m.access with
  | pub => exact congrArg (Access.pub, ·) hgap
  | priv => exact congrArg (Access.priv, ·) hgap
  | prot => exact congrArg (Access.prot, ·) hgap
  | pack =>
    obtain ⟨d, w, hw⟩ := List.exists_cons_of_ne_nil m.name_ne
    have hd := m.isWord_name (hw ▸ List.mem_cons_self : d ∈ m.name)
    rw [m.gap_of_pack h, head, call, hw]
    exact parts_of_isWord hd _

end SignatureText

end JavaSketch
