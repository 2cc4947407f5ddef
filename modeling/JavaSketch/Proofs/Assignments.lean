import JavaSketch.Proofs.Creations
import JavaSketch.Proofs.SecondWords
import JavaSketch.Proofs.SpokenReceivers
import JavaSketch.Proofs.TypedStatements

namespace JavaSketch

namespace Statement

open Operation

/-- What can be assigned to: names with dots between them. -/
structure IsTarget (l : Text) : Prop extends IsUnbroken l where
  plain : ∀ d ∈ l, isWord d = true ∨ d = '.'

theorem IsTarget.free {l : Text} (h : IsTarget l) {d : Char} (hd : isWord d = false)
    (hdot : d ≠ '.') : d ∉ l := by
  intro hm
  rcases h.plain d hm with hw | rfl
  · rw [hw] at hd
    cases hd
  · exact hdot rfl

theorem isTarget_path {name : Text} {names : List Text} (h : ∀ n ∈ name :: names, IsName n) :
    IsTarget (Text.join "." (name :: names)) :=
  ⟨isUnbroken_path h, fun _ => char_of_path h⟩

theorem IsTarget.cut?_as {l : Text} (h : IsTarget l) : Text.cut? " as " l = none :=
  Text.cut?_eq_none (Text.not_includes_of_notMem List.mem_cons_self (h.notMem rfl))

/-- The signs of an assignment. -/
def assigningSigns : List Text := ["=", "+=", "-=", "*=", "/=", "%="]

/-- The line up to its sign. -/
def upToSign (l sign : Text) : Text := l ++ ' ' :: sign

variable {l sign e b : Text}

theorem sign_facts : ∀ sign ∈ assigningSigns,
    sign ≠ [] ∧ sign.all isMark = true ∧ '=' ∉ sign.dropLast ∧ sign = sign.dropLast ++ "=" ∧
      ∀ part ∈ comparisons, sign.includes part = false := by
  decide

theorem blank_notMem_sign (hs : sign ∈ assigningSigns) : ' ' ∉ sign := by
  obtain ⟨-, hmarks, -⟩ := sign_facts sign hs
  intro hm
  exact absurd (List.all_eq_true.1 hmarks _ hm) (by decide)

theorem exists_mark (hs : sign ∈ assigningSigns) :
    ∃ d rest, sign = d :: rest ∧ isMark d = true := by
  obtain ⟨hne, hmarks, -⟩ := sign_facts sign hs
  obtain ⟨d, rest, rfl⟩ := List.exists_cons_of_ne_nil hne
  exact ⟨d, rest, rfl, (Bool.and_eq_true_iff.1 hmarks).1⟩

/-- The equals sign ends the sign, and is the only one in front of the value. -/
theorem upToSign_append (hs : sign ∈ assigningSigns) (b : Text) :
    upToSign l sign ++ b = (l ++ ' ' :: sign.dropLast) ++ '=' :: b := by
  obtain ⟨-, -, -, he, -⟩ := sign_facts sign hs
  conv_lhs => rw [upToSign, he]
  simp

section

variable (hl : IsTarget l) (hs : sign ∈ assigningSigns)
include hl hs

theorem equals_notMem_target : '=' ∉ l ++ ' ' :: sign.dropLast := by
  obtain ⟨-, -, hlast, -⟩ := sign_facts sign hs
  rw [List.mem_append, List.mem_cons, not_or, not_or]
  exact ⟨hl.free rfl (by decide), by decide, hlast⟩

theorem cut?_upToSign {a : Char} (ha : isWord a = true) (part b : Text) :
    Text.cut? (' ' :: a :: part) (upToSign l sign ++ b) =
      (Text.cut? (' ' :: a :: part) b).map fun res => (upToSign l sign ++ res.1, res.2) := by
  have hfirst : (' ' :: a :: part).isPrefixOf (' ' :: (sign ++ b)) = false := by
    obtain ⟨d, rest, rfl, hd⟩ := exists_mark hs
    rw [Bool.eq_false_iff, ne_eq, List.isPrefixOf_iff_prefix, List.cons_prefix_cons,
      List.cons_append, List.cons_prefix_cons]
    rintro ⟨-, rfl, -⟩
    rw [(isMark_facts hd).2.2.1] at ha
    cases ha
  rw [upToSign, List.append_assoc, List.cons_append, Text.cut?_append (hl.notMem rfl), Text.cut?,
    hfirst, if_neg Bool.false_ne_true, Text.cut?_append (blank_notMem_sign hs), Option.map_map,
    Option.map_map]
  refine congrArg (Option.map · _) (funext fun res => ?_)
  simp

theorem trim_upToSign (b : Text) :
    (upToSign l sign ++ b).trim = upToSign l sign ++ b.trimRight := by
  have hhead : ∀ c ∈ (l ++ ' ' :: sign.dropLast ++ ['=']).head?, isBlank c = false := by
    rw [List.append_assoc]
    exact hl.head_append _
  rw [upToSign_append hs, Text.trim_append_cons hhead rfl, upToSign_append hs]

theorem isAssignment_upToSign (he : '=' ∉ e) :
    isAssignment (upToSign l sign ++ ' ' :: e) = true := by
  obtain ⟨-, -, -, -, hcompare⟩ := sign_facts sign hs
  have hparts : ∀ part ∈ comparisons, ' ' ∉ part ∧ '=' ∈ part := by decide
  have hany : comparisons.any (Text.includes (upToSign l sign ++ ' ' :: e)) = false := by
    rw [List.any_eq_false]
    intro part hpart
    obtain ⟨hb, hsign⟩ := hparts part hpart
    rw [upToSign, List.append_assoc, List.cons_append, Text.includes_append_cons hb,
      Text.includes_append_cons hb, hcompare part hpart, Text.not_includes_of_notMem hsign he,
      Text.not_includes_of_notMem hsign (hl.free rfl (by decide))]
    exact Bool.false_ne_true
  have hmem : '=' ∈ upToSign l sign ++ ' ' :: e := by
    rw [upToSign_append hs]
    exact List.mem_append_right _ List.mem_cons_self
  have hsign : Text.includes (upToSign l sign ++ ' ' :: e) "=" = true := Text.includes_of_mem hmem
  rw [isAssignment, hsign, hany]
  rfl

theorem cut?_sign (b : Text) :
    Text.cut? "=" (upToSign l sign ++ b) = some (l ++ ' ' :: sign.dropLast, b) := by
  have hcut : Text.cut? "=" ((l ++ ' ' :: sign.dropLast) ++ '=' :: b) =
      (Text.cut? "=" ('=' :: b)).map fun res => ((l ++ ' ' :: sign.dropLast) ++ res.1, res.2) :=
    Text.cut?_append (equals_notMem_target hl hs)
  have hself : Text.cut? "=" ('=' :: b) = some ([], b) := Text.cut?_self (List.cons_ne_nil _ _) b
  rw [upToSign_append hs, hcut, hself, Option.map_some, List.append_nil]

omit hl in
theorem not_includes_spaced (he : '=' ∉ e) : Text.includes (sign ++ ' ' :: e) " = " = false := by
  have hcut : Text.cut? " = " (sign ++ ' ' :: e) =
      (Text.cut? " = " (' ' :: e)).map fun res => (sign ++ res.1, res.2) :=
    Text.cut?_append (blank_notMem_sign hs)
  have hvalue : Text.includes (' ' :: e) " = " = false :=
    Text.not_includes_of_notMem (c := '=') (by decide)
      (List.not_mem_cons_of_ne_of_not_mem (by decide) he)
  rw [Text.includes, hcut, Text.cut?_eq_none hvalue]
  rfl

/-- The equals sign stands alone between blanks only without an operator. -/
theorem cut?_spaced_sign (he : '=' ∉ e) : Text.cut? " = " (upToSign l sign ++ ' ' :: e) =
    if sign = "=".toList then some (l, e) else none := by
  have hcut : Text.cut? " = " (upToSign l sign ++ ' ' :: e) =
      (Text.cut? " = " (' ' :: (sign ++ ' ' :: e))).map fun res => (l ++ res.1, res.2) := by
    rw [upToSign, List.append_assoc]
    exact Text.cut?_append (hl.notMem rfl)
  rw [hcut]
  split_ifs with heq
  · have hself : Text.cut? " = " (' ' :: (sign ++ ' ' :: e)) = some ([], e) := by
      rw [heq]
      exact Text.cut?_self (List.cons_ne_nil _ _) e
    rw [hself, Option.map_some, List.append_nil]
  · have hmany : ∀ sign ∈ assigningSigns, sign ≠ "=".toList → sign.head? ≠ some '=' := by decide
    have hhead := hmany sign hs heq
    have hfirst : (" = ".toList).isPrefixOf (' ' :: (sign ++ ' ' :: e)) = false := by
      obtain ⟨d, rest, rfl, -⟩ := exists_mark hs
      rw [Bool.eq_false_iff, ne_eq, List.isPrefixOf_iff_prefix]
      rintro ⟨more, hmore⟩
      cases (List.cons.inj (List.cons.inj hmore).2).1
      exact hhead rfl
    rw [Text.cut?, hfirst, if_neg Bool.false_ne_true, Text.cut?_eq_none (not_includes_spaced hs he)]
    rfl

end

theorem exists_declared (type name : Text) (value : Option Text) :
    ∃ more, declared type name value = type ++ ' ' :: (name ++ more) := by
  rw [declared.eq_def]
  split
  all_goals
    simp only [List.append_assoc]
    exact ⟨_, rfl⟩

theorem declared_ne_assignment {type rest : Text} (htype : '=' ∉ type) (hl : IsTarget l)
    (hs : sign ∈ assigningSigns) (value : Option Text) :
    declared type (upToSign l sign ++ rest) value ≠ upToSign l sign ++ ' ' :: e ++ ";" := by
  have hfree := equals_notMem_target hl hs
  have htarget : '=' ∉ type ++ ' ' :: (l ++ ' ' :: sign.dropLast) := by
    rw [List.mem_append, List.mem_cons, not_or, not_or]
    exact ⟨htype, by decide, hfree⟩
  obtain ⟨more, hmore⟩ := exists_declared type (upToSign l sign ++ rest) value
  have hleft : type ++ ' ' :: (upToSign l sign ++ rest ++ more) =
      (type ++ ' ' :: (l ++ ' ' :: sign.dropLast)) ++ '=' :: (rest ++ more) := by
    rw [List.append_assoc, upToSign_append hs]
    simp
  have hright : upToSign l sign ++ ' ' :: e ++ ";" =
      (l ++ ' ' :: sign.dropLast) ++ '=' :: (' ' :: e ++ ";") := by
    rw [List.append_assoc, upToSign_append hs]
  rw [hmore, hleft, hright]
  intro h
  have hlength := congrArg List.length (Text.eq_of_append_cons h htarget hfree)
  rw [List.length_append, List.length_cons] at hlength
  omega

section

variable (hl : IsTarget l) (hs : sign ∈ assigningSigns) (he : e.trim = e) (hsign : '=' ∉ e)
include hl hs

theorem declared_ne_of_cut? {containers : List Container} {name type : Text} {value : Option Text}
    (hcontainers : ∀ c ∈ containers, isFixed typeGlue c.javaName = true) (hb : '=' ∉ b)
    (hcut : Text.cut? " as " (upToSign l sign ++ b) = some (name, type)) (given : Option Text) :
    declared (typeAndValue .full containers type.trim given).1 name.trim value ≠
      upToSign l sign ++ ' ' :: e ++ ";" := by
  have hmove : Text.cut? " as " (upToSign l sign ++ b) =
      (Text.cut? " as " b).map fun res => (upToSign l sign ++ res.1, res.2) :=
    cut?_upToSign hl hs rfl "s ".toList b
  rw [hmove] at hcut
  obtain ⟨⟨front, back⟩, hres, hpair⟩ := Option.map_eq_some_iff.1 hcut
  cases hpair
  have htype : '=' ∉ back.trim :=
    fun hm => hb ((Text.infix_of_cut? hres).2.subset (back.trim_subset hm))
  rw [trim_upToSign hl hs]
  have hpiecewise : Piecewise typeGlue ('=' ∉ ·) := .notMem rfl rfl
  have hjava := (hpiecewise.typeAndValue_of hcontainers htype given).1
  exact declared_ne_assignment hjava hl hs value

include hsign

theorem partAndValue_upToSign :
    (partAndValue .all (upToSign l sign ++ ' ' :: e)).1 = l ∨
      ∃ b, '=' ∉ b ∧ (partAndValue .all (upToSign l sign ++ ' ' :: e)).1 =
        upToSign l sign ++ b := by
  have hvalue : '=' ∉ ' ' :: e := List.not_mem_cons_of_ne_of_not_mem (by decide) hsign
  have hmove : Text.cut? " with " (upToSign l sign ++ ' ' :: e) =
      (Text.cut? " with " (' ' :: e)).map fun res => (upToSign l sign ++ res.1, res.2) :=
    cut?_upToSign hl hs rfl "ith ".toList _
  rw [partAndValue, hmove]
  cases hcut : Text.cut? " with " (' ' :: e) with
  | some res =>
    right
    refine ⟨res.1.trimRight, fun hm => hvalue ?_, trim_upToSign hl hs res.1⟩
    exact (Text.infix_of_cut? hcut).1.subset ((Text.dropEndWhile_isPrefix _ _).subset hm)
  | none =>
    rw [Option.map_none, cut?_spaced_sign hl hs hsign]
    split_ifs with heq
    · exact .inl hl.trim_eq
    · exact .inr ⟨' ' :: e, hvalue, rfl⟩

theorem localDeclaration_ne (hvar : l ≠ "var")
    (has : Text.includes (upToSign l sign ++ ' ' :: e) " as " = true) :
    localDeclaration Stage.current.locals (upToSign l sign ++ ' ' :: e) ≠
      .ok (upToSign l sign ++ ' ' :: e ++ ";") := by
  have hno : Text.startsWith (upToSign l sign ++ ' ' :: e) "var " = false := by
    rw [upToSign, List.append_assoc]
    exact Text.startsWith_word (hl.notMem rfl) (v := "var") (by decide) hvar _
  rw [localDeclaration, hno, if_neg Bool.false_ne_true, if_pos has]
  dsimp only [Stage.current]
  intro h
  rcases partAndValue_upToSign hl hs hsign with hpart | ⟨b, hb, hpart⟩
  · rw [hpart, hl.cut?_as] at h
    cases h
  · rw [hpart] at h
    cases hcut : Text.cut? " as " (upToSign l sign ++ b) with
    | none =>
      rw [hcut] at h
      cases h
    | some res =>
      rw [hcut] at h
      exact declared_ne_of_cut? hl hs Piecewise.containers_fixed hb hcut _ (Except.ok.inj h)

theorem typedDeclaration_ne :
    typedDeclaration true (upToSign l sign ++ ' ' :: e) ≠
      some (upToSign l sign ++ ' ' :: e ++ ";") := by
  have hvalue : '=' ∉ ' ' :: e := List.not_mem_cons_of_ne_of_not_mem (by decide) hsign
  have hfixed : ∀ c ∈ Container.unnamed, isFixed typeGlue c.javaName = true := by decide
  rw [typedDeclaration, cut?_spaced_sign hl hs hsign]
  intro h
  by_cases heq : sign = "=".toList
  · rw [if_pos heq] at h
    dsimp only at h
    rw [hl.trim_eq, hl.cut?_as] at h
    cases h
  · rw [if_neg heq] at h
    dsimp only at h
    cases hcut : Text.cut? " as " (Text.trim (upToSign l sign ++ ' ' :: e)) with
    | none =>
      rw [hcut] at h
      cases h
    | some res =>
      rw [hcut] at h
      rw [trim_upToSign hl hs] at hcut
      refine declared_ne_of_cut? hl hs hfixed (fun hm => hvalue ?_) hcut _ (Option.some.inj h)
      exact (Text.dropEndWhile_isPrefix _ _).subset hm

omit hsign

theorem operationStatement_ne (h : isOperation .all (upToSign l sign ++ ' ' :: e) = true) :
    operationStatement .all (upToSign l sign ++ ' ' :: e) ≠
      upToSign l sign ++ ' ' :: e ++ ";" := by
  obtain ⟨d, rest, rfl, hd⟩ := exists_mark hs
  have hshape : upToSign l (d :: rest) ++ ' ' :: e = l ++ ' ' :: d :: (rest ++ ' ' :: e) := by
    rw [upToSign, List.append_assoc]
    rfl
  rw [hshape] at h ⊢
  have hblanks := countP_operationExpression hl.toIsUnbroken (hl.free rfl (by decide)) hd h
  have hend : List.countP isBlank ";" = 0 := rfl
  intro he
  have hcount := congrArg (List.countP isBlank) he
  rw [operationStatement, List.countP_append, hend] at hcount
  split at hcount
  · omega
  · rw [List.countP_append, hend] at hcount
    omega

end

theorem startsWith_upToSign (hl : IsTarget l) {w : Text} (hw : ' ' ∉ w) (sign b : Text) :
    Text.startsWith (upToSign l sign ++ b) (w ++ " ") = decide (l = w) := by
  by_cases h : l = w
  · rw [decide_eq_true h, upToSign, h, List.append_assoc]
    exact List.isPrefixOf_iff_prefix.2 ⟨sign ++ b, by simp⟩
  · rw [decide_eq_false h, upToSign, List.append_assoc]
    exact Text.startsWith_word (hl.notMem rfl) hw h _

theorem exists_interpolated (style : PrintStyle) (content : Text) :
    ∃ x, interpolated style content = println x := by
  rw [interpolated]
  split
  all_goals exact ⟨_, rfl⟩

theorem exists_contentPrint (style : PrintStyle) (content : Text) :
    ∃ x, contentPrint style content = println x := by
  rw [contentPrint]
  split
  · exact ⟨_, rfl⟩
  · exact exists_interpolated style content

theorem println_ne {x w t : Text} (hw : w.head? ≠ some 'S') (hne : w ≠ []) :
    println x ≠ w ++ t := by
  intro h
  have hhead : (println x).head? = some 'S' := rfl
  rw [h, List.head?_append_of_ne_nil _ hne] at hhead
  exact hw hhead

theorem printRules_print (hs : sign ∈ assigningSigns) (style : PrintStyle) (b : Text) :
    ∃ x, (printRules style).findSome? (· (upToSign "print" sign ++ b)) =
      some (.ok (println x)) := by
  have hf : Text.startsWith (upToSign "print" sign ++ b) "print f\"" = false := by
    obtain ⟨d, rest, rfl, hd⟩ := exists_mark hs
    rw [Bool.eq_false_iff, ne_eq, Text.startsWith, List.isPrefixOf_iff_prefix]
    rintro ⟨more, hmore⟩
    have hmore : "print ".toList ++ ('f' :: '"' :: more) =
      "print ".toList ++ (d :: (rest ++ b)) := hmore
    cases (List.cons.inj (List.append_cancel_left hmore)).1
    exact absurd hd (by decide)
  have hp : Text.startsWith (upToSign "print" sign ++ b) "print " = true := rfl
  obtain ⟨x, hx⟩ := exists_contentPrint style (Text.trim ((upToSign "print" sign ++ b).drop 6))
  refine ⟨x, ?_⟩
  rw [printRules, List.findSome?_cons, Rule.opening, hf, if_neg Bool.false_ne_true,
    List.findSome?_cons, Rule.opening, hp, if_pos rfl, plainPrint, hx]

theorem trim_value (he : e.trim = e) : Text.trim (' ' :: e) = e := by
  have hpad : Text.trim ([' '] ++ e) = e.trim := Text.trim_append (List.forall_mem_singleton.2 rfl)
  exact hpad.trans he

theorem localDeclaration_var (hs : sign ∈ assigningSigns) (hsign : '=' ∉ e) :
    ∃ f, localDeclaration Stage.current.locals (upToSign "var" sign ++ ' ' :: e) = .error f := by
  have hv : Text.startsWith (upToSign "var" sign ++ ' ' :: e) "var " = true := rfl
  have hdrop : (upToSign "var" sign ++ ' ' :: e).drop 4 = sign ++ ' ' :: e := rfl
  have hcut := Text.cut?_eq_none (Text.includes_trim (not_includes_spaced hs hsign))
  rw [localDeclaration, hv, if_pos rfl, inferredDeclaration, hdrop, hcut]
  exact ⟨_, rfl⟩

theorem not_isCreation_of_find? {s : Text} (h : ∀ verb ∈ Vocabulary.standard.creationVerbs,
    ∀ p : Pattern, (creationHead verb ++ p).find? s = none) : isCreation s = false := by
  rw [isCreation, creationRule, bareCreationRule, List.findSome?_eq_none_iff.2,
    List.findSome?_eq_none_iff.2]
  · rfl
  · intro verb hv
    rw [bareCreationPattern, h verb hv]
  · intro verb hv
    rw [creationPattern, h verb hv]

theorem not_isCreation (hl : IsTarget l) (hs : sign ∈ assigningSigns) (b : Text) :
    isCreation (upToSign l sign ++ b) = false := by
  obtain ⟨d, rest, rfl, hd⟩ := exists_mark hs
  obtain ⟨-, hblank, hword, -⟩ := isMark_facts hd
  have hshape : upToSign l (d :: rest) ++ b = l ++ ' ' :: d :: (rest ++ b) := by
    rw [upToSign, List.append_assoc]
    rfl
  rw [hshape]
  refine not_isCreation_of_find? fun verb hv p => ?_
  have hp : Pattern.accepts (Step.name :: (Step.gap :: (Pattern.exactly "as" ++
      ([.gap, .name, .gap] ++ (Pattern.exactly "with" ++ p))))) (d :: (rest ++ b)) = false :=
    Pattern.not_accepts_sign hword fun n hn => hn.1
  have hno := Pattern.not_accepts_behind ((creationVerb_isName hv).notMem rfl) hl.toIsUnbroken
    hblank hp
  rw [creationHead]
  simp only [List.append_assoc, List.cons_append, List.nil_append] at hno ⊢
  exact Option.isNone_iff_eq_none.1 (Option.isSome_eq_false_iff.1 hno)

theorem printRules_unprinted (hl : IsTarget l) (hprint : l ≠ "print") (style : PrintStyle)
    (b : Text) : (printRules style).findSome? (· (upToSign l sign ++ b)) = none := by
  have hp : Text.startsWith (upToSign l sign ++ b) "print " = false :=
    (startsWith_upToSign hl (w := "print") (by decide) sign b).trans (decide_eq_false hprint)
  have hf : Text.startsWith (upToSign l sign ++ b) "print f\"" = false := by
    rw [Bool.eq_false_iff] at hp ⊢
    intro hf
    have htaken : "print ".toList <+: "print f\"".toList := by decide
    exact hp (List.isPrefixOf_iff_prefix.2 (htaken.trans (List.isPrefixOf_iff_prefix.1 hf)))
  rw [printRules, List.findSome?_cons, Rule.opening, hf, if_neg Bool.false_ne_true,
    List.findSome?_cons, Rule.opening, hp, if_neg Bool.false_ne_true, List.findSome?_nil]

section

variable (hl : IsTarget l) (hs : sign ∈ assigningSigns) (hsign : '=' ∉ e)
include hl hs hsign

theorem isLocal_assigned : isLocal (upToSign l sign ++ ' ' :: e) = true ↔
    l = "var" ∨ Text.includes (upToSign l sign ++ ' ' :: e) " as " = true := by
  have hv : Text.startsWith (upToSign l sign ++ ' ' :: e) "var " = decide (l = "var") :=
    startsWith_upToSign hl (w := "var") (by decide) sign _
  rw [isLocal, isValuedLocal, hasValue, hv, isAssignment_upToSign hl hs hsign]
  simp only [Bool.or_true, Bool.and_true, Bool.or_eq_true, Bool.and_eq_true, decide_eq_true_eq]
  tauto

variable (he : e.trim = e)
include he

omit hsign in
theorem assignment_assigned (hvalue : isOperation .all e = false) :
    assignment .all (upToSign l sign ++ ' ' :: e) =
      Text.trim (l ++ ' ' :: sign.dropLast) ++ " = " ++ e ++ ";" := by
  rw [assignment, cut?_sign hl hs]
  dsimp only
  rw [trim_value he, javaValue, hvalue, if_neg Bool.false_ne_true]

variable (hne : e ≠ [])
include hne

omit hsign in
theorem trim_assigned : Text.trim (upToSign l sign ++ ' ' :: e) = upToSign l sign ++ ' ' :: e := by
  have hlast : Text.trimRight (' ' :: e) = ' ' :: e := by
    apply Text.trimRight_of_getLast
    obtain ⟨d, rest, rfl⟩ := List.exists_cons_of_ne_nil hne
    rw [List.getLast?_cons_cons]
    exact Text.getLast_of_trim he
  rw [trim_upToSign hl hs, hlast]

theorem convert_assigned (hprint : l ≠ "print") :
    convert .current (upToSign l sign ++ ' ' :: e) =
      if isLocal (upToSign l sign ++ ' ' :: e) then
        localDeclaration Stage.current.locals (upToSign l sign ++ ' ' :: e)
      else if isOperation .all (upToSign l sign ++ ' ' :: e) then
        .ok (operationStatement .all (upToSign l sign ++ ' ' :: e))
      else .ok (assignment .all (upToSign l sign ++ ' ' :: e)) := by
  have htrim := trim_assigned hl hs he hne
  have hp : Text.startsWith (upToSign l sign ++ ' ' :: e) "print " = false :=
    (startsWith_upToSign hl (w := "print") (by decide) sign _).trans (decide_eq_false hprint)
  rw [convert_unprinted (by rw [htrim, hp]), htrim, isAssignment_upToSign hl hs hsign, if_pos rfl]

omit hl hsign in
theorem convert_print_ne (hl : IsTarget "print") :
    convert .current (upToSign "print" sign ++ ' ' :: e) ≠
      .ok (upToSign "print" sign ++ ' ' :: e ++ ";") := by
  obtain ⟨x, hx⟩ := printRules_print hs Stage.current.print (' ' :: e)
  have hprint : Stage.current.rules.findSome? (· (upToSign "print" sign ++ ' ' :: e)) =
      some (.ok (println x)) := by
    rw [Stage.rules, List.append_assoc, List.findSome?_append, hx]
    rfl
  rw [convert, convertBy, trim_assigned hl hs he hne, hprint, upToSign, List.append_assoc,
    List.append_assoc]
  intro h
  exact println_ne (by decide) (by decide) (Except.ok.inj h)

theorem ordinary_of_convert (h : convert .current (upToSign l sign ++ ' ' :: e) =
      .ok (upToSign l sign ++ ' ' :: e ++ ";")) :
    l ≠ "print" ∧ l ≠ "var" ∧ Text.includes (upToSign l sign ++ ' ' :: e) " as " = false ∧
      isOperation .all (upToSign l sign ++ ' ' :: e) = false := by
  have hprint : l ≠ "print" := by
    rintro rfl
    exact convert_print_ne hs he hne hl h
  rw [convert_assigned hl hs hsign he hne hprint] at h
  have hvar : l ≠ "var" := by
    rintro rfl
    obtain ⟨f, hf⟩ := localDeclaration_var hs hsign
    rw [if_pos ((isLocal_assigned hl hs hsign).2 (.inl rfl)), hf] at h
    cases h
  have has : Text.includes (upToSign l sign ++ ' ' :: e) " as " = false := by
    rw [Bool.eq_false_iff]
    intro has
    rw [if_pos ((isLocal_assigned hl hs hsign).2 (.inr has))] at h
    exact localDeclaration_ne hl hs hsign hvar has h
  refine ⟨hprint, hvar, has, ?_⟩
  rw [Bool.eq_false_iff]
  intro hop
  have hlocal : ¬ isLocal (upToSign l sign ++ ' ' :: e) = true := by
    rw [isLocal_assigned hl hs hsign, has, not_or]
    exact ⟨hvar, Bool.false_ne_true⟩
  rw [if_neg hlocal, if_pos hop] at h
  exact operationStatement_ne hl hs hop (Except.ok.inj h)

theorem convert_ordinary (hvalue : isOperation .all e = false) (hprint : l ≠ "print")
    (hvar : l ≠ "var") (has : Text.includes (upToSign l sign ++ ' ' :: e) " as " = false)
    (hop : isOperation .all (upToSign l sign ++ ' ' :: e) = false) :
    convert .current (upToSign l sign ++ ' ' :: e) =
      .ok (Text.trim (l ++ ' ' :: sign.dropLast) ++ " = " ++ e ++ ";") := by
  have hlocal : ¬ isLocal (upToSign l sign ++ ' ' :: e) = true := by
    rw [isLocal_assigned hl hs hsign, has, not_or]
    exact ⟨hvar, Bool.false_ne_true⟩
  rw [convert_assigned hl hs hsign he hne hprint, if_neg hlocal, hop, if_neg Bool.false_ne_true,
    assignment_assigned hl hs he hvalue]

end

/-- Where an operator stands in front of the equals sign, the two are written apart. -/
theorem trim_target (hl : IsTarget l) (hs : sign ∈ assigningSigns) :
    Text.trim (l ++ ' ' :: sign.dropLast) =
      if sign = "=".toList then l else l ++ ' ' :: sign.dropLast := by
  split_ifs with heq
  · rw [heq]
    exact (Text.trim_append_right (List.forall_mem_singleton.2 rfl)).trans hl.trim_eq
  · have hlast : ∀ sign ∈ assigningSigns, sign ≠ "=".toList →
        (sign.dropLast.getLast?.any fun d => !isBlank d) = true := by decide
    obtain ⟨d, hd, hblank⟩ := (Option.any_eq_true _ _).1 (hlast sign hs heq)
    rw [Bool.not_eq_true'] at hblank
    apply Text.trim_of_ends (hl.head_append _)
    intro c hc
    rw [List.getLast?_append, List.getLast?_cons, hd] at hc
    cases hc
    exact hblank

theorem apart_ne (hs : sign ∈ assigningSigns) :
    l ++ " " ++ sign.dropLast ++ " = " ++ e ++ ";" ≠ l ++ " " ++ sign ++ " " ++ e ++ ";" := by
  obtain ⟨-, -, -, hsign, -⟩ := sign_facts sign hs
  intro h
  have hlength := congrArg List.length h
  have hlast := congrArg List.length hsign
  have hspaced : (" = ".toList).length = 3 := rfl
  have hblank : (" ".toList).length = 1 := rfl
  have hequals : ("=".toList).length = 1 := rfl
  simp only [List.length_append] at hlength hlast
  omega

theorem listAssignment_assigned (hl : IsTarget l) (hs : sign ∈ assigningSigns) (he : e.trim = e) :
    listAssignment bareAssignment (upToSign l sign ++ ' ' :: e) =
        .ok (some (upToSign l sign ++ ' ' :: e ++ ";")) ↔ e ≠ "arraylist" := by
  rw [listAssignment, cut?_sign hl hs]
  dsimp only
  rw [trim_value he]
  split_ifs with heq
  · refine iff_of_false (fun h => ?_) (not_not_intro heq)
    have hend := Option.some.inj (Except.ok.inj h)
    have hlist : upToSign l sign ++ ' ' :: "arraylist".toList ++ ";" =
        (upToSign l sign ++ " arrayl".toList) ++ "ist;" := by
      rw [List.append_assoc, List.append_assoc]
      rfl
    rw [heq, hlist] at hend
    exact absurd (List.append_inj_right' hend rfl) (by decide)
  · exact iff_of_true rfl heq

theorem firstRules_of_not_isCreation {s : Text} (h : isCreation s = false) (style : PrintStyle) :
    (firstRules style).findSome? (· s) =
      if isListAssignment s then some (listAssignment bareAssignment s)
      else (printRules style).findSome? (· s) := by
  obtain ⟨hcreation, hbare⟩ := Bool.or_eq_false_iff.1 h
  rw [Option.isSome_eq_false_iff, Option.isNone_iff_eq_none] at hcreation hbare
  rw [firstRules, creationRules, List.append_assoc, List.findSome?_append, List.findSome?_cons,
    hcreation, List.findSome?_cons, hbare, List.findSome?_nil, Option.none_or,
    List.findSome?_append, List.findSome?_cons, listRule, declarationRule]
  split_ifs
  all_goals rfl

/-- With written types the line stays as it is, unless it makes a list, prints or declares. -/
theorem convertBy_typed_iff (hl : IsTarget l) (hs : sign ∈ assigningSigns) (hsign : '=' ∉ e)
    (he : e.trim = e) (hne : e ≠ []) (style : PrintStyle) (loops : LoopStyle) :
    convertBy (typedRules (printRules style) loops) (upToSign l sign ++ ' ' :: e) =
        .ok (upToSign l sign ++ ' ' :: e ++ ";") ↔
      if Text.includes (upToSign l sign ++ ' ' :: e) "arraylist" then e ≠ "arraylist"
      else l ≠ "print" ∧ Text.includes (upToSign l sign ++ ' ' :: e) " as " = false := by
  have hfirst := firstRules_of_not_isCreation (not_isCreation hl hs (' ' :: e)) style
  have hassign := isAssignment_upToSign hl hs hsign
  rw [convertBy_eq, trim_assigned hl hs he hne, bind_required_eq_ok, typedRules_eq,
    List.findSome?_append, hfirst, isListAssignment, hassign, Bool.and_true]
  split_ifs with hlist
  · exact listAssignment_assigned hl hs he
  · by_cases hprint : l = "print"
    · subst hprint
      obtain ⟨x, hx⟩ := printRules_print hs style (' ' :: e)
      refine iff_of_false (fun h => ?_) fun h => h.1 rfl
      rw [hx, upToSign, List.append_assoc, List.append_assoc] at h
      exact println_ne (by decide) (by decide) (Option.some.inj (Except.ok.inj h))
    · rw [printRules_unprinted hl hprint, Option.none_or, List.findSome?_cons, declarationRule,
        hassign, Bool.and_true]
      by_cases has : Text.includes (upToSign l sign ++ ' ' :: e) " as " = true
      · refine iff_of_false (fun h => ?_) fun h => Bool.eq_false_iff.1 h.2 has
        rw [if_pos has] at h
        have h : declareTyped (upToSign l sign ++ ' ' :: e) =
          .ok (some (upToSign l sign ++ ' ' :: e ++ ";")) := h
        rw [declareTyped, onVar, if_pos has] at h
        split at h
        · cases h
        · exact typedDeclaration_ne hl hs hsign (Except.ok.inj h)
      · refine iff_of_true ?_ ⟨hprint, Bool.eq_false_iff.2 has⟩
        rw [if_neg has, lastRules, List.findSome?_cons, declarationRule, hassign]
        rfl

/-- An assignment is kept only if no operator stands in front of its equals sign, and if nothing
else is read in it. With written types it is kept whatever the operator. -/
theorem assignment_kept_iff (v : Vocabulary) {name sign e l s : Text} {names : List Text}
    (hn : ∀ n ∈ name :: names, IsName n) (hs : sign ∈ assigningSigns) (he : e.trim = e)
    (hne : e ≠ []) (hsign : '=' ∉ e) (hvalue : isOperation .all e = false)
    (hl : l = Text.join "." (name :: names)) (hst : s = l ++ " " ++ sign ++ " " ++ e) :
    (convert .current s = .ok (s ++ ";") ↔
      sign = "=" ∧ l ≠ "print" ∧ l ≠ "var" ∧ s.includes " as " = false ∧
        isOperation .all s = false) ∧
    (sign ≠ "=" → l ≠ "print" → l ≠ "var" → s.includes " as " = false →
      isOperation .all s = false →
      convert .current s = .ok (l ++ " " ++ sign.dropLast ++ " = " ++ e ++ ";")) ∧
    ((Edition.openAccessors v).convert s = .ok (s ++ ";") ↔
      if s.includes "arraylist" then e ≠ "arraylist"
      else l ≠ "print" ∧ s.includes " as " = false) := by
  have hline : s = upToSign l sign ++ ' ' :: e := by
    rw [hst, upToSign]
    simp
  have htarget : IsTarget l := hl ▸ isTarget_path hn
  have hoperator (hother : sign ≠ "=") (hp : l ≠ "print") (hv : l ≠ "var")
      (has : s.includes " as " = false) (hop : isOperation .all s = false) :
      convert .current s = .ok (l ++ " " ++ sign.dropLast ++ " = " ++ e ++ ";") := by
    rw [hline] at has hop ⊢
    rw [convert_ordinary htarget hs hsign he hne hvalue hp hv has hop, trim_target htarget hs,
      if_neg hother, List.append_cons l]
    rfl
  refine ⟨⟨fun h => ?_, ?_⟩, hoperator, ?_⟩
  · obtain ⟨hp, hv, has, hop⟩ := ordinary_of_convert htarget hs hsign he hne (hline ▸ h)
    rw [← hline] at has hop
    refine ⟨?_, hp, hv, has, hop⟩
    by_contra hother
    rw [hoperator hother hp hv has hop, hst] at h
    exact apart_ne hs (Except.ok.inj h)
  · rintro ⟨rfl, hp, hv, has, hop⟩
    rw [hline] at has hop ⊢
    rw [convert_ordinary htarget hs hsign he hne hvalue hp hv has hop, trim_target htarget hs,
      if_pos rfl, upToSign]
    simp
  · rw [hline]
    exact convertBy_typed_iff htarget hs hsign he hne _ _

theorem assignment_kept_iff_total :
    convert .current "t.n += x" = .ok "t.n + = x;" ∧
      (Edition.openAccessors .standard).convert "t.n += x" = .ok "t.n += x;" ∧
      convert .current "t.n = y + x" = .ok "t.n = y + x;" := by
  have hnames : ∀ n ∈ (["t", "n"] : List Text), IsName n :=
    List.forall_mem_cons.2 ⟨⟨by decide, rfl⟩, List.forall_mem_singleton.2 ⟨by decide, rfl⟩⟩
  have hplus : ("+=" : Text) ∈ assigningSigns := by decide
  have hequals : ("=" : Text) ∈ assigningSigns := by decide
  obtain ⟨-, hoperator, htyped⟩ := assignment_kept_iff .standard (e := "x") (l := "t.n")
    (s := "t.n += x") hnames hplus (by decide) (by decide) (by decide) (by decide +kernel) rfl rfl
  obtain ⟨hkept, -⟩ := assignment_kept_iff .standard (e := "y + x") (l := "t.n")
    (s := "t.n = y + x") hnames hequals (by decide) (by decide) (by decide) (by decide +kernel) rfl
    rfl
  refine ⟨?_, ?_, ?_⟩
  · exact hoperator (by decide) (by decide) (by decide) (by decide +kernel) (by decide +kernel)
  · exact htyped.2 (by decide +kernel)
  · exact hkept.2 ⟨rfl, by decide, by decide, by decide +kernel, by decide +kernel⟩

end Statement

end JavaSketch
