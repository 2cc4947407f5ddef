import JavaSketch.Proofs.DeclarationForms
import JavaSketch.Proofs.RangeLoops

namespace JavaSketch

namespace Text

variable {s t sep before after head part : Text} {q d : Char}

theorem endsWith_twice (s : Text) (q : Char) : (s ++ [q]).endsWith [q, q] = s.endsWith [q] := by
  have hsuffix : [q] ++ [q] <:+ s ++ [q] ↔ [q] <:+ s := List.suffix_append_self_iff
  rw [Bool.eq_iff_iff, endsWith, endsWith, List.isSuffixOf_iff_suffix, List.isSuffixOf_iff_suffix]
  exact hsuffix

theorem getLast?_of_endsWith_twice (h : s.endsWith [q, q] = true) : s.getLast? = some q := by
  obtain ⟨front, rfl⟩ := List.isSuffixOf_iff_suffix.1 h
  rw [List.getLast?_append]
  rfl

theorem endsWith_append_of (hhead : head.endsWith [q] = false) (part : Text) :
    (head ++ part).endsWith [q] = part.endsWith [q] := by
  cases part with
  | nil =>
    rw [List.append_nil, hhead]
    rfl
  | cons c part => exact endsWith_append (List.cons_ne_nil _ _)

theorem endsWith_cut? (ht : t.trim = t) (hsep : sep.getLast? = some d) (hd : d ≠ q)
    (h : cut? sep t = some (before, after)) : after.trim.endsWith [q] = t.endsWith [q] := by
  have hwhole := eq_of_cut? h
  rcases List.eq_nil_or_concat' after with rfl | ⟨front, c, rfl⟩
  · have hlast : t.getLast? = some d := by
      rw [hwhole, List.append_nil, List.getLast?_append, hsep]
      rfl
    rw [not_endsWith_of_getLast? hlast hd]
    rfl
  · have hlast : t.getLast? = some c := by
      rw [hwhole, ← List.append_assoc, List.getLast?_concat]
    have htrim : (trim (front ++ [c])).getLast? = some c :=
      getLast?_trim List.getLast?_concat (getLast_of_trim ht c hlast)
    rw [Bool.eq_iff_iff, endsWith_iff, endsWith_iff, hlast, htrim]

theorem trim_ne_nil_of_cut? (ht : t.trim = t) (hsep : sep.getLast? = some ' ')
    (h : cut? sep t = some (before, after)) : after.trim ≠ [] := by
  have hwhole := eq_of_cut? h
  have hlast : ∃ c, t.getLast? = some c := by
    rw [hwhole, List.getLast?_append, List.getLast?_append, hsep]
    cases after.getLast? with
    | none => exact ⟨' ', rfl⟩
    | some c => exact ⟨c, rfl⟩
  obtain ⟨c, hc⟩ := hlast
  have hb := getLast_of_trim ht c hc
  have hblank : ' ' ≠ c := by
    rintro rfl
    cases hb
  have hafter := getLast?_cut? hc hsep hblank h
  exact trim_ne_nil (List.mem_of_getLast? hafter) hb

end Text

namespace Operation

variable {shape reader : Pattern} {words first second method place : Text}

/-- The expressions of the operation end in a parenthesis. -/
def Closes (op : Operation) : Prop := ∀ s e, op.expression? s = some e → e.endsWith ")" = true

theorem pair_closes {f : Text → Text → Text} (hf : ∀ a b, (f a b).endsWith ")" = true) :
    (ofPattern shape reader fun
      | [a, b] => some (f a b)
      | _ => none).Closes := by
  intro s e h
  obtain ⟨kept, -, hbuild⟩ := Option.bind_eq_some_iff.1 h
  split at hbuild
  · cases hbuild
    exact hf _ _
  · cases hbuild

theorem triple_closes {f : Text → Text → Text → Text}
    (hf : ∀ a b c, (f a b c).endsWith ")" = true) :
    (ofPattern shape reader fun
      | [a, b, c] => some (f a b c)
      | _ => none).Closes := by
  intro s e h
  obtain ⟨kept, -, hbuild⟩ := Option.bind_eq_some_iff.1 h
  split at hbuild
  · cases hbuild
    exact hf _ _ _
  · cases hbuild

theorem onReceiver_closes {build : Text → Text} (hb : ∀ c, (build c).endsWith ")" = true) :
    (onReceiver words build).Closes := by
  intro s e h
  cases h
  exact hb _

theorem passing_closes : (passing first second method).Closes :=
  pair_closes fun _ _ => call_endsWith ..

theorem removing_closes : (removing first).Closes := pair_closes fun _ _ => call_endsWith ..

theorem asking_closes : (asking words method).Closes := onReceiver_closes fun _ => call_endsWith ..

theorem applying_closes : (applying words method).Closes :=
  onReceiver_closes fun _ => call_endsWith ..

theorem adding_closes : (adding place method).Closes := pair_closes fun _ _ => call_endsWith ..

theorem setting_closes : (setting first).Closes := triple_closes fun _ _ _ => call_endsWith ..

theorem all_close : ∀ op ∈ all, op.Closes := by
  have hstoring : storing.Closes := triple_closes fun _ _ _ => call_endsWith ..
  have hinserting : inserting.Closes := triple_closes fun _ _ _ => call_endsWith ..
  have hputting : putting.Closes := triple_closes fun _ _ _ => call_endsWith ..
  have hfirst : (onReceiver "first in" fun c => call c "get" "0").Closes :=
    onReceiver_closes fun _ => call_endsWith ..
  have hlast : (onReceiver "last in" fun c => call c "get" (call c "size" [] ++ " - 1")).Closes :=
    onReceiver_closes fun _ => call_endsWith ..
  simp only [all, removals, sizes, searches, placements, arrangements, List.forall_mem_append,
    List.forall_mem_cons, List.not_mem_nil, false_imp_iff, implies_true, and_self, passing_closes,
    removing_closes, asking_closes, applying_closes, adding_closes, setting_closes, hstoring,
    hinserting, hputting, hfirst, hlast]

theorem isOperation_of_word {w : Text} (hw : IsKeyword w) (hfirst : w ∉ firstWords) (t : Text) :
    isOperation .all (w ++ ' ' :: t) = false := by
  apply isOperation_eq_false
  intro op hop
  rw [Text.lower_append_blank, hw.lower_eq, Bool.eq_false_iff]
  intro hc
  exact hfirst (mem_firstWords hop (firstWord?_of_covers hop hw.isName hc))

end Operation

namespace Statement

open Operation (all_close firstWords isOperation_of_word)

variable {s t u v o head type name value : Text}

/-- The ends of a Java line. -/
def isClosed (s : Text) : Bool := s.endsWith ";" || s.endsWith "\x7b" || s.endsWith "\x7d"

/-- The line of a statement is a Java line, with one semicolon at its end where the statement has at
most one. -/
structure EndsOnce (t o : Text) : Prop where
  closed : isClosed o = true
  once : o.endsWith ";;" = true → t.endsWith ";;" = true

/-- How the line of a statement ends, where it is known whether a semicolon is doubled. -/
structure Ends (t : Text) (doubled : Bool) (o : Text) : Prop where
  closed : isClosed o = true
  twice : doubled = true → o.endsWith ";;" = true
  once : doubled = false → o.endsWith ";;" = true → t.endsWith ";;" = true

theorem Ends.endsOnce_iff {doubled : Bool} (h : Ends t doubled o) :
    EndsOnce t o ↔ (doubled = true → t.endsWith ";;" = true) := by
  constructor
  · exact fun honce hdoubled => honce.once (h.twice hdoubled)
  · intro hdoubled
    refine ⟨h.closed, ?_⟩
    cases doubled with
    | false => exact h.once rfl
    | true => exact fun _ => hdoubled rfl

section Ends

variable (t)

theorem ends_semicolon (u : Text) : Ends t (u.endsWith ";") (u ++ ";") := by
  have htwice : (u ++ ";").endsWith ";;" = u.endsWith ";" := Text.endsWith_twice u ';'
  have hone : (u ++ ";").endsWith ";" = true := Text.endsWith_iff.2 List.getLast?_concat
  refine ⟨?_, htwice.trans, fun hnot htwo => ?_⟩
  · rw [isClosed, hone]
    rfl
  · rw [htwice, hnot] at htwo
    cases htwo

theorem ends_call (hu : u.endsWith ")" = true) : Ends t false (u ++ ";") := by
  have hnot : u.endsWith ";" = false :=
    Text.not_endsWith_of_getLast? (Text.endsWith_iff.1 hu) (by decide)
  exact hnot ▸ ends_semicolon t u

theorem ends_block (h : o.getLast? = some '\x7b') : Ends t false o := by
  have hbrace : o.endsWith "\x7b" = true := Text.endsWith_iff.2 h
  refine ⟨?_, fun hfalse => absurd hfalse Bool.false_ne_true, fun _ htwo => ?_⟩
  · rw [isClosed, hbrace, Bool.or_true]
    rfl
  · rw [Text.getLast?_of_endsWith_twice htwo] at h
    cases h

theorem ends_self (h : isClosed t = true) : Ends t false t :=
  ⟨h, fun hfalse => absurd hfalse Bool.false_ne_true, fun _ htwo => htwo⟩

theorem ends_terminate : Ends t false (terminate t) := by
  rw [terminate, ← isClosed]
  split_ifs with hclosed
  · exact ends_self t hclosed
  · have hnot : t.endsWith ";" = false := by
      rw [Bool.eq_false_iff]
      intro hsemi
      rw [isClosed, hsemi] at hclosed
      exact hclosed rfl
    exact hnot ▸ ends_semicolon t t

end Ends

/-- An operation can be read from the text. -/
def isRead (v : Text) : Bool :=
  !v.startsWith "print " &&
    Operation.all.any fun op => op.covers v.lower && (op.expression? v).isSome

theorem not_print_of_isOperation {book : Phrasebook} (h : isOperation book v = true) :
    v.startsWith "print " = false := by
  rw [isOperation, Bool.and_eq_true, Bool.not_eq_true'] at h
  exact h.1

/-- A text is read as a call, or stays as it is. -/
theorem operationExpression_cases (hprint : v.startsWith "print " = false) :
    isRead v = true ∧ (operationExpression Phrasebook.all.operations v).endsWith ")" = true ∨
      isRead v = false ∧ operationExpression Phrasebook.all.operations v = v := by
  have hbook : Phrasebook.all.operations = Operation.all := rfl
  have hsame : isRead v = (Operation.all.findSome? fun op =>
      if op.covers v.lower then op.expression? v else none).isSome := by
    rw [isRead, hprint, Bool.not_false, Bool.true_and, Bool.eq_iff_iff, List.any_eq_true,
      List.findSome?_isSome_iff]
    refine exists_congr fun op => and_congr_right fun _ => ?_
    cases op.covers v.lower with
    | false => rfl
    | true => rfl
  rw [hsame, hbook, operationExpression]
  cases hfind : Operation.all.findSome? fun op =>
      if op.covers v.lower then op.expression? v else none with
  | none => exact .inr ⟨rfl, rfl⟩
  | some e =>
    obtain ⟨op, hm, he⟩ := List.exists_of_findSome?_eq_some hfind
    obtain ⟨-, he⟩ := Option.ite_none_right_eq_some.1 he
    exact .inl ⟨rfl, all_close op hm v e he⟩

/-- A value ends in a semicolon if it is written so and is not read as an operation. -/
theorem endsWith_javaValue (v : Text) :
    (javaValue .all v).endsWith ";" = (v.endsWith ";" && !isRead v) := by
  rw [javaValue]
  split_ifs with hop
  · rcases operationExpression_cases (not_print_of_isOperation hop) with
      ⟨hread, hcall⟩ | ⟨hread, hself⟩
    · rw [hread, Bool.not_true, Bool.and_false]
      exact Text.not_endsWith_of_getLast? (Text.endsWith_iff.1 hcall) (by decide)
    · rw [hread, hself, Bool.not_false, Bool.and_true]
  · have hread : isRead v = false := by
      rw [Bool.eq_false_iff]
      intro hread
      rw [isRead, Bool.and_eq_true, List.any_eq_true] at hread
      obtain ⟨hprint, op, hm, hboth⟩ := hread
      apply hop
      rw [Phrasebook.all_agrees.isOperation_eq, Bool.and_eq_true]
      exact ⟨hprint, List.any_eq_true.2 ⟨op, hm, (Bool.and_eq_true_iff.1 hboth).1⟩⟩
    rw [hread, Bool.not_false, Bool.and_true]

theorem javaValue_ne_nil (hv : v ≠ []) : javaValue .all v ≠ [] := by
  rw [javaValue]
  split_ifs with hop
  · rcases operationExpression_cases (not_print_of_isOperation hop) with ⟨-, hcall⟩ | ⟨-, hself⟩
    · intro hnil
      rw [hnil] at hcall
      cases hcall
    · rwa [hself]
  · exact hv

theorem ends_operationStatement (h : isOperation .all t = true) :
    Ends t false (operationStatement .all t) := by
  rw [operationStatement]
  rcases operationExpression_cases (not_print_of_isOperation h) with ⟨-, hcall⟩ | ⟨-, hself⟩
  · have hnot : (operationExpression Phrasebook.all.operations t).endsWith ";" = false :=
      Text.not_endsWith_of_getLast? (Text.endsWith_iff.1 hcall) (by decide)
    rw [hnot]
    exact ends_call t hcall
  · rw [hself]
    split_ifs with hsemi
    · apply ends_self
      rw [isClosed, hsemi]
      rfl
    · exact Bool.eq_false_iff.2 hsemi ▸ ends_semicolon t t

theorem ends_append (hhead : head.getLast? = some ' ') (v : Text) :
    Ends t (v.endsWith ";") (head ++ v ++ ";") := by
  have hnot : head.endsWith ";" = false := Text.not_endsWith_of_getLast? hhead (by decide)
  have hv : (head ++ v).endsWith ";" = v.endsWith ";" := Text.endsWith_append_of hnot v
  exact hv ▸ ends_semicolon t (head ++ v)

theorem ends_println (argument : Text) : Ends t false (println argument) := by
  have hshape : println argument = "System.out.println(" ++ argument ++ ")" ++ ";" :=
    (List.append_assoc _ ")".toList ";".toList).symm
  rw [hshape]
  exact ends_call t (Text.endsWith_iff.2 List.getLast?_concat)

theorem ends_interpolated (style : PrintStyle) (content : Text) :
    Ends t false (interpolated style content) := by
  rw [interpolated]
  split
  · exact ends_println _
  · exact ends_println _

theorem ends_plainPrint (style : PrintStyle) : Ends t false (plainPrint style t) := by
  rw [plainPrint, contentPrint]
  split
  · exact ends_println _
  · exact ends_interpolated _ _

theorem ends_formatPrint (style : PrintStyle) :
    Ends t (t.endsWith ";" && !formatPattern.accepts t) (formatPrint style t) := by
  rw [formatPrint, Pattern.accepts]
  cases hfind : formatPattern.find? t with
  | none =>
    rw [Option.isSome_none, Bool.not_false, Bool.and_true]
    exact ends_semicolon t t
  | some kept =>
    obtain ⟨content, rfl⟩ := List.length_eq_one_iff.1 (Pattern.length_of_find? hfind)
    rw [Option.isSome_some, Bool.not_true, Bool.and_false]
    exact ends_interpolated style content

/-- The value of a declaration stands at its end, unless it asks for an empty container. -/
theorem ends_initialised (name type : Text) (hv : v ≠ []) :
    Ends t (v.endsWith ";") (initialised name type v) := by
  obtain ⟨value, hline, rfl | ⟨rfl, hword⟩⟩ := exists_initialised name type v
  · rw [hline, declared_some _ _ hv]
    exact ends_append (by rw [List.getLast?_append]; rfl) _
  · have hnot : v.endsWith ";" = false := by
      rw [Bool.eq_false_iff]
      intro hsemi
      have hm : ';' ∈ v := List.mem_of_getLast? (Text.endsWith_iff.1 hsemi)
      exact (hword.resolve_left hv).notMem rfl hm
    rw [hline, declared_some _ _ (by simp), hnot]
    apply ends_call
    exact Text.endsWith_iff.2 (by rw [List.getLast?_append, List.getLast?_append]; rfl)

theorem ends_bare (name type : Text) :
    Ends t (name.endsWith ";" && (typeAndValue .full Container.all type none).2.isNone)
      (declared (typeAndValue .full Container.all type none).1 name
        (typeAndValue .full Container.all type none).2) := by
  have hvalue : (typeAndValue .full Container.all type none).2 = none ∨
      ∃ java : Text, (typeAndValue .full Container.all type none).2 =
        some ("new " ++ java ++ "()") := by
    rw [typeAndValue]
    cases Text.cut? "/" type with
    | none => exact .inl rfl
    | some res =>
      dsimp only
      cases Container.all.find? (·.words.contains res.1.trim.lower) with
      | none => exact .inl rfl
      | some c => exact .inr ⟨_, rfl⟩
  rcases hvalue with hnone | ⟨java, hnew⟩
  · rw [hnone, Option.isNone_none, Bool.and_true]
    exact ends_append List.getLast?_concat _
  · rw [hnew, declared_some _ _ (by simp), Option.isNone_some, Bool.and_false]
    apply ends_call
    exact Text.endsWith_iff.2 (by rw [List.getLast?_append, List.getLast?_append]; rfl)

/-- What stands behind the first place of a separator. -/
def behind? (sep s : Text) : Option Text := (Text.cut? sep s).map (·.2.trim)

/-- A declaration ends in its value as it is written. -/
def copiesValue (t : Text) : Bool :=
  if t.startsWith "var " then !(behind? " = " (Text.trim (t.drop 4))).any isRead
  else t.includes " with " || t.includes " = " && !(behind? " = " t).any isRead

/-- A declaration without a value ends in its name, which ends in a semicolon. -/
def copiesName (t : Text) : Bool :=
  !t.startsWith "var " && !t.includes " with " && !t.includes " = " &&
    (Text.cut? " as " t).any fun parts => parts.1.trim.endsWith ";" &&
      (typeAndValue .full Container.all parts.2.trim none).2.isNone

theorem ends_inferred (ht : t.trim = t) (hvar : t.startsWith "var " = true) {hint : Bool}
    (h : inferredDeclaration .all hint t = .ok o) :
    Ends t (t.endsWith ";" && copiesValue t) o := by
  rw [inferredDeclaration] at h
  cases hcut : Text.cut? " = " (Text.trim (t.drop 4)) with
  | none =>
    rw [hcut] at h
    cases h
  | some parts =>
    obtain ⟨name, value⟩ := parts
    rw [hcut] at h
    cases h
    have hrest : Text.cut? "var " t = some ([], t.drop 4) := by
      obtain ⟨rest, rfl⟩ := List.isPrefixOf_iff_prefix.1 hvar
      exact Text.cut?_self (by decide) rest
    have hsemi : value.trim.endsWith ";" = t.endsWith ";" :=
      (Text.endsWith_cut? (Text.trim_trim _) (d := ' ') rfl (by decide) hcut).trans
        (Text.endsWith_cut? ht (d := ' ') rfl (by decide) hrest)
    have hcopies : copiesValue t = !isRead value.trim := by
      rw [copiesValue, if_pos hvar, behind?, hcut]
      rfl
    rw [hcopies, ← hsemi, ← endsWith_javaValue]
    exact ends_append (by rw [List.getLast?_append]; rfl) _

theorem ends_assignment (ht : t.trim = t) (h : isAssignment t = true) :
    Ends t (t.endsWith ";" && !(behind? "=" t).any isRead) (assignment .all t) := by
  have hin : t.includes "=" = true := (Bool.and_eq_true_iff.1 h).1
  obtain ⟨⟨target, value⟩, hcut⟩ := Option.isSome_iff_exists.1 hin
  have hsemi : value.trim.endsWith ";" = t.endsWith ";" :=
    Text.endsWith_cut? ht (d := '=') rfl (by decide) hcut
  have hread : (behind? "=" t).any isRead = isRead value.trim := by
    rw [behind?, hcut]
    rfl
  rw [assignment, hcut, hread, ← hsemi, ← endsWith_javaValue]
  exact ends_append (by rw [List.getLast?_append]; rfl) _

section Typed

variable (hvar : t.startsWith "var " = false) (has : t.includes " as " = true)
  (h : localDeclaration Stage.current.locals t = .ok o)
include hvar has h

theorem ends_of_value {part : Text} (hv : v ≠ [])
    (hpart : partAndValue Stage.current.locals.book t = (part, some v)) :
    Ends t (v.endsWith ";") o := by
  rw [localDeclaration, hvar, if_neg Bool.false_ne_true, if_pos has, hpart] at h
  dsimp only at h
  split at h
  · cases h
    exact ends_initialised _ _ hv
  · cases h

theorem ends_of_no_value (hpart : partAndValue Stage.current.locals.book t = (t, none)) :
    Ends t ((Text.cut? " as " t).any fun parts => parts.1.trim.endsWith ";" &&
      (typeAndValue .full Container.all parts.2.trim none).2.isNone) o := by
  rw [localDeclaration, hvar, if_neg Bool.false_ne_true, if_pos has, hpart] at h
  dsimp only at h
  cases hcut : Text.cut? " as " t with
  | none =>
    rw [hcut] at h
    cases h
  | some parts =>
    rw [hcut] at h
    cases h
    exact ends_bare _ _

theorem ends_typed (ht : t.trim = t) :
    Ends t (t.endsWith ";" && copiesValue t || copiesName t) o := by
  have hcopies : copiesValue t =
      (t.includes " with " || t.includes " = " && !(behind? " = " t).any isRead) := by
    rw [copiesValue, hvar]
    rfl
  have hname : copiesName t = (!t.includes " with " && !t.includes " = " &&
      (Text.cut? " as " t).any fun parts => parts.1.trim.endsWith ";" &&
        (typeAndValue .full Container.all parts.2.trim none).2.isNone) := by
    rw [copiesName, hvar]
    rfl
  rw [hcopies, hname, Text.includes, Text.includes, behind?]
  cases hwith : Text.cut? " with " t with
  | some parts =>
    have hpart : partAndValue Stage.current.locals.book t =
        (parts.1.trim, some parts.2.trim) := by rw [partAndValue, hwith]
    have hsemi : parts.2.trim.endsWith ";" = t.endsWith ";" :=
      Text.endsWith_cut? ht (d := ' ') rfl (by decide) hwith
    rw [Option.isSome_some, Bool.true_or, Bool.and_true, Bool.not_true, Bool.false_and,
      Bool.false_and, Bool.or_false, ← hsemi]
    exact ends_of_value hvar has h (Text.trim_ne_nil_of_cut? ht rfl hwith) hpart
  | none =>
    cases hequals : Text.cut? " = " t with
    | some parts =>
      have hpart : partAndValue Stage.current.locals.book t =
          (parts.1.trim, some (javaValue .all parts.2.trim)) := by
        rw [partAndValue, hwith, hequals]
        rfl
      have hsemi : parts.2.trim.endsWith ";" = t.endsWith ";" :=
        Text.endsWith_cut? ht (d := ' ') rfl (by decide) hequals
      rw [Option.isSome_none, Option.isSome_some, Bool.false_or, Bool.true_and, Bool.not_true,
        Bool.and_false, Bool.false_and, Bool.or_false, Option.map_some, Option.any_some, ← hsemi,
        ← endsWith_javaValue]
      exact ends_of_value hvar has h
        (javaValue_ne_nil (Text.trim_ne_nil_of_cut? ht rfl hequals)) hpart
    | none =>
      have hpart : partAndValue Stage.current.locals.book t = (t, none) := by
        rw [partAndValue, hwith, hequals]
      rw [Option.isSome_none, Bool.false_and, Bool.or_false, Bool.and_false, Bool.false_or,
        Bool.not_false, Bool.true_and, Bool.true_and]
      exact ends_of_no_value hvar has h hpart

end Typed

theorem ends_localDeclaration (ht : t.trim = t) (hlocal : isLocal t = true)
    (h : localDeclaration Stage.current.locals t = .ok o) :
    Ends t (t.endsWith ";" && copiesValue t || copiesName t) o := by
  by_cases hvar : t.startsWith "var " = true
  · have hname : copiesName t = false := by
      rw [copiesName, hvar]
      rfl
    rw [localDeclaration, if_pos hvar] at h
    rw [hname, Bool.or_false]
    exact ends_inferred ht hvar h
  · rw [Bool.not_eq_true] at hvar
    have has : t.includes " as " = true := by
      rw [isLocal, isValuedLocal, hvar, Bool.false_or, ← Bool.and_or_distrib_left] at hlocal
      exact (Bool.and_eq_true_iff.1 hlocal).1
    exact ends_typed hvar has h ht

theorem convertBy_opening (word : Text) (f : Text → Text) {rules : List Rule}
    (h : convertBy rules s = .ok o) : convertBy (.opening word f :: rules) s =
      .ok (if s.trim.startsWith word then f s.trim else o) := by
  rw [convertBy, List.findSome?_cons, Rule.opening]
  by_cases hword : s.trim.startsWith word = true
  · rw [if_pos hword, if_pos hword]
    rfl
  · rw [if_neg hword, if_neg hword]
    exact h

theorem convertBy_blocks (s : Text) :
    convertBy (.opening "if " ifLine :: .opening "elif " elifLine :: lateRules) s =
      .ok (if s.trim.startsWith "if " then ifLine s.trim
        else if s.trim.startsWith "elif " then elifLine s.trim
        else if s.trim = "else:".toList then "else \x7b"
        else if s.trim.startsWith "for " then forLine Stage.current.loops s.trim
        else if s.trim.startsWith "while " then whileLine s.trim
        else if s.trim.startsWith "switch " then switchLine s.trim
        else if s.trim.startsWith "return " then s.trim ++ ";"
        else terminate s.trim) := by
  have hend : convertBy [] s = .ok (terminate s.trim) := rfl
  have hlast := convertBy_opening "for " (forLine Stage.current.loops)
    (convertBy_opening "while " whileLine (convertBy_opening "switch " switchLine
      (convertBy_opening "return " (· ++ ";") hend)))
  refine convertBy_opening _ _ (convertBy_opening _ _ ?_)
  rw [lateRules, convertBy, List.findSome?_cons, elseRule]
  by_cases helse : s.trim = "else:".toList
  · rw [if_pos helse, if_pos helse]
    rfl
  · rw [if_neg helse, if_neg helse]
    exact hlast

/-- The loop of a `for` line is one that is understood. -/
def readsLoop (t : Text) : Bool :=
  if t.includes " in range(" then rangePattern.accepts t
  else t.includes " in " && eachPattern.accepts t

theorem forLine_of_readsLoop (h : readsLoop t = true) :
    (forLine Stage.current.loops t).getLast? = some '\x7b' := by
  rw [readsLoop] at h
  rw [forLine]
  split_ifs at h ⊢ with hrange hin
  · obtain ⟨kept, hfind⟩ := Option.isSome_iff_exists.1 h
    obtain ⟨v, arguments, rfl⟩ := List.length_eq_two.1 (Pattern.length_of_find? hfind)
    obtain ⟨first, bound, hloop, -⟩ := range?_current v arguments
    rw [hfind]
    dsimp only
    rw [hloop]
    exact getLast?_countingLine _ _ _
  · obtain ⟨kept, hfind⟩ := Option.isSome_iff_exists.1 (Bool.and_eq_true_iff.1 h).2
    obtain ⟨v, c, rfl⟩ := List.length_eq_two.1 (Pattern.length_of_find? hfind)
    rw [hfind]
    exact getLast?_opening _
  · exact absurd (Bool.and_eq_true_iff.1 h).1 hin

theorem forLine_of_not_readsLoop (h : readsLoop t = false) : forLine Stage.current.loops t = t := by
  have hnone {p : Pattern} (hp : p.accepts t = false) : p.find? t = none := by
    rwa [Pattern.accepts, Option.isSome_eq_false_iff, Option.isNone_iff_eq_none] at hp
  rw [readsLoop] at h
  rw [forLine]
  split_ifs at h ⊢ with hrange hin
  · rw [hnone h]
  · rw [hin, Bool.true_and] at h
    rw [hnone h]
  · rfl

/-- A loop that is not understood and has no end of its own. -/
def isOpenLoop (t : Text) : Bool :=
  t.startsWith "for " && !isLocal t && !isAssignment t && !readsLoop t && !isClosed t

/-- A semicolon is put right behind another one. -/
def doubles (t : Text) : Bool :=
  if t.startsWith "print " then
    t.startsWith "print f\"" && (t.endsWith ";" && !formatPattern.accepts t)
  else if isLocal t then t.endsWith ";" && copiesValue t || copiesName t
  else if isAssignment t then
    !isOperation .all t && (t.endsWith ";" && !(behind? "=" t).any isRead)
  else t.startsWith "return " && t.endsWith ";"

theorem ends_blocks
    (hloop : s.trim.startsWith "for " = true → readsLoop s.trim = false → isClosed s.trim = true)
    (h : convertBy (.opening "if " ifLine :: .opening "elif " elifLine :: lateRules) s = .ok o) :
    Ends s.trim (s.trim.startsWith "return " && s.trim.endsWith ";") o := by
  have hother {c : Char} {p : Text} (hstarts : s.trim.startsWith (c :: p) = true) (hc : c ≠ 'r') :
      (s.trim.startsWith "return " && s.trim.endsWith ";") = false := by
    have hnot : s.trim.startsWith "return " = false := Text.startsWith_of_ne hc hstarts
    rw [hnot, Bool.false_and]
  rw [convertBy_blocks] at h
  cases h
  split_ifs with hif helif helse hfor hwhile hswitch hreturn
  · rw [hother hif (by decide)]
    exact ends_block _ (getLast?_opening _)
  · rw [hother helif (by decide)]
    exact ends_block _ (getLast?_opening _)
  · rw [helse]
    exact ends_block _ rfl
  · rw [hother hfor (by decide)]
    cases hreads : readsLoop s.trim with
    | true => exact ends_block _ (forLine_of_readsLoop hreads)
    | false =>
      rw [forLine_of_not_readsLoop hreads]
      exact ends_self _ (hloop hfor hreads)
  · rw [hother hwhile (by decide)]
    exact ends_block _ (getLast?_opening _)
  · rw [hother hswitch (by decide)]
    exact ends_block _ (getLast?_opening _)
  · rw [hreturn, Bool.true_and]
    exact ends_semicolon _ _
  · rw [Bool.eq_false_iff.2 hreturn, Bool.false_and]
    exact ends_terminate _

theorem otherWords_open_nothing : ∀ w ∈ (["for", "return"] : List Text),
    IsKeyword w ∧ w ∉ firstWords ∧ w ≠ "print" := by decide +kernel

/-- What begins with a word of no operation, and is no declaration or assignment, is left to the
other rules. -/
theorem convert_otherWord {w rest : Text} (hs : s.trim = w ++ ' ' :: rest)
    (hw : w ∈ (["for", "return"] : List Text)) (hlocal : isLocal s.trim = false)
    (hassign : isAssignment s.trim = false) : convert .current s =
      convertBy (.opening "if " ifLine :: .opening "elif " elifLine :: lateRules) s := by
  obtain ⟨hkey, hfirst, hprint⟩ := otherWords_open_nothing w hw
  have hp : s.trim.startsWith "print " = false := by
    rw [hs]
    exact Text.startsWith_word hkey.notMem (v := "print") (by decide) hprint rest
  have hop : isOperation .all s.trim = false := by
    rw [hs]
    exact isOperation_of_word hkey hfirst rest
  rw [convert_unprinted hp, hlocal, hop, hassign, if_neg Bool.false_ne_true,
    if_neg Bool.false_ne_true, if_neg Bool.false_ne_true]

theorem convert_ends (h : convert .current s = .ok o) (hloop : isOpenLoop s.trim = false) :
    Ends s.trim (doubles s.trim) o := by
  have ht : s.trim.trim = s.trim := Text.trim_trim s
  rw [doubles]
  split_ifs with hprint hlocal hassign
  · rw [convert_printed hprint] at h
    cases h
    split_ifs with hformat
    · rw [hformat, Bool.true_and]
      exact ends_formatPrint _
    · rw [Bool.eq_false_iff.2 hformat, Bool.false_and]
      exact ends_plainPrint _
  all_goals rw [convert_unprinted (Bool.eq_false_iff.2 hprint)] at h
  · rw [if_pos hlocal] at h
    exact ends_localDeclaration ht hlocal h
  · rw [if_neg hlocal] at h
    split_ifs at h with hop
    · cases h
      rw [hop, Bool.not_true, Bool.false_and]
      exact ends_operationStatement hop
    · cases h
      rw [Bool.eq_false_iff.2 hop, Bool.not_false, Bool.true_and]
      exact ends_assignment ht hassign
  · rw [if_neg hlocal] at h
    split_ifs at h with hop
    · have hreturn : s.trim.startsWith "return " = false := by
        rw [Bool.eq_false_iff]
        intro hreturn
        obtain ⟨rest, hs⟩ := List.isPrefixOf_iff_prefix.1 hreturn
        obtain ⟨hkey, hfirst, -⟩ := otherWords_open_nothing "return" (by decide)
        have hno := isOperation_of_word hkey hfirst rest
        have hsame : "return ".toList ++ rest = "return".toList ++ ' ' :: rest := rfl
        rw [← hsame, hs, hop] at hno
        cases hno
      cases h
      rw [hreturn, Bool.false_and]
      exact ends_operationStatement hop
    · refine ends_blocks (fun hfor hreads => ?_) h
      rw [isOpenLoop, hfor, Bool.eq_false_iff.2 hlocal, Bool.eq_false_iff.2 hassign,
        hreads] at hloop
      simpa using hloop

/-- A loop that is not understood stays as it is. -/
theorem convert_of_isOpenLoop (h : isOpenLoop s.trim = true) : convert .current s = .ok s.trim := by
  simp only [isOpenLoop, Bool.and_eq_true, Bool.not_eq_true'] at h
  obtain ⟨⟨⟨⟨hfor, hlocal⟩, hassign⟩, hreads⟩, -⟩ := h
  obtain ⟨rest, hs⟩ := List.isPrefixOf_iff_prefix.1 hfor
  have hif : ¬ s.trim.startsWith "if " = true := by
    rw [← hs]
    exact Bool.false_ne_true
  have helif : ¬ s.trim.startsWith "elif " = true := by
    rw [← hs]
    exact Bool.false_ne_true
  have helse : s.trim ≠ "else:" := by
    rw [← hs]
    exact fun he => absurd (List.cons.inj he).1 (by decide)
  rw [convert_otherWord (w := "for") hs.symm (by decide) hlocal hassign, convertBy_blocks,
    if_neg hif, if_neg helif, if_neg helse, if_pos hfor, forLine_of_not_readsLoop hreads]

/-- The Java form of a statement is a line that ends once, except for a loop that is not understood
and for a statement whose own semicolon is doubled. -/
theorem endsOnce_convert_iff (h : convert .current s = .ok o) :
    EndsOnce s.trim o ↔ isOpenLoop s.trim = false ∧
      (doubles s.trim = true → s.trim.endsWith ";;" = true) := by
  cases hloop : isOpenLoop s.trim with
  | false =>
    rw [(convert_ends h hloop).endsOnce_iff]
    exact (and_iff_right rfl).symm
  | true =>
    rw [convert_of_isOpenLoop hloop] at h
    cases h
    refine iff_of_false (fun honce => ?_) (fun hboth => absurd hboth.1 (by decide))
    rw [isOpenLoop, honce.closed, Bool.not_true, Bool.and_false] at hloop
    cases hloop

theorem endsOnce_convert_iff_semicolon :
    ¬ EndsOnce "return x;" "return x;;" ∧ ¬ EndsOnce "for x in xs" "for x in xs" ∧
      EndsOnce "add x to xs;" "xs.add(x);" := by
  have hreturn : convert .current "return x;" = .ok "return x;;" :=
    convert_otherWord (w := "return") (s := "return x;") rfl (by decide) (by decide) (by decide)
  have hfor : convert .current "for x in xs" = .ok "for x in xs" :=
    convert_of_isOpenLoop (by decide +kernel)
  have hadd : convert .current "add x to xs;" = .ok "xs.add(x);" := by rfl
  refine ⟨fun h => ?_, fun h => ?_, ?_⟩
  · have hdoubles := ((endsOnce_convert_iff hreturn).1 h).2
    exact absurd (hdoubles (by decide +kernel)) (by decide)
  · have hloop := ((endsOnce_convert_iff hfor).1 h).1
    exact absurd hloop (by decide +kernel)
  · refine (endsOnce_convert_iff hadd).2 ⟨by decide +kernel, fun hdoubles => ?_⟩
    exact absurd hdoubles (by decide +kernel)

end Statement

end JavaSketch
