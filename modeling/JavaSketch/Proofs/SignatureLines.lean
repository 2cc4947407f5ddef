import JavaSketch.Proofs.ConditionLines
import JavaSketch.Proofs.Constructors
import JavaSketch.Proofs.Creations

namespace JavaSketch

namespace Method

open Constructor (memberLine onMember_memberLine)

/-- A method that is written as a line without a body is read back, with its types in Java. -/
theorem readAbstract_written (t? : Option Template) (access : Access) (pad gap name returns : Text)
    (ps : List WrittenParam) (hpad : ∀ c ∈ pad, isBlank c = true)
    (hgap : ∀ c ∈ gap, isBlank c = true) (hn : IsName name) (hne : returns ≠ [])
    (htrim : returns.trim = returns) :
    readAbstract t? (memberLine pad access gap
        (Signature.callText ps name ++ " returns " ++ returns)) =
      .ok (some { name, params := ps.map WrittenParam.toParam,
                  returnType := TypeTable.full.javaName returns, access }) := by
  obtain ⟨c, rest, hname⟩ := List.exists_cons_of_ne_nil hn.ne_nil
  have hc : isWord c = true := hn.char (hname ▸ List.mem_cons_self)
  obtain ⟨s, hs⟩ : ∃ s, Signature.callText ps name ++ " returns " ++ returns = c :: s := by
    rw [Signature.callText, hname]
    exact ⟨_, rfl⟩
  have hwhole : Text.trim (Signature.callText ps name ++ " returns " ++ returns) =
      Signature.callText ps name ++ " returns " ++ returns := by
    apply Text.trim_of_ends
    · rw [hs]
      exact Text.head_cons (not_blank_of_isWord hc)
    · intro d hd
      rw [List.getLast?_append_of_ne_nil _ hne] at hd
      exact Text.getLast_of_trim htrim d hd
  rw [readAbstract, onMember_memberLine _ hpad hgap hs hc hwhole, MethodReader.abstract, reader]
  dsimp only
  rw [Signature.read?_callText ps hn htrim]
  dsimp only
  rw [WrittenParam.paramsFor_list]
  rfl

theorem readAbstract_written_pair :
    readAbstract none "  - f(p(a xs, int k) returns Int" =
        .ok (some { name := "f", params := [⟨"xs", "p(a"⟩, ⟨"k", "int"⟩], returnType := "int",
                    access := .priv }) ∧
      readAbstract (some { name := "T", instanceVars := [{ name := "k", type := "Set" }] })
          "f(int k) returns a returns b" =
        .ok (some { name := "f", params := [⟨"k", "int"⟩], returnType := "a returns b" }) := by
  have hxs : IsListWord "p(a" ∧ IsListWord "xs" :=
    ⟨⟨by decide, by decide, rfl⟩, by decide, by decide, rfl⟩
  have hk : IsListWord "int" ∧ IsListWord "k" :=
    ⟨⟨by decide, by decide, rfl⟩, by decide, by decide, rfl⟩
  have hf : IsName "f" := ⟨by decide, rfl⟩
  exact ⟨readAbstract_written none .priv "  " " " "f" "Int"
      [⟨"p(a", "xs", hxs.1, hxs.2⟩, ⟨"int", "k", hk.1, hk.2⟩] (List.all_eq_true.1 rfl)
      (List.all_eq_true.1 rfl) hf (by decide) (by decide),
    readAbstract_written _ .pack [] [] "f" "a returns b" [⟨"int", "k", hk.1, hk.2⟩]
      (List.forall_mem_nil _) (List.forall_mem_nil _) hf (by decide) (by decide)⟩

end Method

namespace TypeTable

theorem javaName_colon {t : Text} (h : t.getLast? = some ':') : full.javaName t = t := by
  obtain ⟨s, rfl⟩ := List.getLast?_eq_some_iff.1 h
  apply Statement.javaName_of_mem (q := ':') (by decide)
  have hlower : Text.lower (s ++ [':']) = Text.lower s ++ [':'] :=
    Text.lower_append_colon s
  rw [hlower]
  exact List.mem_append_right _ List.mem_cons_self

theorem getLast?_javaName {t : Text} (h : t.getLast? ≠ some ':') :
    (full.javaName t).getLast? ≠ some ':' := by
  have hvalues : ∀ entry ∈ full, entry.2.getLast? ≠ some ':' := by decide
  rw [javaName]
  cases hfound : full.lookup t.lower with
  | none => exact h
  | some java =>
    obtain ⟨key, hm⟩ := lookup_mem hfound
    exact hvalues _ hm

end TypeTable

namespace Signature

variable {u pad mark head after : Text}

/-- The first mark of a return type in a text, with what stands before and behind it. -/
def marked? (u : Text) : Option (Text × Text) := returnsOrArrow.findSome? (Text.cut? · u)

theorem marked?_eq (u : Text) :
    marked? u = (Text.cut? " returns " u).or (Text.cut? " -> " u) := by
  rw [marked?, returnsOrArrow, List.findSome?_cons, List.findSome?_singleton]
  cases Text.cut? " returns " u with
  | none => rfl
  | some parts => rfl

theorem isSome_marked? (u : Text) : (marked? u).isSome = returnsOrArrow.any u.includes := by
  rw [marked?_eq, Option.isSome_or]
  exact (congrArg (_ || ·) (Bool.or_false _)).symm

theorem suffix_of_marked? (h : marked? u = some (head, after)) : after <:+ u := by
  obtain ⟨mark, -, hcut⟩ := List.exists_of_findSome?_eq_some h
  rw [Text.eq_of_cut? hcut]
  exact List.suffix_append _ _

theorem splitReturns_eq (u : Text) : splitReturns returnsOrArrow u =
    ((marked? u).map fun parts => (parts.1, parts.2.trim)).getD (u, "void".toList) := by
  rw [splitReturns, ← marked?]
  cases marked? u with
  | none => rfl
  | some parts => rfl

theorem mark_ends (hm : mark ∈ returnsOrArrow) : ∃ w c, mark = w ++ [c] ++ [' '] ∧
    isBlank c = false ∧ c ≠ ':' := by
  rcases List.mem_cons.1 hm with rfl | hm
  · exact ⟨" return", 's', rfl, rfl, by decide⟩
  · rw [List.mem_singleton] at hm
    exact ⟨" -", '>', hm, rfl, by decide⟩

/-- A mark that is there only with the blanks behind a text ends with the first of them. -/
theorem eq_of_crossing (hpad : ∀ c ∈ pad, isBlank c = true) (hm : mark ∈ returnsOrArrow)
    (hnone : Text.cut? mark u = none)
    (hcut : Text.cut? mark (u ++ (pad ++ ":")) = some (head, after)) :
    u = head ++ mark.dropLast := by
  have hwhole (behind : Text) : u ≠ head ++ mark ++ behind := by
    rintro rfl
    have hin : Text.includes (head ++ mark ++ behind) mark = true :=
      Text.includes_iff.2 ⟨head, behind, rfl⟩
    rw [Text.includes, hnone] at hin
    cases hin
  obtain ⟨w, c, rfl, hc, hcolon⟩ := mark_ends hm
  rcases List.append_eq_append_iff.1 (Text.eq_of_cut? hcut) with
    ⟨tail, htail, hrest⟩ | ⟨behind, h, -⟩
  · rcases List.eq_nil_or_concat' tail with rfl | ⟨front, d, rfl⟩
    · exact absurd (by rw [htail, List.append_nil, List.append_nil]) (hwhole [])
    · simp only [← List.append_assoc] at htail
      obtain ⟨hfront, -⟩ := List.append_inj' htail rfl
      rw [List.dropLast_concat, ← List.append_assoc, hfront]
      rcases List.eq_nil_or_concat' front with rfl | ⟨more, e, rfl⟩
      · rw [List.append_nil]
      · rw [← List.append_assoc] at hfront
        obtain ⟨-, he⟩ := List.append_inj' hfront rfl
        have hmem : c ∈ pad ++ ":".toList := by
          rw [hrest, List.cons.inj he |>.1]
          simp
        rcases List.mem_append.1 hmem with hmem | hmem
        · rw [hpad c hmem] at hc
          cases hc
        · exact absurd (List.mem_singleton.1 hmem) hcolon
  · exact absurd h (hwhole behind)

/-- A mark that is only found with a colon and blanks behind a text: the text ends in the word of
the mark, and its own mark, if it has one, stands further in front. -/
structure Crosses (u head : Text) : Prop where
  word : ∃ w, u = head ++ w ∧ ')' ∉ w
  last : u.getLast? ≠ some ':'
  front : ∀ parts, marked? u = some parts → parts.1 <+: head

theorem crosses (hpad : ∀ c ∈ pad, isBlank c = true) (hm : mark ∈ returnsOrArrow)
    (hnone : Text.cut? mark u = none)
    (hcut : Text.cut? mark (u ++ (pad ++ ":")) = some (head, after))
    (hfront : ∀ parts, marked? u = some parts → parts.1 <+: head) : Crosses u head where
  word := by
    have hmarks : ∀ mark ∈ returnsOrArrow, ')' ∉ mark.dropLast := by decide
    exact ⟨mark.dropLast, eq_of_crossing hpad hm hnone hcut, hmarks mark hm⟩
  last := by
    obtain ⟨w, c, rfl, -, hc⟩ := mark_ends hm
    rw [eq_of_crossing hpad hm hnone hcut, List.dropLast_concat, ← List.append_assoc,
      List.getLast?_concat]
    exact fun h => hc (Option.some.inj h)
  front := hfront

theorem marked?_colon (hpad : ∀ c ∈ pad, isBlank c = true)
    (h : marked? (u ++ (pad ++ ":")) = some (head, after)) :
    (∃ returns, marked? u = some (head, returns) ∧ after = returns ++ (pad ++ ":")) ∨
      Crosses u head := by
  rw [marked?_eq] at h
  cases hreturns : Text.cut? " returns " u with
  | some parts =>
    rw [Text.cut?_append_right hreturns, Option.some_or] at h
    cases h
    exact .inl ⟨_, by rw [marked?_eq, hreturns, Option.some_or], rfl⟩
  | none =>
    have hu : marked? u = Text.cut? " -> " u := by rw [marked?_eq, hreturns, Option.none_or]
    cases hcross : Text.cut? " returns " (u ++ (pad ++ ":")) with
    | some parts =>
      rw [hcross, Option.some_or] at h
      cases h
      refine .inr (crosses hpad List.mem_cons_self hreturns hcross fun parts hparts => ?_)
      have harrow := Text.eq_of_cut? (hu.symm.trans hparts)
      rw [eq_of_crossing hpad List.mem_cons_self hreturns hcross,
        List.append_assoc parts.1] at harrow
      rcases List.append_eq_append_iff.1 harrow with ⟨tail, -, htail⟩ | ⟨behind, hbehind, -⟩
      · have hin : Text.includes (" returns ".toList.dropLast) " -> " = true :=
          Text.includes_iff.2 ⟨tail, parts.2, by rw [htail, List.append_assoc]⟩
        exact absurd hin (by decide)
      · exact ⟨behind, hbehind.symm⟩
    | none =>
      rw [hcross, Option.none_or] at h
      cases harrow : Text.cut? " -> " u with
      | some parts =>
        rw [Text.cut?_append_right harrow] at h
        cases h
        exact .inl ⟨_, hu.trans harrow, rfl⟩
      | none =>
        refine .inr (crosses hpad (List.mem_cons_of_mem _ List.mem_cons_self) harrow h ?_)
        intro parts hparts
        rw [hu, harrow] at hparts
        cases hparts

theorem read?_of_marked (h : marked? u = some (head, after)) : read? returnsOrArrow u =
    (callParts? head).map fun parts => ⟨parts.1, parts.2, after.trim⟩ := by
  rw [read?, splitReturns_eq, h]
  rfl

theorem read?_of_unmarked (h : marked? u = none) : read? returnsOrArrow u =
    (callParts? u).map fun parts => ⟨parts.1, parts.2, "void"⟩ := by
  rw [read?, splitReturns_eq, h]
  rfl

theorem marked?_of_append {x : Text} (h : marked? (u ++ x) = none) : marked? u = none := by
  rw [← Option.isNone_iff_eq_none, ← Option.isSome_eq_false_iff, isSome_marked?,
    List.any_eq_false] at h ⊢
  intro mark hm hu
  have hinfix := (Text.includes_iff.1 hu).trans (List.prefix_append u x).isInfix
  exact h mark hm (Text.includes_iff.2 hinfix)

theorem read?_unmarked_colon (hpad : ∀ c ∈ pad, isBlank c = true)
    (h : marked? (u ++ (pad ++ ":")) = none) :
    read? returnsOrArrow (u ++ (pad ++ ":")) = read? returnsOrArrow u := by
  have hclose : ')' ∉ pad ++ ":".toList := by
    rw [List.mem_append, not_or]
    exact ⟨fun hc => Bool.noConfusion (hpad _ hc), by decide⟩
  rw [read?_of_unmarked h, read?_of_unmarked (marked?_of_append h),
    callParts?_append_of_notMem hclose]

theorem Crosses.getLast?_returns {sig : Signature} (h : Crosses u head) (hu : u.trim = u)
    (hs : read? returnsOrArrow u = some sig) : sig.returns.getLast? ≠ some ':' := by
  cases hm : marked? u with
  | none =>
    rw [read?_of_unmarked hm] at hs
    obtain ⟨parts, -, rfl⟩ := Option.map_eq_some_iff.1 hs
    dsimp only
    decide
  | some marked =>
    obtain ⟨front, returns⟩ := marked
    rw [read?_of_marked hm] at hs
    obtain ⟨parts, -, rfl⟩ := Option.map_eq_some_iff.1 hs
    have hsuffix := suffix_of_marked? hm
    obtain ⟨before, hbefore⟩ := (Text.trimLeft_suffix returns).trans hsuffix
    dsimp only
    rw [Text.trim_of_suffix hu hsuffix]
    intro hlast
    apply h.last
    rw [← hbefore, List.getLast?_append, hlast]
    rfl

theorem Crosses.callParts? {sig : Signature} (h : Crosses u head)
    (hs : read? returnsOrArrow u = some sig) :
    Signature.callParts? head = some (sig.name, sig.params) := by
  cases hm : marked? u with
  | none =>
    rw [read?_of_unmarked hm] at hs
    obtain ⟨parts, hparts, rfl⟩ := Option.map_eq_some_iff.1 hs
    obtain ⟨w, rfl, hw⟩ := h.word
    rw [callParts?_append_of_notMem hw] at hparts
    exact hparts
  | some marked =>
    rw [read?_of_marked hm] at hs
    obtain ⟨parts, hparts, rfl⟩ := Option.map_eq_some_iff.1 hs
    obtain ⟨behind, rfl⟩ := h.front marked hm
    exact callParts?_append hparts behind

theorem read?_marked_colon {sig : Signature} (hu : u.trim = u) (hpad : ∀ c ∈ pad, isBlank c = true)
    (hm : marked? (u ++ (pad ++ ":")) = some (head, after))
    (hs : read? returnsOrArrow u = some sig) :
    read? returnsOrArrow (u ++ (pad ++ ":")) = some { sig with returns := after.trim } ∧
      TypeTable.full.javaName after.trim ≠ TypeTable.full.javaName sig.returns := by
  have hlast : after.trim.getLast? = some ':' := by
    obtain ⟨mark, hmark, hcut⟩ := List.exists_of_findSome?_eq_some hm
    have hmarks : ∀ mark ∈ returnsOrArrow, mark.getLast? = some ' ' := by decide
    have hend : (u ++ (pad ++ ":".toList)).getLast? = some ':' := by
      rw [← List.append_assoc]
      exact List.getLast?_concat
    exact Text.getLast?_trim (Text.getLast?_cut? hend (hmarks mark hmark) (by decide) hcut) rfl
  have hother (hsig : sig.returns.getLast? ≠ some ':') :
      TypeTable.full.javaName after.trim ≠ TypeTable.full.javaName sig.returns := by
    rw [TypeTable.javaName_colon hlast]
    intro heq
    exact TypeTable.getLast?_javaName hsig (heq ▸ hlast)
  rcases marked?_colon hpad hm with ⟨returns, hmu, rfl⟩ | hcross
  · rw [read?_of_marked hmu] at hs
    obtain ⟨parts, hparts, rfl⟩ := Option.map_eq_some_iff.1 hs
    rw [read?_of_marked hm, hparts]
    refine ⟨rfl, ?_⟩
    by_cases hsig : returns.trim.getLast? = some ':'
    · dsimp only
      rw [TypeTable.javaName_colon hlast, TypeTable.javaName_colon hsig]
      intro heq
      have hcount := congrArg (List.count ':') heq
      rw [Text.count_trim rfl, Text.count_trim rfl, List.count_append, List.count_append] at hcount
      have hone : List.count ':' ":".toList = 1 := rfl
      omega
    · exact hother hsig
  · rw [read?_of_marked hm, hcross.callParts? hs]
    exact ⟨rfl, hother (hcross.getLast?_returns hu hs)⟩

theorem read?_returns_colon {sig : Signature} (hu : u.trim = u) (hm : (marked? u).isSome = true)
    (hs : read? returnsOrArrow u = some sig) :
    read? returnsOrArrow (u ++ ":") = some { sig with returns := sig.returns ++ ":" } := by
  obtain ⟨⟨head, returns⟩, hmarked⟩ := Option.isSome_iff_exists.1 hm
  have hcolon : marked? (u ++ ":") = some (head, returns ++ ":") := by
    rw [marked?_eq] at hmarked ⊢
    cases hcut : Text.cut? " returns " u with
    | some parts =>
      rw [hcut, Option.some_or] at hmarked
      cases hmarked
      rw [Text.cut?_append_right hcut, Option.some_or]
    | none =>
      rw [hcut, Option.none_or] at hmarked
      have hnone : Text.cut? " returns " (u ++ ':' :: []) = none := by
        apply Text.cut?_eq_none
        rw [Text.includes_append_cons (by decide), Text.includes, hcut]
        rfl
      rw [Text.cut?_append_right hmarked]
      exact congrArg (Option.or · _) hnone
  rw [read?_of_marked hmarked] at hs
  obtain ⟨parts, hparts, rfl⟩ := Option.map_eq_some_iff.1 hs
  rw [read?_of_marked hcolon, hparts, Text.trim_append_colon,
    ← Text.trim_of_suffix hu (suffix_of_marked? hmarked)]
  rfl

end Signature

namespace Method

variable {line : Text}

/-- The member on a line, behind its access mark. -/
def member (line : Text) : Text := (Access.parts line.trim).2

/-- The signature on a line, if there is one. -/
def signature? (line : Text) : Option Signature :=
  if isIdle line.trim then none else Signature.read? Signature.returnsOrArrow (member line)

/-- A line on which a mark of a return type is found. -/
def saysReturn (line : Text) : Bool := Signature.returnsOrArrow.any (member line).includes

theorem trim_member (line : Text) : (member line).trim = member line := by
  rw [member, Access.parts.eq_def]
  split
  · rfl
  · rename_i c s hs
    rw [Access.ofFirst]
    split
    · exact Text.trim_trim s
    · rw [← hs]
      exact Text.trim_trim line

theorem member_ne_nil {sig : Signature} (h : signature? line = some sig) : member line ≠ [] := by
  intro hnil
  rw [signature?, hnil] at h
  split at h
  · cases h
  · cases h

theorem exists_trim_colon (line : Text) : ∃ pad : Text, (∀ c ∈ pad, isBlank c = true) ∧
    (line.trimRight = line → pad = []) ∧ (line ++ ":").trim = line.trim ++ (pad ++ ":") := by
  obtain ⟨pad, hpad, hleft⟩ := line.trimLeft.exists_trimRight
  refine ⟨pad, hpad, fun hright => ?_, ?_⟩
  · obtain ⟨before, hbefore⟩ := line.trimLeft_suffix
    have hwhole : line = before ++ line.trim ++ pad := by
      rw [List.append_assoc, Text.trim, ← hleft, hbefore]
    have hshort : line.length ≤ (before ++ line.trim).length := by
      have hcut := congrArg Text.trimRight hwhole
      rw [Text.trimRight_append hpad, hright] at hcut
      calc line.length = (Text.trimRight (before ++ line.trim)).length := congrArg List.length hcut
        _ ≤ (before ++ line.trim).length := (Text.dropEndWhile_isPrefix _ _).length_le
    have hlong := congrArg List.length hwhole
    rw [List.length_append] at hlong
    exact List.length_eq_zero_iff.1 (by omega)
  · rw [Text.trim_append_colon, hleft, List.append_assoc]
    rfl

theorem isIdle_colon {s pad : Text} (hpad : ∀ c ∈ pad, isBlank c = true) (h : isIdle s = false) :
    isIdle (s ++ (pad ++ ":")) = false := by
  obtain ⟨q, rest, hend, hq⟩ : ∃ q rest, pad ++ ":".toList = q :: rest ∧ q ∉ "//".toList := by
    cases pad with
    | nil => exact ⟨':', [], rfl, by decide⟩
    | cons b pad =>
      refine ⟨b, pad ++ ":".toList, rfl, fun hm => ?_⟩
      have hslash : b = '/' := by simpa using hm
      have hb := hpad b List.mem_cons_self
      rw [hslash] at hb
      cases hb
  rw [isIdle, Bool.or_eq_false_iff] at h
  rw [hend, isIdle, Text.startsWith_append_cons hq, h.2, Bool.or_false, List.isEmpty_eq_false_iff]
  exact List.append_ne_nil_of_right_ne_nil _ (List.cons_ne_nil _ _)

theorem access_colon {s : Text} (hs : s.trim = s) (hne : (Access.parts s).2 ≠ []) (pad : Text) :
    Access.parts (s ++ (pad ++ ":")) =
      ((Access.parts s).1, (Access.parts s).2 ++ (pad ++ ":")) := by
  cases s with
  | nil => exact absurd rfl hne
  | cons c s =>
    rw [List.cons_append, Access.parts, Access.parts, Access.ofFirst, Access.ofFirst]
    cases hmark : Access.ofMark? c with
    | none => rfl
    | some access =>
      have hbody := Text.trim_of_suffix hs (List.suffix_cons c s)
      rw [Access.parts, Access.ofFirst, hmark] at hne
      dsimp only at hne ⊢
      rw [hbody, ← List.append_assoc, Text.trim_append_colon, Text.trimLeft_append hne,
        List.append_assoc]

theorem read_of_signature? (body : List Text → Except Fault (List Text × Nat))
    (t? : Option Template) (isStatic : Bool) (rest : List Text) {sig : Signature}
    (h : signature? line = some sig) :
    read body t? isStatic line rest = paramsFor t? sig.params >>= fun params =>
      body rest >>= fun res =>
        .ok (some { name := sig.name, params, returnType := TypeTable.full.javaName sig.returns,
                    access := (Access.parts line.trim).1, body := res.1, isStatic }, res.2) := by
  rw [signature?] at h
  split at h
  · cases h
  · rename_i hidle
    rw [read, onMember_eq, if_neg hidle, MethodReader.regular, reader]
    dsimp only
    rw [← member, h]

variable {sig : Signature}

theorem saysReturn_eq (line : Text) :
    saysReturn line = (Signature.marked? (member line)).isSome := by
  rw [saysReturn, Signature.isSome_marked?]

theorem exists_of_colon (h : signature? line = some sig) :
    ∃ pad : Text, (∀ c ∈ pad, isBlank c = true) ∧ (line.trimRight = line → pad = []) ∧
      member (line ++ ":") = member line ++ (pad ++ ":") ∧
      (Access.parts (line ++ ":").trim).1 = (Access.parts line.trim).1 ∧
      signature? (line ++ ":") =
        Signature.read? Signature.returnsOrArrow (member line ++ (pad ++ ":")) ∧
      Signature.read? Signature.returnsOrArrow (member line) = some sig := by
  have hidle : isIdle line.trim = false := by
    rw [Bool.eq_false_iff]
    intro hidle
    rw [signature?, if_pos hidle] at h
    cases h
  obtain ⟨pad, hpad, hend, htrim⟩ := exists_trim_colon line
  have hread : Access.parts (line ++ ":").trim =
      ((Access.parts line.trim).1, member line ++ (pad ++ ":")) := by
    rw [htrim]
    exact access_colon (Text.trim_trim line) (member_ne_nil h) pad
  have hmember : member (line ++ ":") = member line ++ (pad ++ ":") := congrArg Prod.snd hread
  refine ⟨pad, hpad, hend, hmember, by rw [hread], ?_, ?_⟩
  · rw [signature?, htrim, isIdle_colon hpad hidle, hmember, if_neg Bool.false_ne_true]
  · rwa [signature?, hidle, if_neg Bool.false_ne_true] at h

theorem returnType_of_read {body : List Text → Except Fault (List Text × Nat)}
    {t? : Option Template} {isStatic : Bool} {rest : List Text} {res : Option Method × Nat}
    (h : signature? line = some sig) (hres : read body t? isStatic line rest = .ok res) :
    ∃ m, res.1 = some m ∧ m.returnType = TypeTable.full.javaName sig.returns := by
  rw [read_of_signature? body t? isStatic rest h] at hres
  obtain ⟨params, -, hres⟩ := bind_eq_ok.1 hres
  obtain ⟨block, -, hres⟩ := bind_eq_ok.1 hres
  cases hres
  exact ⟨_, rfl, rfl⟩

/-- Where a line and the line with a colon have signatures that differ in their return types, so do
the methods. -/
theorem read_of_returns (body : List Text → Except Fault (List Text × Nat)) (t? : Option Template)
    (isStatic : Bool) (rest : List Text) {returns : Text} (h : signature? line = some sig)
    (haccess : (Access.parts (line ++ ":").trim).1 = (Access.parts line.trim).1)
    (hcolon : signature? (line ++ ":") = some { sig with returns }) :
    read body t? isStatic (line ++ ":") rest = (read body t? isStatic line rest).map fun res =>
      (res.1.map fun m => { m with returnType := TypeTable.full.javaName returns }, res.2) := by
  rw [read_of_signature? body t? isStatic rest hcolon, read_of_signature? body t? isStatic rest h,
    haccess]
  dsimp only
  cases paramsFor t? sig.params with
  | error f => rfl
  | ok params =>
    cases body rest with
    | error f => rfl
    | ok block => rfl

/-- A colon at the end of a signature makes no difference exactly if the line, with the colon, has
no mark of a return type, or the method cannot be read at all. Behind a return type, the colon
becomes part of it. -/
theorem read_colon_iff (body : List Text → Except Fault (List Text × Nat)) (t? : Option Template)
    (isStatic : Bool) (rest : List Text) (h : signature? line = some sig) :
    (read body t? isStatic (line ++ ":") rest = read body t? isStatic line rest ↔
        saysReturn (line ++ ":") = false ∨ ∃ f, read body t? isStatic line rest = .error f) ∧
      (line.trimRight = line → saysReturn line = true →
        read body t? isStatic (line ++ ":") rest = (read body t? isStatic line rest).map fun res =>
          (res.1.map fun m => { m with returnType := sig.returns ++ ":" }, res.2)) := by
  obtain ⟨pad, hpad, hend, hmember, haccess, hcolon, hsig⟩ := exists_of_colon h
  have hline := read_of_signature? body t? isStatic rest h
  rw [saysReturn_eq, hmember]
  cases hm : Signature.marked? (member line ++ (pad ++ ":")) with
  | none =>
    rw [Signature.read?_unmarked_colon hpad hm, hsig] at hcolon
    have hsame := read_of_signature? body t? isStatic rest hcolon
    rw [haccess, ← hline] at hsame
    refine ⟨iff_of_true hsame (.inl rfl), fun _ hsays => ?_⟩
    rw [saysReturn_eq, Signature.marked?_of_append hm] at hsays
    cases hsays
  | some marked =>
    obtain ⟨hread, hother⟩ := Signature.read?_marked_colon (trim_member line) hpad hm hsig
    have hchange := read_of_returns body t? isStatic rest h haccess (hcolon.trans hread)
    constructor
    · rw [hchange]
      cases hres : read body t? isStatic line rest with
      | error f => exact iff_of_true rfl (.inr ⟨f, rfl⟩)
      | ok res =>
        obtain ⟨m, hm, htype⟩ := returnType_of_read h hres
        refine iff_of_false (fun heq => hother ?_) ?_
        · have hmethod := congrArg Prod.fst (Except.ok.inj heq)
          dsimp only at hmethod
          rw [hm, Option.map_some] at hmethod
          rw [← htype, ← Option.some.inj hmethod]
        · rintro (hfalse | ⟨f, hf⟩)
          · cases hfalse
          · cases hf
    · intro hright hsays
      rw [hend hright, List.nil_append] at hcolon
      rw [saysReturn_eq] at hsays
      have hbehind := Signature.read?_returns_colon (trim_member line) hsays hsig
      have htype : TypeTable.full.javaName (sig.returns ++ ":") = sig.returns ++ ":" :=
        TypeTable.javaName_colon List.getLast?_concat
      rw [read_of_returns body t? isStatic rest h haccess (hcolon.trans hbehind), htype]

theorem read_colon_iff_int :
    let body := Body.ofProgram Vocabulary.standard
    read body none false ("* f() returns int" ++ ":") [] =
        .ok (some { name := "f", returnType := "int:", access := .pub }, 0) ∧
      read body none false ("* f()" ++ ":") [] = read body none false "* f()" [] := by
  intro body
  have hint : signature? "* f() returns int" = some ⟨"f", [], "int"⟩ := by decide +kernel
  have hvoid : signature? "* f()" = some ⟨"f", [], "void"⟩ := by decide +kernel
  constructor
  · exact (read_colon_iff body none false [] hint).2 (by decide +kernel) (by decide +kernel)
  · exact (read_colon_iff body none false [] hvoid).1.2 (.inl (by decide +kernel))

end Method

end JavaSketch
