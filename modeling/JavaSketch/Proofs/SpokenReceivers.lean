import JavaSketch.Proofs.Creations
import JavaSketch.Proofs.SpokenOperations

namespace JavaSketch

namespace Pattern

variable {p : Pattern} {t w : Text}

theorem find?_anyCase_otherWord (hw : w.all isLone = true) (hblank : ' ' ∉ w)
    (ht : ∀ c ∈ t, isBlank c = false) (hne : t.map lowerChar ≠ w) (s : Text) :
    find? (anyCase w ++ .gap :: p) (t ++ ' ' :: s) = none := by
  induction w generalizing t with
  | nil =>
    have ht' : t ≠ [] := fun he => hne (congrArg (List.map lowerChar) he)
    obtain ⟨d, t, rfl⟩ := List.exists_cons_of_ne_nil ht'
    exact find?_gap (ht d List.mem_cons_self) _
  | cons c w ih =>
    obtain ⟨hc, hw⟩ := Bool.and_eq_true_iff.1 hw
    cases t with
    | nil =>
      rw [anyCase, List.map_cons, List.cons_append, List.nil_append, find?_letter, if_neg]
      rw [sameLetter_iff hc]
      exact List.ne_of_not_mem_cons hblank
    | cons d t =>
      obtain ⟨_, ht⟩ := List.forall_mem_cons.1 ht
      rw [anyCase, List.map_cons, List.cons_append, List.cons_append, find?_letter]
      split
      · rename_i hd
        rw [sameLetter_iff hc] at hd
        apply ih hw (List.not_mem_of_not_mem_cons hblank) ht
        intro he
        rw [List.map_cons, hd, he] at hne
        exact hne rfl
      · rfl

end Pattern

namespace Statement

open Operation

variable {w v x u r c place : Text}

theorem not_isLocal_last {words : List Text} (h : ∀ x ∈ words, IsOperand x) (hr : ' ' ∉ r)
    (hv : (Text.join " " (words ++ [r])).startsWith "var " = false) :
    isLocal (Text.join " " (words ++ [r])) = false := by
  apply not_isLocal_of_includes _ hv
  apply Text.includes_before_last (w := "as") (by decide) _ hr
  exact fun x hx => ⟨(h x hx).notMem rfl, (h x hx).ne_as⟩

theorem trim_pair (hw : IsUnbroken w) (hx : IsUnbroken x) :
    (w ++ ' ' :: x).trim = w ++ ' ' :: x := by
  apply Text.trim_of_ends (hw.head_append _)
  rw [List.append_cons, List.getLast?_append_of_ne_nil _ hx.ne_nil]
  exact Text.getLast_of_trim hx.trim_eq

theorem startsWith_words {words : List Text} (hw : IsKeyword w) (hv : ' ' ∉ v) (hne : w ≠ v)
    (hwords : words ≠ []) : (Text.join " " (w :: words)).startsWith (v ++ " ") = false := by
  rw [Text.join_blank _ hwords]
  exact Text.startsWith_word hw.notMem hv hne _

theorem not_isLocal_two (h : ∀ t ∈ [w, v, u], IsKeyword t ∧ t ≠ "with") (hvar : w ≠ "var")
    (hx : IsUnbroken x) (hr : ' ' ∉ r) (heq : '=' ∉ r) :
    isLocal (Text.join " " [w, v, x, u, r]) = false := by
  obtain ⟨⟨hw, hww⟩, ⟨hv, hvw⟩, ⟨hu, huw⟩, _⟩ := by simpa only [List.forall_mem_cons] using h
  have hstart : (Text.join " " [w, v, x, u, r]).startsWith "var " = false :=
    startsWith_words hw (v := "var") (by decide) hvar (List.cons_ne_nil _ _)
  by_cases has : x = "as"
  · subst has
    have hwith : (Text.join " " [w, v, "as", u, r]).includes " with " = false := by
      have hwords : ∀ t ∈ [w, v, "as", u], ' ' ∉ t ∧ t ≠ "with" := by
        simp only [List.forall_mem_cons, List.not_mem_nil, false_imp_iff, implies_true, and_true]
        exact ⟨⟨hw.notMem, hww⟩, ⟨hv.notMem, hvw⟩, by decide, hu.notMem, huw⟩
      exact Text.includes_before_last (w := "with") (by decide) hwords hr
    have hassign : isAssignment (Text.join " " [w, v, "as", u, r]) = false := by
      apply not_isAssignment
      simp only [Text.join_blank_cons, Text.join_one]
      simp [hw.isName.notMem (c := '=') rfl, hv.isName.notMem (c := '=') rfl,
        hu.isName.notMem (c := '=') rfl, heq]
    have hcut : Text.cut? " as " (Text.join " " [w, v, "as", u, r]) =
        some (w ++ ' ' :: v, u ++ ' ' :: r) := by
      simp only [Text.join_blank_cons, Text.join_one]
      exact cut?_as hw.isName hv.isName hv.ne_as (u ++ ' ' :: r)
    have hname : isAsciiName (w ++ ' ' :: v).trim = false := by
      rw [trim_spoken hw.isName hv.isName]
      exact not_isAsciiName (List.mem_append_right _ List.mem_cons_self) rfl
    simp only [isLocal, isValuedLocal, hasValue, isBareLocal, hstart, hwith, hassign, hcut, hname,
      Bool.false_and, Bool.and_false, Bool.or_false]
  · have hwords : ∀ t ∈ [w, v, x, u], IsOperand t := by
      simp only [List.forall_mem_cons, List.not_mem_nil, false_imp_iff, implies_true, and_true]
      exact ⟨hw.isOperand, hv.isOperand, ⟨hx, has⟩, hu.isOperand⟩
    exact not_isLocal_last hwords hr hstart

/-- The places at which an element can be added, with the methods for them. -/
def places : List (Text × Text) := [("first", "addFirst"), ("last", "addLast")]

theorem places_keyword : ∀ p ∈ places,
    IsKeyword p.1 ∧ p.1 ≠ "with" ∧ p.2.length = p.1.length + 3 := by
  decide

theorem isKeyword_to : IsKeyword "to" := by decide

theorem wording_place (hp : IsKeyword place) (hx : IsUnbroken x) (hne : x.lower ≠ "to")
    (hc : IsName c) :
    Part.Wording [.operand, .words "to", .receiver]
      (place ++ ' ' :: (x ++ ' ' :: ("to" ++ ' ' :: c))) [place ++ ' ' :: x, c] := by
  have hskip : Pattern.find? (Pattern.spaced ([Part.words "to", .receiver].map Part.reader))
      (x ++ ' ' :: ("to" ++ ' ' :: c)) = none := by
    rw [List.map_cons, (Part.Wording.name hc).spaced_parts, Part.reader_word isKeyword_to.notMem]
    apply Pattern.find?_anyCase_otherWord (by decide +kernel) isKeyword_to.notMem fun _ => hx.char
    intro he
    have hascii := isAscii_of_isAsciiName isKeyword_to.name
    exact hne (Text.lower_of_map_lowerChar hascii (by decide) he)
  exact .longer hp.isOperand.toIsUnbroken hskip (.operand hx (.keyword isKeyword_to (.name hc)))

theorem wording_place_to (hp : IsKeyword place) (hx : IsUnbroken x) (hto : x.lower = "to")
    (hc : IsName c) :
    Part.Wording [.operand, .words "to", .receiver]
      (place ++ ' ' :: (x ++ ' ' :: ("to" ++ ' ' :: c))) [place, "to"] := by
  have hreceiver : Part.Wording [.receiver] ("to" ++ ' ' :: c) ["to"] := by
    apply Part.Wording.receiver isKeyword_to.isName
    · intro d hd
      cases hd
      rfl
    · obtain ⟨d, c, rfl⟩ := List.exists_cons_of_ne_nil hc.ne_nil
      rw [List.getLast?_cons_cons]
      exact fun d hd => hc.isUnbroken.char (List.mem_of_mem_getLast? hd)
  exact .operand hp.isOperand.toIsUnbroken (.word isKeyword_to hx hto hreceiver)

theorem length_of_lower (hv : IsKeyword v) (h : x.lower = v) : x.length = v.length := by
  rw [← List.length_map lowerChar,
    Text.map_lowerChar_of_lower (isAscii_of_isAsciiName hv.name) h]

theorem length_added (c item : Text) :
    (c ++ ".add(" ++ item ++ ");").length = c.length + item.length + 7 := by
  simp
  omega

theorem length_call (c method argument : Text) :
    (c ++ "." ++ method ++ "(" ++ argument ++ ");").length =
      c.length + method.length + argument.length + 4 := by
  simp
  omega

theorem convert_add {t item : Text}
    (h : Part.Wording [.operand, .words "to", .receiver] t [item, c]) (hitem : item.trim = item)
    (hlocal : isLocal ("add" ++ ' ' :: t) = false) :
    convert .current ("add" ++ ' ' :: t) = .ok (c ++ ".add(" ++ item ++ ");") := by
  have hb : some (call c "add" item.trim) = some (call c "add" item) := by rw [hitem]
  exact convert_wording (by decide) h (isFirst_add _) hb hlocal

/-- The general phrase for additions takes a place for a part of what is added. So no element is
added at a place. -/
theorem convert_add_place {place method x c : Text} (hp : (place, method) ∈ places)
    (hx : IsUnbroken x) (hc : IsName c) :
    convert .current (Text.join " " ["add", place, x, "to", c]) =
        .ok (if x.lower = "to" then "to.add(" ++ place ++ ");"
          else c ++ ".add(" ++ (place ++ ' ' :: x) ++ ");") ∧
      convert .current (Text.join " " ["add", place, x, "to", c]) ≠
        .ok (c ++ "." ++ method ++ "(" ++ x ++ ");") := by
  obtain ⟨hplace, hwith, hlength⟩ : IsKeyword place ∧ place ≠ "with" ∧
    method.length = place.length + 3 := places_keyword _ hp
  have hlocal : isLocal (Text.join " " ["add", place, x, "to", c]) = false := by
    apply not_isLocal_two _ (by decide) hx (hc.notMem rfl) (hc.notMem rfl)
    simp only [List.forall_mem_cons, List.not_mem_nil, false_imp_iff, implies_true, and_true]
    exact ⟨by decide, ⟨hplace, hwith⟩, by decide⟩
  simp only [Text.join_blank_cons, Text.join_one] at hlocal ⊢
  by_cases hto : x.lower = "to"
  · have htwo : x.length = 2 := length_of_lower isKeyword_to hto
    have hpos := List.length_pos_iff.2 hc.ne_nil
    rw [if_pos hto, convert_add (wording_place_to hplace hx hto hc) hplace.isOperand.trim_eq hlocal]
    refine ⟨rfl, fun he => ?_⟩
    have hl := congrArg List.length (Except.ok.inj he)
    rw [length_added, length_call, hlength, htwo] at hl
    change 2 + place.length + 7 = _ at hl
    omega
  · have htrim := trim_pair hplace.isOperand.toIsUnbroken hx
    rw [if_neg hto, convert_add (wording_place hplace hx hto hc) htrim hlocal]
    refine ⟨rfl, fun he => ?_⟩
    have hl := congrArg List.length (Except.ok.inj he)
    rw [length_added, length_call, hlength, List.length_append, List.length_cons] at hl
    omega

theorem convert_add_place_to :
    IsUnbroken "TO" ∧ IsUnbroken "\"a=b\"" ∧ IsName "as" ∧
      convert .current "add first \"a=b\" to as" = .ok "as.add(first \"a=b\");" ∧
      convert .current "add first \"a=b\" to as" ≠ .ok "as.addFirst(\"a=b\");" ∧
      convert .current "add last TO to as" = .ok "to.add(last);" ∧
      convert .current "add last TO to as" ≠ .ok "as.addLast(TO);" := by
  have hto : IsUnbroken "TO" := ⟨by decide, by decide⟩
  have hx : IsUnbroken "\"a=b\"" := ⟨by decide, by decide⟩
  have hc : IsName "as" := ⟨by decide, by decide⟩
  have hfirst := convert_add_place List.mem_cons_self hx hc
  have hlast := convert_add_place (List.mem_cons_of_mem _ List.mem_cons_self) hto hc
  exact ⟨hto, hx, hc, hfirst.1, hfirst.2, hlast.1, hlast.2⟩

/-- Forms with an operand and a receiver: the words in front, the word between the two and the
method. -/
def passings : List (List Text × Text × Text) :=
  [(["add"], "to", "add"), (["append"], "to", "add"), (["push"], "to", "push"),
   (["enqueue"], "to", "offer"), (["contains"], "in", "contains"),
   (["index", "of"], "in", "indexOf"), (["get"], "from", "get")]

/-- The ends of a collection, with the methods for them. -/
def ends : List (Text × Text) := [("first", "getFirst"), ("last", "getLast")]

/-- The method for an end of a collection, if the operand of `get` names one. -/
def endMethod? (words : List Text) (x : Text) : Option Text :=
  if words = (["get"] : List Text) then ends.lookup x.lower else none

/-- The call that a form is meant for. -/
def spokenCall (words : List Text) (method x r : Text) : Text :=
  match endMethod? words x with
  | some ended => call r ended []
  | none => call r method x

variable {words : List Text} {link method ended name : Text} {names : List Text}

theorem passings_words : ∀ f ∈ passings, (IsKeyword f.2.1 ∧ f.2.1 ≠ "with") ∧ ' ' ∉ f.2.2 ∧
    (f.1 = (["index", "of"] : List Text) ∨ ∃ w ∈ firstWords, w ≠ "with" ∧ f.1 = [w]) := by
  decide +kernel

theorem words_of_passing (h : (words, link, method) ∈ passings) :
    (IsKeyword link ∧ link ≠ "with") ∧ ' ' ∉ method ∧
      (words = (["index", "of"] : List Text) ∨ ∃ w ∈ firstWords, w ≠ "with" ∧ words = [w]) :=
  passings_words _ h

section

variable (hn : ∀ n ∈ name :: names, IsName n)
include hn

theorem char_of_path {d : Char} (hd : d ∈ Text.join "." (name :: names)) :
    isWord d = true ∨ d = '.' := by
  obtain ⟨hname, hnames⟩ := List.forall_mem_cons.1 hn
  rw [Text.join_cons, List.mem_append, List.mem_flatMap] at hd
  rcases hd with hd | ⟨n, hmem, hd⟩
  · exact .inl (hname.char hd)
  · rcases List.mem_cons.1 hd with rfl | hd
    · exact .inr rfl
    · exact .inl ((hnames n hmem).char hd)

theorem notMem_path {d : Char} (hd : isWord d = false) (hdot : d ≠ '.') :
    d ∉ Text.join "." (name :: names) := by
  intro hm
  rcases char_of_path hn hm with h | h
  · rw [h] at hd
    cases hd
  · exact hdot h

theorem isUnbroken_path : IsUnbroken (Text.join "." (name :: names)) where
  ne_nil := by
    rw [Text.join_cons]
    exact List.append_ne_nil_of_left_ne_nil (hn name List.mem_cons_self).ne_nil _
  chars := by
    rw [List.all_eq_true]
    intro d hd
    rcases char_of_path hn hd with h | rfl
    · rw [not_blank_of_isWord h]
      rfl
    · rfl

theorem wording_path : Part.Wording [.receiver] (Text.join "." (name :: names)) [name] := by
  have hr := isUnbroken_path hn
  rw [Text.join_cons] at hr ⊢
  apply Part.Wording.receiver (hn name List.mem_cons_self)
  · intro d hd
    cases names with
    | nil => cases hd
    | cons next names =>
      cases hd
      rfl
  · intro d hd
    exact hr.char (List.mem_append_right _ (List.mem_of_mem_getLast? hd))

end

theorem endMethod?_eq_some (h : endMethod? words x = some ended) :
    words = (["get"] : List Text) ∧
      (x.lower = "first" ∧ ended = "getFirst" ∨ x.lower = "last" ∧ ended = "getLast") := by
  rw [endMethod?] at h
  split at h
  · rename_i hwords
    refine ⟨hwords, ?_⟩
    rw [ends, List.lookup_cons, List.lookup_cons] at h
    split at h
    · rename_i he
      exact .inl ⟨beq_iff_eq.1 he, (Option.some.inj h).symm⟩
    · split at h
      · rename_i he
        exact .inr ⟨beq_iff_eq.1 he, (Option.some.inj h).symm⟩
      · cases h
  · cases h

theorem endMethod?_as (words : List Text) : endMethod? words "as" = none := by
  rw [endMethod?]
  split
  · decide +kernel
  · rfl

theorem not_isLocal_passing (hform : (words, link, method) ∈ passings) (hx : IsUnbroken x)
    (has : x = "as" → words = (["index", "of"] : List Text)) (hr : ' ' ∉ r) (heq : '=' ∉ r) :
    isLocal (Text.join " " (words ++ [x, link, r])) = false := by
  obtain ⟨⟨hlink, hwith⟩, _, rfl | ⟨w, hw, _, rfl⟩⟩ := words_of_passing hform
  · apply not_isLocal_two _ (by decide) hx hr heq
    simp only [List.forall_mem_cons, List.not_mem_nil, false_imp_iff, implies_true, and_true]
    exact ⟨by decide, by decide, hlink, hwith⟩
  · obtain ⟨hkey, _, hvar⟩ := keyword_of_firstWords w hw
    have hne : x ≠ "as" := fun he => absurd (has he) (by simp)
    have hwords : ∀ t ∈ [w, x, link], IsOperand t := by
      simp only [List.forall_mem_cons, List.not_mem_nil, false_imp_iff, implies_true, and_true]
      exact ⟨hkey.isOperand, ⟨hx, hne⟩, hlink.isOperand⟩
    exact not_isLocal_last hwords hr
      (startsWith_words hkey (v := "var") (by decide) hvar (List.cons_ne_nil _ _))

theorem not_end_of_endMethod? (h : endMethod? (["get"] : List Text) x = none) :
    x.lower ≠ "first" ∧ x.lower ≠ "last" := by
  constructor
  · intro he
    rw [endMethod?, if_pos rfl, he] at h
    cases h
  · intro he
    rw [endMethod?, if_pos rfl, he] at h
    cases h

theorem isUnbroken_from (hx : IsUnbroken x) (hr : IsUnbroken r) :
    ∀ u ∈ [x, "from", r], IsUnbroken u := by
  have hfrom : IsUnbroken "from" := ⟨by decide, by decide⟩
  simpa only [List.forall_mem_cons, List.not_mem_nil, false_imp_iff, implies_true, and_true]
    using ⟨hx, hfrom, hr⟩

theorem convert_form (hform : (words, link, method) ∈ passings) (hx : IsUnbroken x)
    (has : x = "as" → words = (["index", "of"] : List Text)) (hend : endMethod? words x = none)
    (hr : IsUnbroken r) (heq : '=' ∉ r) (hkept : Part.Wording [.receiver] r [c]) :
    convert .current (Text.join " " (words ++ [x, link, r])) = .ok (call c method x ++ ";") := by
  rw [call_line]
  have hlocal := not_isLocal_passing hform hx has (hr.notMem rfl) heq
  simp only [passings, List.mem_cons, Prod.mk.injEq, List.not_mem_nil, or_false] at hform
  rcases hform with ⟨rfl, rfl, rfl⟩ | ⟨rfl, rfl, rfl⟩ | ⟨rfl, rfl, rfl⟩ | ⟨rfl, rfl, rfl⟩ |
    ⟨rfl, rfl, rfl⟩ | ⟨rfl, rfl, rfl⟩ | ⟨rfl, rfl, rfl⟩
  · exact convert_called "add" [] "to" "add" (by decide) (isFirst_add _) rfl hx hkept hlocal
  · exact convert_called "append" [] "to" "add" (by decide) (isFirst_passing (by decide) _) rfl
      hx hkept hlocal
  · exact convert_called "push" [] "to" "push" (by decide) (isFirst_passing (by decide) _) rfl
      hx hkept hlocal
  · exact convert_called "enqueue" [] "to" "offer" (by decide) (isFirst_passing (by decide) _) rfl
      hx hkept hlocal
  · exact convert_called "contains" [] "in" "contains" (by decide) (isFirst_passing (by decide) _)
      rfl hx hkept hlocal
  · exact convert_called "index" ["of"] "in" "indexOf" (by decide) (isFirst_indexOf _) rfl
      hx hkept hlocal
  · obtain ⟨hfirst, hlast⟩ := not_end_of_endMethod? hend
    exact convert_called "get" [] "from" "get" (by decide)
      (isFirst_get (isUnbroken_from hx hr) hfirst hlast) rfl hx hkept hlocal

/-- An end of a collection is asked of all that stands behind `from`. -/
theorem convert_end {op : Operation} (hv : IsKeyword v)
    (hshape : op.shape = Pattern.spaced
      ([.words "get", .words v, .words "from", .receiver].map Part.shape))
    (hread : ∀ s, op.expression? s = some (call (Text.trim (s.drop (v.length + 10))) ended []))
    (hfirst : op.IsFirst ("get" ++ ' ' :: Text.join " " ([x, "from", r].map Text.lower)))
    (hx : IsUnbroken x) (hcase : x.lower = v) (hr : IsUnbroken r)
    (hkept : Part.Wording [.receiver] r [c])
    (hlocal : isLocal (Text.join " " ["get", x, "from", r]) = false) :
    convert .current (Text.join " " ["get", x, "from", r]) =
      .ok (call r ended [] ++ ";") := by
  have hget : IsKeyword "get" := by decide
  have hsaid : Part.Wording [.words "get", .words v, .words "from", .receiver]
      (Text.join " " ["get", x, "from", r]) [c] := by
    simp only [Text.join_blank_cons, Text.join_one]
    exact .keyword hget (.word hv hx hcase (.keyword (by decide) hkept))
  have hcovers : op.covers (Text.join " " ["get", x, "from", r]).lower = true := by
    rw [covers, hshape]
    exact hsaid.covers
  have hlower : (Text.join " " ["get", x, "from", r]).lower =
      ("get" : Text) ++ ' ' :: Text.join " " ([x, "from", r].map Text.lower) := by
    rw [Text.join_blank_cons, Text.lower_append_blank, hget.lower_eq,
      Text.lower_join]
  have hdrop : (Text.join " " ["get", x, "from", r]).drop (v.length + 10) = r := by
    have hfront : Text.join " " ["get", x, "from", r] =
        ("get" ++ ' ' :: (x ++ " from ") : Text) ++ r := by
      simp only [Text.join_blank_cons, Text.join_one]
      simp
    rw [hfront]
    apply List.drop_left'
    simp [length_of_lower hv hcase]
  rw [call_line]
  apply convert_covered (Text.trim_of_ends hsaid.head hsaid.last) _ hlocal
  · rw [hlower] at hcovers ⊢
    exact hfirst.find? hcovers
  · rw [hread, hdrop, hr.trim_eq]
  · exact startsWith_words hget (v := "print") (by decide) (by decide) (List.cons_ne_nil _ _)

theorem not_includes_two (hu : ' ' ∉ u) (hr : ' ' ∉ r) {part : Text} (h : 2 ≤ part.count ' ') :
    (u ++ ' ' :: r).includes part = false := by
  rw [Bool.eq_false_iff, ne_eq, Text.includes_iff]
  intro hi
  have hle := hi.sublist.count_le ' '
  rw [List.count_append, List.count_cons_self, List.count_eq_zero.2 hu,
    List.count_eq_zero.2 hr] at hle
  omega

theorem linkWords_blanks : ∀ part ∈ linkWords, 2 ≤ part.count ' ' := by decide

theorem includes_of_cut? {s part : Text} {pieces : Text × Text}
    (h : Text.cut? part s = some pieces) : s.includes part = true := by
  rw [Text.includes, h]
  rfl

theorem convert_declaration {s type : Text} (htrim : s.trim = s)
    (hprint : s.startsWith "print " = false) (hvar : s.startsWith "var " = false)
    (hlocal : isLocal s = true) (hcut : Text.cut? " as " s = some (name, type))
    (hwith : s.includes " with " = false) (heq : '=' ∉ s) (hslash : '/' ∉ type.trim) :
    convert .current s = .ok (TypeTable.full.javaName type.trim ++ " " ++ name.trim ++ ";") := by
  have has := includes_of_cut? hcut
  have hequals : s.includes " = " = false := Text.not_includes_of_notMem (c := '=') (by decide) heq
  have hpart : partAndValue .all s = (s, none) := by
    rw [partAndValue, Text.cut?_eq_none hwith, Text.cut?_eq_none hequals]
  have hp : s.trim.startsWith "print " = false := by rw [htrim, hprint]
  rw [convert_unprinted hp, htrim, hlocal, if_pos rfl, localDeclaration, hvar,
    if_neg Bool.false_ne_true, if_pos has]
  dsimp only [Stage.current]
  rw [hpart]
  dsimp only
  rw [hcut]
  dsimp only
  rw [typeAndValue_plain hslash]
  rfl

section

variable (hw : w ∈ firstWords) (hu : IsKeyword u) (hr : IsUnbroken r)
include hw

theorem cut?_as_operand (u r : Text) :
    Text.cut? " as " (Text.join " " [w, "as", u, r]) = some (w, u ++ ' ' :: r) := by
  obtain ⟨hkey, _⟩ := keyword_of_firstWords w hw
  have h := cut?_spoken [] "as" (u ++ ' ' :: r) hkey.notMem (by decide) (List.forall_mem_nil _)
  rw [List.flatMap_nil, List.append_nil, List.nil_append] at h
  simp only [Text.join_blank_cons, Text.join_one]
  exact h

include hu hr

/-- The words that show a statement to be about a collection are looked for between blanks, and here
the only one of them has no blank in front. -/
theorem isLocal_as : isLocal (Text.join " " [w, "as", u, r]) = true := by
  obtain ⟨hkey, _⟩ := keyword_of_firstWords w hw
  have hcut := cut?_as_operand hw u r
  have hincl := includes_of_cut? hcut
  have htype : (u ++ ' ' :: r).includes " as " = false :=
    not_includes_two hu.notMem (hr.notMem rfl) (by decide)
  have hlinks : linkWords.any (u ++ ' ' :: r).trim.lower.includes = false := by
    rw [trim_pair hu.isOperand.toIsUnbroken hr, Text.lower_append_blank, hu.lower_eq,
      List.any_eq_false]
    intro part hpart
    rw [not_includes_two hu.notMem (hr.lower.notMem rfl) (linkWords_blanks part hpart)]
    exact Bool.false_ne_true
  have hbare : isBareLocal (Text.join " " [w, "as", u, r]) = true := by
    rw [isBareLocal, hcut]
    dsimp only
    rw [htype, hlinks, hkey.isName.trim_eq, hkey.name]
    rfl
  rw [isLocal, hbare, hincl, Bool.and_true, Bool.or_true]

/-- With the operand `as` a form of one word is taken for a declaration. -/
theorem convert_as (hwith : w ≠ "with" ∧ u ≠ "with") (heq : '=' ∉ r) (hslash : '/' ∉ r) :
    convert .current (Text.join " " [w, "as", u, r]) = .ok (u ++ ' ' :: r ++ " " ++ w ++ ";") := by
  obtain ⟨hkey, hprint, hvar⟩ := keyword_of_firstWords w hw
  have hpair := trim_pair hu.isOperand.toIsUnbroken hr
  have htype : TypeTable.full.javaName (u ++ ' ' :: r) = u ++ ' ' :: r := by
    apply javaName_of_mem (q := ' ') (by decide)
    rw [Text.lower_append_blank]
    exact List.mem_append_right _ List.mem_cons_self
  have htrim : (Text.join " " [w, "as", u, r]).trim = Text.join " " [w, "as", u, r] := by
    have has : IsUnbroken "as" := ⟨by decide, by decide⟩
    apply Text.trim_words
    simpa only [List.forall_mem_cons, List.not_mem_nil, false_imp_iff, implies_true, and_true]
      using ⟨hkey.isOperand.toIsUnbroken, has, hu.isOperand.toIsUnbroken, hr⟩
  have hnowith : (Text.join " " [w, "as", u, r]).includes " with " = false := by
    have hwords : ∀ t ∈ [w, "as", u], ' ' ∉ t ∧ t ≠ "with" := by
      simp only [List.forall_mem_cons, List.not_mem_nil, false_imp_iff, implies_true, and_true]
      exact ⟨⟨hkey.notMem, hwith.1⟩, by decide, hu.notMem, hwith.2⟩
    exact Text.includes_before_last (w := "with") (by decide) hwords (hr.notMem rfl)
  have hdeclared : convert .current (Text.join " " [w, "as", u, r]) =
      .ok (TypeTable.full.javaName (u ++ ' ' :: r).trim ++ " " ++ w.trim ++ ";") := by
    apply convert_declaration htrim _ _ (isLocal_as hw hu hr) (cut?_as_operand hw u r) hnowith
    · simp only [Text.join_blank_cons, Text.join_one]
      simp [hkey.isName.notMem (c := '=') rfl, hu.isName.notMem (c := '=') rfl, heq]
    · rw [hpair]
      simp [hu.isName.notMem (c := '/') rfl, hslash]
    · exact startsWith_words hkey (v := "print") (by decide) hprint (List.cons_ne_nil _ _)
    · exact startsWith_words hkey (v := "var") (by decide) hvar (List.cons_ne_nil _ _)
  rw [hdeclared, hpair, htype, hkey.isName.trim_eq]

end

theorem passings_get : ∀ f ∈ passings, f.1 = (["get"] : List Text) → f.2.1 = "from" := by decide

theorem convert_ended (hform : (words, link, method) ∈ passings) (hx : IsUnbroken x)
    (hend : endMethod? words x = some ended) (hr : IsUnbroken r) (heq : '=' ∉ r)
    (hkept : Part.Wording [.receiver] r [c]) :
    convert .current (Text.join " " (words ++ [x, link, r])) = .ok (call r ended [] ++ ";") := by
  obtain ⟨rfl, hcase⟩ := endMethod?_eq_some hend
  obtain rfl : link = "from" := passings_get _ hform rfl
  have has : x = "as" → (["get"] : List Text) = (["index", "of"] : List Text) := by
    rintro rfl
    rw [endMethod?_as] at hend
    cases hend
  have hlocal := not_isLocal_passing hform hx has (hr.notMem rfl) heq
  have hwords := isUnbroken_from hx hr
  rcases hcase with ⟨hfirst, rfl⟩ | ⟨hlast, rfl⟩
  · exact convert_end (by decide) rfl (fun _ => rfl) (isFirst_getFirst hwords) hx hfirst hr hkept
      hlocal
  · have hne : x.lower ≠ "first" := by
      rw [hlast]
      decide
    exact convert_end (by decide) rfl (fun _ => rfl) (isFirst_getLast hwords hne) hx hlast hr hkept
      hlocal

theorem declaration_ne_call (hm : ' ' ∉ method) (hr : ' ' ∉ r) (type : Text) :
    u ++ ' ' :: type ++ " " ++ w ++ ";" ≠ call r method "as" ++ ";" := by
  intro he
  have hblank : ' ' ∈ call r method "as" ++ ";" := by
    rw [← he]
    simp
  simp [call, hm, hr] at hblank

theorem call_path_eq_iff (x : Text) :
    call name method x = call (Text.join "." (name :: names)) method x ↔ names = [] := by
  simp only [call, List.append_left_inj, Text.join_cons, List.self_eq_append_right,
    List.flatMap_eq_nil_iff]
  constructor
  · intro h
    apply List.eq_nil_iff_forall_not_mem.2
    intro n hn
    cases h n hn
  · rintro rfl n hn
    cases hn

/-- Of a receiver that is a path only the first name is kept, and the operand `as` makes a
declaration of all forms but `index of`. So a form is the call that it is meant for only without
these, or if it asks for an end, where all that stands behind `from` is the receiver. -/
theorem convert_path_receiver {words names : List Text} {link method x name : Text}
    (hform : (words, link, method) ∈ passings) (hx : IsUnbroken x)
    (hn : ∀ n ∈ name :: names, IsName n) :
    let path := Text.join "." (name :: names)
    let java := convert .current (Text.join " " (words ++ [x, link, path]))
    java = .ok (
        if x = "as" ∧ words ≠ (["index", "of"] : List Text) then
          link ++ ' ' :: path ++ " " ++ Text.join " " words ++ ";"
        else
          spokenCall words method x (if (endMethod? words x).isSome then path else name) ++ ";") ∧
      (java = .ok (spokenCall words method x path ++ ";") ↔
        (endMethod? words x).isSome = true ∨
          names = [] ∧ (x = "as" → words = (["index", "of"] : List Text))) := by
  intro path java
  have hr := isUnbroken_path hn
  have hkept := wording_path hn
  have heq : '=' ∉ path := notMem_path hn rfl (by decide)
  have hslash : '/' ∉ path := notMem_path hn rfl (by decide)
  cases hend : endMethod? words x with
  | some ended =>
    have hjava : java = .ok (call path ended [] ++ ";") := convert_ended hform hx hend hr heq hkept
    have hne : x ≠ "as" := by
      rintro rfl
      rw [endMethod?_as] at hend
      cases hend
    rw [if_neg fun h => hne h.1, spokenCall, spokenCall, hend, hjava]
    exact ⟨rfl, iff_of_true rfl (.inl rfl)⟩
  | none =>
    have hcall (c : Text) : spokenCall words method x c = call c method x := by
      rw [spokenCall, hend]
    rw [hcall, hcall]
    by_cases has : x = "as" ∧ words ≠ (["index", "of"] : List Text)
    · obtain ⟨rfl, hwords⟩ := has
      obtain ⟨⟨hlink, hwith⟩, hmethod, h | ⟨w, hw, hww, rfl⟩⟩ := words_of_passing hform
      · exact absurd h hwords
      · have hjava : java = .ok (link ++ ' ' :: path ++ " " ++ w ++ ";") :=
          convert_as hw hlink hr ⟨hww, hwith⟩ heq hslash
        rw [if_pos ⟨rfl, hwords⟩, Text.join_one, hjava]
        refine ⟨rfl, iff_of_false ?_ ?_⟩
        · intro he
          exact declaration_ne_call hmethod (hr.notMem rfl) path (Except.ok.inj he)
        · rintro (h | ⟨_, h⟩)
          · cases h
          · exact hwords (h rfl)
    · have hindex : x = "as" → words = (["index", "of"] : List Text) := by
        intro he
        by_contra hwords
        exact has ⟨he, hwords⟩
      have hjava : java = .ok (call name method x ++ ";") :=
        convert_form hform hx hindex hend hr heq hkept
      have hiff : call name method x ++ ";" = call path method x ++ ";" ↔ names = [] :=
        (List.append_left_inj _).trans (call_path_eq_iff x)
      rw [if_neg has, hjava]
      refine ⟨rfl, ?_⟩
      rw [Except.ok.injEq, hiff]
      exact ⟨fun h => .inr ⟨h, hindex⟩, fun h => (h.resolve_left Bool.false_ne_true).1⟩

theorem convert_path_receiver_items :
    IsUnbroken "x" ∧ IsName "this" ∧ IsName "items" ∧
      convert .current "push x to this.items" = .ok "this.push(x);" ∧
      convert .current "push x to this.items" ≠ .ok "this.items.push(x);" ∧
      convert .current "contains as in this.items" = .ok "in this.items contains;" ∧
      convert .current "get FIRST from this.items" = .ok "this.items.getFirst();" := by
  have hx : IsUnbroken "x" := ⟨by decide, by decide⟩
  have has : IsUnbroken "as" := ⟨by decide, by decide⟩
  have hfirst : IsUnbroken "FIRST" := ⟨by decide, by decide⟩
  have hthis : IsName "this" := ⟨by decide, by decide⟩
  have hitems : IsName "items" := ⟨by decide, by decide⟩
  have hn : ∀ n ∈ (["this", "items"] : List Text), IsName n := by
    simpa only [List.forall_mem_cons, List.not_mem_nil, false_imp_iff, implies_true, and_true]
      using ⟨hthis, hitems⟩
  have hpush : ((["push"], "to", "push") : List Text × Text × Text) ∈ passings := by decide
  have hcontains : ((["contains"], "in", "contains") : List Text × Text × Text) ∈ passings := by
    decide
  have hget : ((["get"], "from", "get") : List Text × Text × Text) ∈ passings := by decide
  refine ⟨hx, hthis, hitems, (convert_path_receiver hpush hx hn).1, ?_,
    (convert_path_receiver hcontains has hn).1, (convert_path_receiver hget hfirst hn).1⟩
  intro he
  exact absurd ((convert_path_receiver hpush hx hn).2.1 he) (by decide)

end Statement

end JavaSketch
