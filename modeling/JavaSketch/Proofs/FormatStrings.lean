import JavaSketch.Proofs.StringLiterals

namespace JavaSketch

namespace Java

def percent : Nat := '%'.toNat

def isDecimal (u : Nat) : Bool := '0'.toNat ≤ u && u ≤ '9'.toNat

def isOneOf (cs : List Char) (u : Nat) : Bool := cs.any (·.toNat == u)

def isFlag (u : Nat) : Bool := isOneOf ['-', '#', '+', ' ', '0', ',', '(', '<'] u

/-- The letters of the conversions that are not about dates. -/
def conversions : List Char :=
  ['b', 'B', 'h', 'H', 's', 'S', 'c', 'C', 'd', 'o', 'x', 'X', 'e', 'E', 'f', 'g', 'G', 'a', 'A',
   '%', 'n']

def isConversion (u : Nat) : Bool := isOneOf conversions u

/-- The letters that follow `t` or `T` in the conversion of a date. -/
def isDateConversion (u : Nat) : Bool :=
  isOneOf ['H', 'I', 'k', 'l', 'M', 'S', 'L', 'N', 'p', 'z', 'Z', 's', 'Q', 'B', 'b', 'h', 'A', 'a',
    'C', 'Y', 'y', 'j', 'm', 'd', 'e', 'R', 'T', 'r', 'D', 'F', 'c'] u

/-- The length of the number of an argument with its dollar sign. -/
def indexLength (us : List Nat) : Nat :=
  let digits := (us.takeWhile isDecimal).length
  if digits ≠ 0 ∧ us[digits]? = some '$'.toNat then digits + 1 else 0

/-- The length of a precision with its point. -/
def precisionLength : List Nat → Nat
  | [] => 0
  | u :: us =>
    let digits := (us.takeWhile isDecimal).length
    if u = '.'.toNat ∧ digits ≠ 0 then digits + 1 else 0

def conversionLength? : List Nat → Option Nat
  | [] => none
  | u :: us =>
    if isConversion u then some 1
    else if isOneOf ['t', 'T'] u && us.head?.any isDateConversion then some 2
    else none

/-- The length of a specifier behind its percent sign: the number of an argument, flags, a width, a
precision and a conversion, where all but the last may be missing. -/
def specifierLength? (us : List Nat) : Option Nat :=
  let index := indexLength us
  let flags := ((us.drop index).takeWhile isFlag).length
  let width := ((us.drop (index + flags)).takeWhile isDecimal).length
  let front := index + flags + width + precisionLength (us.drop (index + flags + width))
  (conversionLength? (us.drop front)).map (front + ·)

/-- A part of a format string: a code unit that is printed as it is, or a specifier. -/
inductive Piece
  | plain (u : Nat)
  | specifier (us : List Nat)
  deriving DecidableEq

namespace Piece

def units : Piece → List Nat
  | plain u => [u]
  | specifier us => us

def isSpecifier : Piece → Bool
  | plain _ => false
  | specifier _ => true

end Piece

/-- The parts of a format string. The counter says how many code units are read already. -/
def piecesFrom : Nat → List Nat → Option (List Piece)
  | _, [] => some []
  | n + 1, _ :: us => piecesFrom n us
  | 0, u :: us =>
    if u = percent then
      (specifierLength? us).bind fun n =>
        (piecesFrom n us).map (.specifier (u :: us.take n) :: ·)
    else (piecesFrom 0 us).map (.plain u :: ·)

def pieces? (us : List Nat) : Option (List Piece) := piecesFrom 0 us

/-- The parts of the format string that a literal stands for. -/
def formatPieces? (literal : Text) : Option (List Piece) := (stringValue? literal).bind pieces?

variable {us vs rest : List Nat} {ps : List Piece} {u n : Nat} {c : Char} {t : Text}

theorem piecesFrom_drop (n : Nat) (us : List Nat) : piecesFrom n us = pieces? (us.drop n) :=
  Text.counter_eq_drop (fun n => by rw [piecesFrom, piecesFrom]) (fun _ _ _ => rfl) n us

/-- A specifier that begins with neither a digit nor a flag is a precision, if there is one, and a
conversion. -/
theorem specifierLength?_cons (hd : isDecimal u = false) (hf : isFlag u = false) (us : List Nat) :
    specifierLength? (u :: us) =
      (conversionLength? ((u :: us).drop (precisionLength (u :: us)))).map
        (precisionLength (u :: us) + ·) := by
  have hdigits : (u :: us).takeWhile isDecimal = [] :=
    List.takeWhile_cons_of_neg (Bool.eq_false_iff.1 hd)
  have hflags : (u :: us).takeWhile isFlag = [] :=
    List.takeWhile_cons_of_neg (Bool.eq_false_iff.1 hf)
  have hindex : indexLength (u :: us) = 0 := by
    rw [indexLength, hdigits]
    rfl
  simp only [specifierLength?, hindex, List.drop_zero, hflags, hdigits, List.length_nil,
    Nat.zero_add]

theorem specifierLength?_conversion (h : isConversion u = true) (us : List Nat) :
    specifierLength? (u :: us) = some 1 := by
  obtain ⟨c, hc, he⟩ := List.any_eq_true.1 h
  obtain rfl : c.toNat = u := beq_iff_eq.1 he
  have hall : conversions.all
      (fun d => !isDecimal d.toNat && !isFlag d.toNat && d != '.') = true := by decide
  have hletter := List.all_eq_true.1 hall c hc
  simp only [Bool.and_eq_true, Bool.not_eq_true', bne_iff_ne] at hletter
  have hlength : precisionLength (c.toNat :: us) = 0 :=
    if_neg fun hp => hletter.2 (Char.toNat_inj.1 hp.1)
  rw [specifierLength?_cons hletter.1.1 hletter.1.2, hlength, List.drop_zero, conversionLength?,
    if_pos h]
  rfl

theorem specifierLength?_precision (hne : vs ≠ []) (hv : vs.all isDecimal = true)
    (rest : List Nat) :
    specifierLength? ('.'.toNat :: (vs ++ 'f'.toNat :: rest)) = some (vs.length + 2) := by
  have hdigits : (vs ++ 'f'.toNat :: rest).takeWhile isDecimal = vs := by
    rw [List.takeWhile_append_of_pos (List.all_eq_true.1 hv),
      List.takeWhile_cons_of_neg (by decide), List.append_nil]
  have hlength : precisionLength ('.'.toNat :: (vs ++ 'f'.toNat :: rest)) = vs.length + 1 := by
    rw [precisionLength, hdigits]
    exact if_pos ⟨rfl, fun he => hne (List.length_eq_zero_iff.1 he)⟩
  rw [specifierLength?_cons (by decide) (by decide), hlength, List.drop_succ_cons, List.drop_left]
  rfl

theorem conversionLength?_cases (h : conversionLength? us = some n) :
    (∃ v vs, us = v :: vs ∧ n = 1) ∨
      ∃ v w vs, us = v :: w :: vs ∧ n = 2 ∧ isDateConversion w = true := by
  cases us with
  | nil => cases h
  | cons v vs =>
    rw [conversionLength?] at h
    split_ifs at h with hone htwo
    · cases h
      exact .inl ⟨v, vs, rfl, rfl⟩
    · cases h
      cases vs with
      | nil => cases (Bool.and_eq_true_iff.1 htwo).2
      | cons w vs => exact .inr ⟨v, w, vs, rfl, rfl, (Bool.and_eq_true_iff.1 htwo).2⟩

theorem precision_of_specifierLength? (h : specifierLength? ('.'.toNat :: us) = some n)
    (he : ('.'.toNat :: us).take n = '.'.toNat :: (vs ++ ['f'.toNat])) :
    vs ≠ [] ∧ vs.all isDecimal = true := by
  rw [specifierLength?_cons (by decide) (by decide)] at h
  by_cases hnone : us.takeWhile isDecimal = []
  · have hlength : precisionLength ('.'.toNat :: us) = 0 := by
      rw [precisionLength, hnone]
      exact if_neg fun he => he.2 rfl
    rw [hlength] at h
    cases h
  · have hlength : precisionLength ('.'.toNat :: us) = (us.takeWhile isDecimal).length + 1 :=
      if_pos ⟨rfl, fun he => hnone (List.length_eq_zero_iff.1 he)⟩
    rw [hlength, List.drop_succ_cons] at h
    obtain ⟨m, hm, rfl⟩ := Option.map_eq_some_iff.1 h
    rw [Nat.add_right_comm, List.take_succ_cons, List.take_add, take_takeWhile] at he
    have he := (List.cons.inj he).2
    rcases conversionLength?_cases hm with ⟨v, more, hdrop, rfl⟩ | ⟨v, w, more, hdrop, rfl, hw⟩
    · rw [hdrop] at he
      obtain ⟨rfl, _⟩ := List.append_inj' he rfl
      exact ⟨hnone, List.all_takeWhile⟩
    · rw [hdrop, List.take_succ_cons, List.take_succ_cons, List.append_cons] at he
      obtain ⟨_, hlast⟩ := List.append_inj' he rfl
      rw [(List.cons.inj hlast).1] at hw
      cases hw

theorem pieces?_step (h : pieces? (u :: us) = some ps) :
    (u ≠ percent ∧ ∃ more, pieces? us = some more ∧ ps = .plain u :: more) ∨
    (u = percent ∧ ∃ n more, specifierLength? us = some n ∧ pieces? (us.drop n) = some more ∧
      ps = .specifier (u :: us.take n) :: more) := by
  rw [pieces?, piecesFrom] at h
  split_ifs at h with hu
  · obtain ⟨n, hn, h⟩ := Option.bind_eq_some_iff.1 h
    obtain ⟨more, hmore, rfl⟩ := Option.map_eq_some_iff.1 h
    rw [piecesFrom_drop] at hmore
    exact .inr ⟨hu, n, more, hn, hmore, rfl⟩
  · obtain ⟨more, hmore, rfl⟩ := Option.map_eq_some_iff.1 h
    exact .inl ⟨hu, more, hmore, rfl⟩

/-- Percent signs stand at the start of specifiers only. -/
def Piece.WellFormed : Piece → Prop
  | plain u => u ≠ percent
  | specifier vs => ∃ us n, specifierLength? us = some n ∧ vs = percent :: us.take n

theorem pieces?_spec (h : pieces? us = some ps) :
    ps.flatMap Piece.units = us ∧ ∀ p ∈ ps, p.WellFormed := by
  induction hn : us.length using Nat.strong_induction_on generalizing us ps with
  | _ n ih =>
    cases us with
    | nil =>
      cases h
      exact ⟨rfl, List.forall_mem_nil _⟩
    | cons u us =>
      rcases pieces?_step h with ⟨hu, more, hmore, rfl⟩ | ⟨rfl, k, more, hk, hmore, rfl⟩
      · obtain ⟨htext, hwell⟩ := ih us.length (hn ▸ Nat.lt_succ_self _) hmore rfl
        rw [List.flatMap_cons, htext]
        exact ⟨rfl, List.forall_mem_cons.2 ⟨hu, hwell⟩⟩
      · have hlt : (us.drop k).length < n := by
          rw [← hn, List.length_drop, List.length_cons]
          omega
        obtain ⟨htext, hwell⟩ := ih _ hlt hmore rfl
        rw [List.flatMap_cons, htext, Piece.units, List.cons_append, List.take_append_drop]
        exact ⟨rfl, List.forall_mem_cons.2 ⟨⟨us, k, hk, rfl⟩, hwell⟩⟩

theorem pieces?_plain (h : ∀ v ∈ vs, v ≠ percent) (rest : List Nat) :
    pieces? (vs ++ rest) = (pieces? rest).map (vs.map .plain ++ ·) := by
  induction vs with
  | nil => exact Option.map_id'.symm
  | cons v vs ih =>
    obtain ⟨hv, hmore⟩ := List.forall_mem_cons.1 h
    have hstep : pieces? (v :: (vs ++ rest)) = (pieces? (vs ++ rest)).map (.plain v :: ·) := by
      rw [pieces?, piecesFrom, if_neg hv]
      rfl
    rw [List.cons_append, hstep, ih hmore, Option.map_map]
    rfl

theorem pieces?_specifier (h : specifierLength? (vs ++ rest) = some vs.length) :
    pieces? (percent :: (vs ++ rest)) =
      (pieces? rest).map (.specifier (percent :: vs) :: ·) := by
  rw [pieces?, piecesFrom, if_pos rfl, h, Option.bind_some, piecesFrom_drop, List.drop_left,
    List.take_left]

theorem units_ne_nil (c : Char) : units c ≠ [] := by
  rw [units]
  split
  · exact List.cons_ne_nil _ _
  · exact List.cons_ne_nil _ _

theorem utf16_ne_nil (h : t ≠ []) : utf16 t ≠ [] := by
  obtain ⟨c, t, rfl⟩ := List.exists_cons_of_ne_nil h
  rw [utf16_cons]
  exact List.append_ne_nil_of_left_ne_nil (units_ne_nil c) _

theorem isDecimal_toNat (c : Char) : isDecimal c.toNat = c.isDigit := by
  have hle {a b : Char} : decide (a.toNat ≤ b.toNat) = decide (a.val ≤ b.val) :=
    decide_eq_decide.2 UInt32.le_iff_toNat_le.symm
  rw [isDecimal, hle, hle]
  rfl

theorem all_isDecimal (t : Text) : (utf16 t).all isDecimal = t.all Char.isDigit := by
  have hlarge {u : Nat} (hu : 0xd800 ≤ u) : isDecimal u = false := by
    rw [isDecimal, Bool.and_eq_false_iff]
    exact .inr (decide_eq_false (Nat.not_le.2 (Nat.lt_of_lt_of_le (by decide) hu)))
  rw [utf16, List.all_flatMap]
  congr 1
  funext c
  rw [← isDecimal_toNat, units]
  split
  · rw [List.all_cons, List.all_nil, Bool.and_true]
  · rw [List.all_cons, hlarge (Nat.le_add_right _ _), hlarge (by omega)]
    rfl

end Java

namespace Statement

open Java Segment

variable {style : PrintStyle} {content t p : Text} {segs : List Segment} {c : Char}

/-- A character that is printed as it is, in a literal and in a format string. -/
def IsVerbatim (c : Char) : Prop := c ≠ '%' ∧ c ≠ '\\' ∧ c ≠ '\n' ∧ c ≠ '\r'

/-- A conversion whose precision, if it has one, is a number. -/
def IsPrecise (conversion : Text) : Prop :=
  ∀ p, conversion = "%." ++ p ++ "f" → p ≠ [] ∧ p.all Char.isDigit = true

/-- The parts that a segment of a content is meant to give to the format string. -/
def Segment.pieces (style : PrintStyle) : Segment → List Piece
  | letter c => (units c).map .plain
  | slot t => [.specifier (utf16 (style.slot t).1)]

theorem conversion_cases (format : Text) :
    conversion format = "%s" ∨ conversion format = "%d" ∨ conversion format = "%f" ∨
      ∃ p, conversion format = "%." ++ p ++ "f" := by
  rw [conversion]
  split
  · split
    · exact .inr (.inr (.inr ⟨_, rfl⟩))
    · exact .inr (.inr (.inl rfl))
  · split
    · exact .inr (.inl rfl)
    · exact .inl rfl

theorem slot_cases (style : PrintStyle) (t : Text) :
    (style.slot t).1 = "%s" ∨ (style.slot t).1 = "%d" ∨ (style.slot t).1 = "%f" ∨
      ∃ p, (style.slot t).1 = "%." ++ p ++ "f" := by
  rw [PrintStyle.slot]
  split
  · exact conversion_cases _
  · split
    · exact .inl rfl
    · split
      · exact .inl rfl
      · exact .inl rfl

theorem utf16_precision (p : Text) :
    utf16 ("%." ++ p ++ "f") = percent :: '.'.toNat :: (utf16 p ++ ['f'.toNat]) := by
  rw [utf16_append, utf16_append]
  rfl

theorem pieces?_slot (h : IsPrecise (style.slot t).1) (rest : List Nat) :
    pieces? (utf16 (style.slot t).1 ++ rest) =
      (pieces? rest).map (.specifier (utf16 (style.slot t).1) :: ·) := by
  have hletter {u : Nat} (hu : isConversion u = true) :
      pieces? ([percent, u] ++ rest) = (pieces? rest).map (.specifier [percent, u] :: ·) :=
    pieces?_specifier (specifierLength?_conversion hu rest)
  rcases slot_cases style t with he | he | he | ⟨p, he⟩
  · rw [he]
    exact hletter (u := 's'.toNat) rfl
  · rw [he]
    exact hletter (u := 'd'.toNat) rfl
  · rw [he]
    exact hletter (u := 'f'.toNat) rfl
  · obtain ⟨hne, hdigits⟩ := h p he
    have hlength := specifierLength?_precision (utf16_ne_nil hne)
      ((all_isDecimal p).trans hdigits) rest
    rw [he, utf16_precision]
    apply pieces?_specifier
    rw [List.cons_append, List.append_assoc, List.singleton_append, hlength, List.length_cons,
      List.length_append]
    rfl

theorem isPrecise_of_wellFormed (h : (Piece.specifier (utf16 t)).WellFormed) : IsPrecise t := by
  rintro p rfl
  rw [utf16_precision] at h
  obtain ⟨us, n, hn, he⟩ := h
  have he := (List.cons.inj he).2.symm
  cases us with
  | nil =>
    rw [List.take_nil] at he
    cases he
  | cons u us =>
    cases n with
    | zero => cases he
    | succ n =>
      obtain rfl : u = '.'.toNat := (List.cons.inj he).1
      obtain ⟨hne, hdigits⟩ := precision_of_specifierLength? hn he
      refine ⟨?_, (all_isDecimal p).symm.trans hdigits⟩
      rintro rfl
      exact hne rfl

theorem mem_slot (h : IsPrecise (style.slot t).1) (hc : c ∈ (style.slot t).1) :
    c ∈ ['%', '.', 's', 'd', 'f'] ∨ c.isDigit = true := by
  have hfixed {letters : Text} (hsub : letters.all ['%', '.', 's', 'd', 'f'].contains = true)
      (hm : c ∈ letters) : c ∈ ['%', '.', 's', 'd', 'f'] :=
    List.contains_iff_mem.1 (List.all_eq_true.1 hsub c hm)
  rcases slot_cases style t with he | he | he | ⟨p, he⟩
  · exact .inl (hfixed rfl (he ▸ hc))
  · exact .inl (hfixed rfl (he ▸ hc))
  · exact .inl (hfixed rfl (he ▸ hc))
  · rw [he, List.mem_append, List.mem_append] at hc
    rcases hc with (hc | hc) | hc
    · exact .inl (hfixed rfl hc)
    · exact .inr (List.all_eq_true.1 (h p he).2 c hc)
    · exact .inl (hfixed rfl hc)

theorem pieces_units (segs : List Segment) :
    (segs.flatMap (pieces style)).flatMap Piece.units =
      utf16 (segs.flatMap (filled fun t => (style.slot t).1)) := by
  rw [utf16, List.flatMap_assoc, List.flatMap_assoc]
  apply List.flatMap_congr
  intro seg _
  cases seg with
  | letter c =>
    rw [pieces, List.flatMap_map, filled, List.flatMap_singleton]
    exact List.flatMap_singleton' _
  | slot t =>
    rw [pieces, List.flatMap_singleton]
    rfl

theorem pieces?_filled (hletters : ∀ c, .letter c ∈ segs → c ≠ '%')
    (hslots : ∀ t, .slot t ∈ segs → IsPrecise (style.slot t).1) :
    pieces? (utf16 (segs.flatMap (filled fun t => (style.slot t).1))) =
      some (segs.flatMap (pieces style)) := by
  induction segs with
  | nil => rfl
  | cons seg segs ih =>
    have hmore := ih (fun c hc => hletters c (List.mem_cons_of_mem _ hc))
      fun t ht => hslots t (List.mem_cons_of_mem _ ht)
    rw [List.flatMap_cons, utf16_append]
    cases seg with
    | letter c =>
      have hplain : ∀ u ∈ units c, u ≠ percent := fun u =>
        ne_of_mem_units (by decide) (hletters c List.mem_cons_self)
      rw [filled, utf16_singleton, pieces?_plain hplain, hmore]
      rfl
    | slot t =>
      rw [filled, pieces?_slot (hslots t List.mem_cons_self), hmore]
      rfl

theorem countP_pieces (segs : List Segment) :
    (segs.flatMap (pieces style)).countP Piece.isSpecifier = (segs.filterMap slot?).length := by
  induction segs with
  | nil => rfl
  | cons seg segs ih =>
    rw [List.flatMap_cons, List.countP_append, ih]
    cases seg with
    | letter c =>
      have hplain : ((units c).map Piece.plain).countP Piece.isSpecifier = 0 := by
        rw [List.countP_map]
        exact List.countP_eq_zero.2 fun _ _ => Bool.false_ne_true
      rw [pieces, hplain, Nat.zero_add]
      rfl
    | slot t => exact Nat.add_comm _ _

theorem notMem_filled {d : Char} (hd : d ∉ ['%', '.', 's', 'd', 'f']) (hdigit : d.isDigit = false)
    (hletters : ∀ c, .letter c ∈ segs → c ≠ d)
    (hslots : ∀ t, .slot t ∈ segs → IsPrecise (style.slot t).1) :
    d ∉ segs.flatMap (filled fun t => (style.slot t).1) := by
  intro hm
  obtain ⟨seg, hseg, hm⟩ := List.mem_flatMap.1 hm
  cases seg with
  | letter c => exact hletters c hseg (List.mem_singleton.1 hm).symm
  | slot t =>
    rcases mem_slot (hslots t hseg) hm with hfixed | hnumber
    · exact hd hfixed
    · rw [hdigit] at hnumber
      cases hnumber

/-- The format string means what the content says exactly if each single character stands for itself
and each precision is a number. -/
theorem formatPieces?_iff (segs : List Segment) :
    formatPieces? (escapeQuotes (segs.flatMap (filled fun t => (style.slot t).1))) =
        some (segs.flatMap (pieces style)) ↔
      (∀ c, .letter c ∈ segs → IsVerbatim c) ∧
        ∀ t, .slot t ∈ segs → IsPrecise (style.slot t).1 := by
  constructor
  · intro h
    obtain ⟨value, hvalue, hpieces⟩ := Option.bind_eq_some_iff.1 h
    obtain ⟨htext, hwell⟩ := pieces?_spec hpieces
    rw [pieces_units] at htext
    rw [← htext] at hvalue
    obtain ⟨hb, hn, hr⟩ := (stringValue?_escapeQuotes _).1 hvalue
    constructor
    · intro c hc
      have hmem : c ∈ segs.flatMap (filled fun t => (style.slot t).1) :=
        List.mem_flatMap.2 ⟨_, hc, List.mem_singleton_self c⟩
      refine ⟨?_, ne_of_mem_of_not_mem hmem hb, ne_of_mem_of_not_mem hmem hn,
        ne_of_mem_of_not_mem hmem hr⟩
      rintro rfl
      exact hwell (.plain percent) (List.mem_flatMap.2 ⟨_, hc, List.mem_singleton_self _⟩) rfl
    · intro t ht
      exact isPrecise_of_wellFormed
        (hwell _ (List.mem_flatMap.2 ⟨_, ht, List.mem_singleton_self _⟩))
  · rintro ⟨hletters, hslots⟩
    have hvalue := (stringValue?_escapeQuotes _).2
      ⟨notMem_filled (by decide) rfl (fun c hc => (hletters c hc).2.1) hslots,
        notMem_filled (by decide) rfl (fun c hc => (hletters c hc).2.2.1) hslots,
        notMem_filled (by decide) rfl (fun c hc => (hletters c hc).2.2.2) hslots⟩
    rw [formatPieces?, hvalue, Option.bind_some]
    exact pieces?_filled (fun c hc => (hletters c hc).1) hslots

/-- A content with expressions is printed by a format string with one argument for each expression.
This format string consists of the text of the content and one specifier for each argument, in
their order, exactly if the text stands for itself and each precision is a number. -/
theorem interpolated_pieces (hs : style.escapes = true) (hscan : Scans content segs)
    (hslots : ∀ t ∈ segs.filterMap slot?, openBrace ∉ t) (hsome : segs.filterMap slot? ≠ []) :
    ∃ format arguments,
      interpolated style content = println ("String.format(" ++ ("\"" ++ format ++ "\"") ++ ", " ++
          Text.join ", " arguments ++ ")") ∧
        (segs.flatMap (pieces style)).countP Piece.isSpecifier = arguments.length ∧
        (formatPieces? format = some (segs.flatMap (pieces style)) ↔
          (∀ c, .letter c ∈ segs → IsVerbatim c) ∧
            ∀ t, .slot t ∈ segs → IsPrecise (style.slot t).1) := by
  refine ⟨escapeQuotes (segs.flatMap (filled fun t => (style.slot t).1)),
    (segs.filterMap slot?).map fun t => (style.slot t).2, ?_, ?_, formatPieces?_iff segs⟩
  · have hformat : style.formatOf content =
        escapeQuotes (segs.flatMap (filled fun t => (style.slot t).1)) := by
      rw [PrintStyle.formatOf, hscan.foldl_slots hslots, hs]
      rfl
    rw [interpolated_eq_printed, hformat, PrintStyle.arguments, hscan.slots_eq, printed,
      if_neg fun he => hsome (List.map_eq_nil_iff.1 he)]
  · rw [countP_pieces, List.length_map]

theorem interpolated_pieces_percent :
    let content : Text := "50% of \"\x7bx\x7d\", \x7bn:.2f\x7d left"
    let segs := segments content
    segs.filterMap slot? = ["x", "n:.2f"] ∧
      ∃ format arguments,
        interpolated Stage.current.print content = println ("String.format(" ++
            ("\"" ++ format ++ "\"") ++ ", " ++ Text.join ", " arguments ++ ")") ∧
          formatPieces? format ≠ some (segs.flatMap (pieces Stage.current.print)) := by
  intro content segs
  have hescapes : Stage.current.print.escapes = true := rfl
  have hslots : segs.filterMap slot? = ["x", "n:.2f"] := by decide +kernel
  have hopen : ∀ t ∈ segs.filterMap slot?, openBrace ∉ t := by
    rw [hslots]
    decide
  have hsome : segs.filterMap slot? ≠ [] := by
    rw [hslots]
    exact List.cons_ne_nil _ _
  have hpercent : .letter '%' ∈ segs := by decide +kernel
  obtain ⟨format, arguments, hprint, _, hpieces⟩ :=
    interpolated_pieces hescapes (scans_segments content) hopen hsome
  exact ⟨hslots, format, arguments, hprint, fun h => ((hpieces.1 h).1 '%' hpercent).1 rfl⟩

end Statement

end JavaSketch
