import JavaSketch.Proofs.Interpolation

namespace JavaSketch

namespace Java

/-- The code units that stand for a character. -/
def units (c : Char) : List Nat :=
  if c.toNat < 0x10000 then [c.toNat]
  else [0xd800 + (c.toNat - 0x10000) / 0x400, 0xdc00 + (c.toNat - 0x10000) % 0x400]

def utf16 (t : Text) : List Nat := t.flatMap units

def quote : Nat := '"'.toNat

def backslash : Nat := '\\'.toNat

def isLineEnd (u : Nat) : Bool := u == '\n'.toNat || u == '\r'.toNat

def isHexDigit (c : Char) : Bool :=
  c.isDigit || ('a' ≤ c && c ≤ 'f') || ('A' ≤ c && c ≤ 'F')

def hexValue (c : Char) : Nat :=
  if c.isDigit then c.toNat - '0'.toNat
  else if 'a' ≤ c then c.toNat - 'a'.toNat + 10
  else c.toNat - 'A'.toNat + 10

/-- The value of four hexadecimal digits at the start of a text. -/
def hex4? (s : Text) : Option Nat :=
  if (s.take 4).length = 4 ∧ (s.take 4).all isHexDigit = true then
    some ((s.take 4).foldl (fun n c => 16 * n + hexValue c) 0)
  else none

/-- The code units of a source text. A backslash and at least one `u` begin a Unicode escape, unless
the backslash is the second one of a pair. The counter says how many characters are read already. -/
def inputFrom : Nat → Text → Option (List Nat)
  | _, [] => some []
  | n + 1, _ :: s => inputFrom n s
  | 0, c :: s =>
    if c = '\\' ∧ s.head? = some '\\' then (inputFrom 1 s).map ([backslash, backslash] ++ ·)
    else if c = '\\' ∧ s.head? = some 'u' then
      let marks := (s.takeWhile (· == 'u')).length
      (hex4? (s.drop marks)).bind fun unit => (inputFrom (marks + 4) s).map (unit :: ·)
    else (inputFrom 0 s).map (units c ++ ·)

def input? (s : Text) : Option (List Nat) := inputFrom 0 s

/-- What stands behind the backslash of an escape, and its value. -/
def namedEscapes : List (Nat × Nat) :=
  [('b'.toNat, 0x8), ('s'.toNat, 0x20), ('t'.toNat, 0x9), ('n'.toNat, 0xa), ('f'.toNat, 0xc),
   ('r'.toNat, 0xd), (quote, quote), ('\''.toNat, '\''.toNat), (backslash, backslash)]

def isOctalDigit (u : Nat) : Bool := '0'.toNat ≤ u && u ≤ '7'.toNat

/-- The value of the escape behind a backslash, and how many code units it takes. An octal escape
takes as many digits as it can, but no value above 255. -/
def escape? : List Nat → Option (Nat × Nat)
  | [] => none
  | u :: s =>
    if isOctalDigit u then
      let more := (s.takeWhile isOctalDigit).take (if u ≤ '3'.toNat then 2 else 1)
      some ((u :: more).foldl (fun n d => 8 * n + (d - '0'.toNat)) 0, more.length + 1)
    else (namedEscapes.lookup u).map fun value => (value, 1)

/-- The value of the code units between the quotes of a literal. The counter says how many of them
are read already. -/
def charsFrom : Nat → List Nat → Option (List Nat)
  | _, [] => some []
  | n + 1, _ :: s => charsFrom n s
  | 0, u :: s =>
    if u = quote ∨ isLineEnd u = true then none
    else if u = backslash then
      (escape? s).bind fun res => (charsFrom res.2 s).map (res.1 :: ·)
    else (charsFrom 0 s).map (u :: ·)

def chars? (us : List Nat) : Option (List Nat) := charsFrom 0 us

/-- The value of a string literal, given by the text between its quotes. -/
def stringValue? (literal : Text) : Option (List Nat) := (input? literal).bind chars?

variable {s t literal : Text} {us value : List Nat} {c : Char} {u n : Nat}

theorem utf16_cons (c : Char) (s : Text) : utf16 (c :: s) = units c ++ utf16 s := List.flatMap_cons

theorem utf16_singleton (c : Char) : utf16 [c] = units c := List.flatMap_singleton _ _

theorem utf16_append (s t : Text) : utf16 (s ++ t) = utf16 s ++ utf16 t := List.flatMap_append

theorem inputFrom_drop (n : Nat) (s : Text) : inputFrom n s = input? (s.drop n) :=
  Text.counter_eq_drop (fun n => by rw [inputFrom, inputFrom]) (fun _ _ _ => rfl) n s

theorem charsFrom_drop (n : Nat) (us : List Nat) : charsFrom n us = chars? (us.drop n) :=
  Text.counter_eq_drop (fun n => by rw [charsFrom, charsFrom]) (fun _ _ _ => rfl) n us

theorem input?_cons (hpair : ¬ (c = '\\' ∧ s.head? = some '\\'))
    (hescape : ¬ (c = '\\' ∧ s.head? = some 'u')) :
    input? (c :: s) = (input? s).map (units c ++ ·) := by
  rw [input?, inputFrom, if_neg hpair, if_neg hescape]
  rfl

theorem chars?_cons (hq : u ≠ quote) (hl : isLineEnd u = false) (hb : u ≠ backslash)
    (s : List Nat) :
    chars? (u :: s) = (chars? s).map (u :: ·) := by
  have hplain : ¬ (u = quote ∨ isLineEnd u = true) := by
    rw [hl]
    exact fun h => h.elim hq Bool.false_ne_true
  rw [chars?, charsFrom, if_neg hplain, if_neg hb]
  rfl

theorem mem_units (h : u ∈ units c) : u = c.toNat ∨ 0xd800 ≤ u := by
  rw [units] at h
  split at h
  · exact .inl (List.mem_singleton.1 h)
  · right
    rcases List.mem_pair.1 h with hu | hu
    · omega
    · omega

theorem isLineEnd_toNat : isLineEnd c.toNat = true ↔ c = '\n' ∨ c = '\r' := by
  constructor
  · intro h
    rw [← Char.ofNat_toNat c]
    rcases Bool.or_eq_true_iff.1 h with h | h
    · rw [beq_iff_eq.1 h]
      exact .inl rfl
    · rw [beq_iff_eq.1 h]
      exact .inr rfl
  · rintro (rfl | rfl)
    · rfl
    · rfl

theorem not_isLineEnd_of {p : Nat → Bool} (hn : p '\n'.toNat = false) (hr : p '\r'.toNat = false)
    (h : p u = true) : isLineEnd u = false := by
  rw [Bool.eq_false_iff]
  intro hend
  rcases Bool.or_eq_true_iff.1 hend with he | he
  · rw [beq_iff_eq.1 he, hn] at h
    cases h
  · rw [beq_iff_eq.1 he, hr] at h
    cases h

theorem not_isLineEnd_of_char {p : Char → Bool} (hn : p '\n' = false) (hr : p '\r' = false)
    (h : p c = true) : isLineEnd c.toNat = false :=
  not_isLineEnd_of (p := fun u => p (Char.ofNat u)) hn hr (by rw [Char.ofNat_toNat, h])

theorem not_isLineEnd_of_hex4? (h : hex4? (s.drop (s.takeWhile (· == 'u')).length) = some n) :
    ∀ d ∈ s.take ((s.takeWhile (· == 'u')).length + 4), isLineEnd d.toNat = false := by
  rw [hex4?] at h
  split at h
  · rename_i hdigits
    rw [List.take_add, take_takeWhile, List.forall_mem_append]
    constructor
    · intro d hd
      exact not_isLineEnd_of_char rfl rfl (List.all_eq_true.1 List.all_takeWhile d hd)
    · intro d hd
      exact not_isLineEnd_of_char rfl rfl (List.all_eq_true.1 hdigits.2 d hd)
  · cases h

/-- An escape takes at least one code unit behind its backslash, and no line end. -/
theorem escape?_spec {res : Nat × Nat} (h : escape? us = some res) :
    us.take res.2 ≠ [] ∧ ∀ v ∈ us.take res.2, isLineEnd v = false := by
  cases us with
  | nil => cases h
  | cons u us =>
    rw [escape?] at h
    split at h
    · rename_i hu
      cases h
      have hmore := (List.take_prefix (if u ≤ '3'.toNat then 2 else 1) _).trans
        (List.takeWhile_prefix isOctalDigit (l := us))
      rw [List.take_succ_cons, ← List.prefix_iff_eq_take.1 hmore]
      refine ⟨List.cons_ne_nil _ _, List.forall_mem_cons.2 ⟨not_isLineEnd_of rfl rfl hu, ?_⟩⟩
      intro v hv
      exact not_isLineEnd_of rfl rfl
        (List.all_eq_true.1 List.all_takeWhile v (List.mem_of_mem_take hv))
    · obtain ⟨unit, hunit, rfl⟩ := Option.map_eq_some_iff.1 h
      refine ⟨List.cons_ne_nil _ _, List.forall_mem_singleton.2 ?_⟩
      exact not_isLineEnd_of (p := fun v => (namedEscapes.lookup v).isSome) rfl rfl
        (Option.isSome_iff_exists.2 ⟨unit, hunit⟩)

/-- Quotes and backslashes count half. -/
def weight : List Nat → Nat
  | [] => 0
  | u :: us => (if u = quote ∨ u = backslash then 1 else 2) + weight us

theorem weight_append (us vs : List Nat) : weight (us ++ vs) = weight us + weight vs := by
  induction us with
  | nil => exact (Nat.zero_add _).symm
  | cons u us ih => rw [List.cons_append, weight, weight, ih, Nat.add_assoc]

theorem length_le_weight (us : List Nat) : us.length ≤ weight us := by
  induction us with
  | nil => exact Nat.le_refl 0
  | cons u us ih =>
    rw [List.length_cons, weight]
    split
    · omega
    · omega

theorem weight_eq (h : ∀ u ∈ us, u ≠ quote ∧ u ≠ backslash) : weight us = 2 * us.length := by
  induction us with
  | nil => rfl
  | cons u us ih =>
    obtain ⟨hu, hus⟩ := List.forall_mem_cons.1 h
    rw [weight, if_neg (not_or.2 hu), ih hus, List.length_cons]
    omega

theorem weight_singleton_le (u : Nat) : weight [u] ≤ 2 := by
  rw [weight]
  split
  · decide
  · decide

theorem two_le_weight (digits : Text) : 2 ≤ weight (utf16 ('\\' :: 'u' :: digits)) := by
  have he : weight (utf16 ('\\' :: 'u' :: digits)) = 1 + (2 + weight (utf16 digits)) := rfl
  omega

theorem mem_utf16 (hc : c ∈ s) (hend : isLineEnd c.toNat = true) : c.toNat ∈ utf16 s := by
  refine List.mem_flatMap.2 ⟨c, hc, ?_⟩
  rcases isLineEnd_toNat.1 hend with rfl | rfl
  · decide
  · decide

/-- One step in reading the source adds no weight and keeps line ends. -/
theorem input?_step (h : input? (c :: s) = some us) :
    ∃ taken rest given more, c :: s = taken ++ rest ∧ taken ≠ [] ∧ input? rest = some more ∧
      us = given ++ more ∧ weight given ≤ weight (utf16 taken) ∧
        ∀ d ∈ taken, isLineEnd d.toNat = true → d.toNat ∈ given := by
  rw [input?, inputFrom] at h
  split_ifs at h with hpair hescape
  · obtain ⟨rfl, hhead⟩ := hpair
    obtain ⟨rest, rfl⟩ := List.head?_eq_some_iff.1 hhead
    obtain ⟨more, hmore, rfl⟩ := Option.map_eq_some_iff.1 h
    exact ⟨['\\', '\\'], rest, utf16 ['\\', '\\'], more, rfl, List.cons_ne_nil _ _, hmore, rfl,
      Nat.le_refl _, fun _ => mem_utf16⟩
  · obtain ⟨rfl, hhead⟩ := hescape
    obtain ⟨rest, rfl⟩ := List.head?_eq_some_iff.1 hhead
    obtain ⟨unit, hunit, h⟩ := Option.bind_eq_some_iff.1 h
    obtain ⟨more, hmore, rfl⟩ := Option.map_eq_some_iff.1 h
    rw [inputFrom_drop] at hmore
    refine ⟨'\\' :: List.take _ ('u' :: rest), _, [unit], more,
      congrArg _ (List.take_append_drop _ _).symm, List.cons_ne_nil _ _, hmore, rfl, ?_, ?_⟩
    · exact (weight_singleton_le unit).trans (two_le_weight _)
    · intro d hd hend
      rcases List.mem_cons.1 hd with rfl | hd
      · cases hend
      · rw [not_isLineEnd_of_hex4? hunit d hd] at hend
        cases hend
  · obtain ⟨more, hmore, rfl⟩ := Option.map_eq_some_iff.1 h
    refine ⟨[c], s, utf16 [c], more, rfl, List.cons_ne_nil _ _, hmore, ?_, Nat.le_refl _,
      fun _ => mem_utf16⟩
    rw [utf16_singleton]

/-- One step in reading the value: a code unit of the value takes two halves at least, and none of
them is in a line end. -/
theorem chars?_step (h : chars? (u :: us) = some value) :
    ∃ unit taken rest more, u :: us = taken ++ rest ∧ chars? rest = some more ∧
      value = unit :: more ∧ 2 ≤ weight taken ∧ ∀ v ∈ taken, isLineEnd v = false := by
  rw [chars?, charsFrom] at h
  split_ifs at h with hspecial hescape
  · obtain ⟨res, hres, h⟩ := Option.bind_eq_some_iff.1 h
    obtain ⟨more, hmore, rfl⟩ := Option.map_eq_some_iff.1 h
    rw [charsFrom_drop] at hmore
    obtain ⟨hne, hends⟩ := escape?_spec hres
    refine ⟨res.1, u :: us.take res.2, us.drop res.2, more,
      congrArg (u :: ·) (List.take_append_drop _ _).symm, hmore, rfl, ?_, ?_⟩
    · exact Nat.le_trans (Nat.succ_le_succ (List.length_pos_iff.2 hne))
        (length_le_weight (u :: us.take res.2))
    · rw [not_or, Bool.not_eq_true] at hspecial
      exact List.forall_mem_cons.2 ⟨hspecial.2, hends⟩
  · obtain ⟨more, hmore, rfl⟩ := Option.map_eq_some_iff.1 h
    rw [not_or, Bool.not_eq_true] at hspecial
    refine ⟨u, [u], us, more, rfl, hmore, rfl, ?_, List.forall_mem_singleton.2 hspecial.2⟩
    rw [weight, if_neg (not_or.2 ⟨hspecial.1, hescape⟩)]
    exact Nat.le_refl 2

theorem input?_keeps (h : input? s = some us) :
    weight us ≤ weight (utf16 s) ∧ ∀ d ∈ s, isLineEnd d.toNat = true → d.toNat ∈ us := by
  induction hn : s.length using Nat.strong_induction_on generalizing s us with
  | _ n ih =>
    cases s with
    | nil =>
      cases h
      exact ⟨Nat.le_refl 0, List.forall_mem_nil _⟩
    | cons c s =>
      obtain ⟨taken, rest, given, more, he, hne, hmore, rfl, hweight, hends⟩ := input?_step h
      have hlt : rest.length < n := by
        rw [← hn, he, List.length_append]
        exact Nat.lt_add_of_pos_left (List.length_pos_iff.2 hne)
      obtain ⟨hrest, hrestEnds⟩ := ih _ hlt hmore rfl
      rw [he, utf16, List.flatMap_append, weight_append, weight_append, List.forall_mem_append]
      refine ⟨Nat.add_le_add hweight hrest, ?_, ?_⟩
      · exact fun d hd hend => List.mem_append_left _ (hends d hd hend)
      · exact fun d hd hend => List.mem_append_right _ (hrestEnds d hd hend)

theorem chars?_keeps (h : chars? us = some value) :
    2 * value.length ≤ weight us ∧ ∀ v ∈ us, isLineEnd v = false := by
  induction hn : us.length using Nat.strong_induction_on generalizing us value with
  | _ n ih =>
    cases us with
    | nil =>
      cases h
      exact ⟨Nat.le_refl 0, List.forall_mem_nil _⟩
    | cons u us =>
      obtain ⟨unit, taken, rest, more, he, hmore, rfl, hweight, hends⟩ := chars?_step h
      have hne : taken ≠ [] := by
        rintro rfl
        exact absurd hweight (by decide)
      have hlt : rest.length < n := by
        rw [← hn, he, List.length_append]
        exact Nat.lt_add_of_pos_left (List.length_pos_iff.2 hne)
      obtain ⟨hrest, hrestEnds⟩ := ih _ hlt hmore rfl
      rw [he, weight_append, List.length_cons, List.forall_mem_append]
      exact ⟨by omega, hends, hrestEnds⟩

theorem ne_of_mem_units {d : Char} (hd : d.toNat < 0xd800) (hne : c ≠ d) (hu : u ∈ units c) :
    u ≠ d.toNat := by
  rintro rfl
  rcases mem_units hu with he | hle
  · exact hne (Char.toNat_inj.1 he.symm)
  · exact absurd hd (Nat.not_lt.2 hle)

theorem chars?_append {rest : List Nat}
    (h : ∀ v ∈ us, v ≠ quote ∧ isLineEnd v = false ∧ v ≠ backslash) :
    chars? (us ++ rest) = (chars? rest).map (us ++ ·) := by
  induction us with
  | nil => exact Option.map_id'.symm
  | cons u us ih =>
    obtain ⟨⟨hq, hl, hb⟩, hmore⟩ := List.forall_mem_cons.1 h
    rw [List.cons_append, chars?_cons hq hl hb, ih hmore, Option.map_map]
    rfl

theorem chars?_quote (us : List Nat) :
    chars? (backslash :: quote :: us) = (chars? us).map (quote :: ·) := rfl

end Java

namespace Statement

open Java

variable {c : Char} {t content : Text} {style : PrintStyle}

/-- What is written for a character of a printed text. -/
def escaped (c : Char) : Text := if c = '"' then ['\\', '"'] else [c]

theorem escaped_of_ne (h : c ≠ '"') : escaped c = [c] := if_neg h

theorem escapeQuotes_cons (c : Char) (t : Text) :
    escapeQuotes (c :: t) = escaped c ++ escapeQuotes t := by
  by_cases hc : c = '"'
  · rw [hc]
    have hne : ("\"" : Text) ≠ [] := List.cons_ne_nil _ _
    exact Text.replace_occurrence hne _ t
  · rw [escaped_of_ne hc]
    apply Text.replace_cons
    rintro ⟨rest, he⟩
    exact hc (List.cons.inj he).1.symm

theorem escapeQuotes_eq (t : Text) : escapeQuotes t = t.flatMap escaped := by
  induction t with
  | nil => rfl
  | cons c t ih => rw [escapeQuotes_cons, ih, List.flatMap_cons]

theorem subset_escapeQuotes (t : Text) : t ⊆ escapeQuotes t := by
  intro c hc
  rw [escapeQuotes_eq]
  refine List.mem_flatMap.2 ⟨c, hc, ?_⟩
  rw [escaped]
  split
  · rename_i he
    rw [he]
    decide
  · exact List.mem_singleton_self c

theorem weight_escaped (c : Char) :
    weight (utf16 (escaped c)) + (if c == '\\' then 1 else 0) = 2 * (units c).length := by
  by_cases hq : c = '"'
  · rw [hq]
    rfl
  · by_cases hb : c = '\\'
    · rw [hb]
      rfl
    · have hplain : ∀ u ∈ units c, u ≠ quote ∧ u ≠ backslash := fun u hu =>
        ⟨ne_of_mem_units (d := '"') (by decide) hq hu,
          ne_of_mem_units (d := '\\') (by decide) hb hu⟩
      rw [escaped_of_ne hq, utf16_singleton, weight_eq hplain, beq_false_of_ne hb]
      rfl

theorem weight_escapeQuotes (t : Text) :
    weight (utf16 (escapeQuotes t)) + t.count '\\' = 2 * (utf16 t).length := by
  induction t with
  | nil => rfl
  | cons c t ih =>
    have hc := weight_escaped c
    rw [escapeQuotes_cons, utf16_append, weight_append, utf16_cons, List.length_append,
      List.count_cons]
    omega

theorem input?_escapeQuotes (h : '\\' ∉ t) :
    input? (escapeQuotes t) = some (utf16 (escapeQuotes t)) := by
  induction t with
  | nil => rfl
  | cons c t ih =>
    have hc : c ≠ '\\' := (List.ne_of_not_mem_cons h).symm
    have hmore := ih (List.not_mem_of_not_mem_cons h)
    rw [escapeQuotes_cons]
    by_cases hq : c = '"'
    · have hother {d : Char} (hd : '"' ≠ d) :
          ¬ ('\\' = '\\' ∧ ('"' :: escapeQuotes t).head? = some d) :=
        fun he => hd (Option.some.inj he.2)
      have hquote : ∀ d, ¬ ('"' = '\\' ∧ (escapeQuotes t).head? = some d) :=
        fun d he => absurd he.1 (by decide)
      rw [hq]
      exact (input?_cons (hother (by decide)) (hother (by decide))).trans (congrArg _
        ((input?_cons (hquote _) (hquote _)).trans (congrArg _ hmore)))
    · rw [escaped_of_ne hq, List.singleton_append, utf16_cons,
        input?_cons (fun he => hc he.1) (fun he => hc he.1), hmore]
      rfl

theorem chars?_escapeQuotes (hb : '\\' ∉ t) (hn : '\n' ∉ t) (hr : '\r' ∉ t) :
    chars? (utf16 (escapeQuotes t)) = some (utf16 t) := by
  induction t with
  | nil => rfl
  | cons c t ih =>
    have hmore := ih (List.not_mem_of_not_mem_cons hb) (List.not_mem_of_not_mem_cons hn)
      (List.not_mem_of_not_mem_cons hr)
    rw [escapeQuotes_cons, utf16_append, utf16_cons]
    by_cases hq : c = '"'
    · rw [hq]
      exact (chars?_quote _).trans (congrArg _ hmore)
    · have hplain : ∀ u ∈ units c, u ≠ quote ∧ isLineEnd u = false ∧ u ≠ backslash := by
        intro u hu
        have hother {d : Char} (hd : d ∉ c :: t) (hlt : d.toNat < 0xd800) : u ≠ d.toNat :=
          ne_of_mem_units hlt (List.ne_of_not_mem_cons hd).symm hu
        refine ⟨ne_of_mem_units (d := '"') (by decide) hq hu, ?_, hother hb (by decide)⟩
        rw [isLineEnd, beq_false_of_ne (hother hn (by decide)),
          beq_false_of_ne (hother hr (by decide))]
        rfl
      rw [escaped_of_ne hq, utf16_singleton, chars?_append hplain, hmore]
      rfl

/-- Escaping quotes is undone by reading a literal exactly if there is no backslash and no line
end. -/
theorem stringValue?_escapeQuotes (t : Text) :
    stringValue? (escapeQuotes t) = some (utf16 t) ↔ '\\' ∉ t ∧ '\n' ∉ t ∧ '\r' ∉ t := by
  constructor
  · intro h
    obtain ⟨us, hus, hvalue⟩ := Option.bind_eq_some_iff.1 h
    obtain ⟨hweight, hends⟩ := input?_keeps hus
    obtain ⟨hlength, hnone⟩ := chars?_keeps hvalue
    have htotal := weight_escapeQuotes t
    have hend {d : Char} (hd : isLineEnd d.toNat = true) : d ∉ t := by
      intro hm
      rw [hnone _ (hends d (subset_escapeQuotes t hm) hd)] at hd
      cases hd
    exact ⟨List.count_eq_zero.1 (by omega), hend rfl, hend rfl⟩
  · rintro ⟨hb, hn, hr⟩
    rw [stringValue?, input?_escapeQuotes hb, Option.bind_some, chars?_escapeQuotes hb hn hr]

theorem slots_of_braceFree (h : BraceFree content) : slots content = [] := by
  have hscan := scans_segments content
  rw [hscan.slots_eq, List.filterMap_eq_nil_iff]
  intro seg hseg
  cases seg with
  | letter c => rfl
  | slot t =>
    have hopen : openBrace ∈ content := by
      rw [← hscan.text_eq]
      exact List.mem_flatMap.2 ⟨_, hseg, List.mem_cons_self⟩
    exact absurd rfl (h _ hopen).1

/-- A content without braces is printed as a literal. Reading this literal gives the content back
exactly if there is no backslash and no line end in it. -/
theorem plainPrint_reads (hs : style.escapes = true) (htrim : content.trim = content)
    (hfree : BraceFree content) (hq : content.isQuoted = false) :
    ∃ literal, plainPrint style ("print " ++ content) = println ("\"" ++ literal ++ "\"") ∧
      (stringValue? literal = some (utf16 content) ↔
        '\\' ∉ content ∧ '\n' ∉ content ∧ '\r' ∉ content) := by
  refine ⟨escapeQuotes content, ?_, stringValue?_escapeQuotes content⟩
  have hformat : style.formatOf content = escapeQuotes content := by
    rw [PrintStyle.formatOf, slots_of_braceFree hfree, hs]
    rfl
  have harguments : style.arguments content = [] := by
    rw [PrintStyle.arguments, slots_of_braceFree hfree, List.map_nil]
  have hdrop : (("print " : Text) ++ content).drop 6 = content := rfl
  rw [plainPrint, hdrop, htrim, contentPrint, hq, if_neg Bool.false_ne_true,
    interpolated_eq_printed, hformat, harguments]
  rfl

theorem plainPrint_reads_tab :
    let content : Text := "say \"a\\tb\" twice"
    content.trim = content ∧ BraceFree content ∧ content.isQuoted = false ∧
      ∃ literal, plainPrint Stage.current.print ("print " ++ content) =
          println ("\"" ++ literal ++ "\"") ∧ stringValue? literal ≠ some (utf16 content) := by
  intro content
  have hescapes : Stage.current.print.escapes = true := rfl
  have htrim : content.trim = content := by decide +kernel
  have hfree : BraceFree content := by decide
  have hq : content.isQuoted = false := by decide
  obtain ⟨literal, hprint, hreads⟩ := plainPrint_reads hescapes htrim hfree hq
  exact ⟨htrim, hfree, hq, literal, hprint, fun h => absurd (hreads.1 h).1 (by decide)⟩

end Statement

end JavaSketch
