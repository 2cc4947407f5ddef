import JavaSketch.Proofs.Consumption
import JavaSketch.Proofs.Margins
import JavaSketch.Proofs.Phrases
import JavaSketch.Proofs.Sections
import JavaSketch.Proofs.StatementPieces

namespace JavaSketch

namespace Body

variable {v : Vocabulary} {convert : Text → Except Fault Text} {lines : List Text}
  {inComment : Bool} {d : Nat}

/-- A margin that the first statement would set anyway may be there before it. -/
theorem readFrom_margin (h : ∀ first ∈ (code inComment lines).head?, first.indent = d) :
    readFrom (.current v) convert { margin := some d, inComment } lines =
      readFrom (.current v) convert { inComment } lines := by
  induction lines generalizing inComment with
  | nil => rfl
  | cons line rest ih =>
    cases hc : isCode inComment line with
    | false =>
      rw [code_cons_of_not_isCode hc] at h
      exact readFrom_congr_of_not_isCode rfl rfl hc (ih h)
    | true =>
      have hd : line.indent = d := by
        apply h line
        rw [code_cons_of_isCode hc]
        rfl
      have hin : isOutside .firstStatement { margin := some d, inComment } line = false := by
        rw [isOutside, Option.getD_some, hd, decide_eq_false_iff_not]
        exact Nat.lt_irrefl d
      have henter (java : Text) : ({ margin := some d, inComment } : State).enter line java =
          ({ inComment } : State).enter line java := by
        rw [State.enter, State.enter, ← hd]
        rfl
      rw [readFrom_of_isCode hc, readFrom_of_isCode hc, hin, isOutside_of_margin_none rfl]
      simp only [henter]
      rfl

end Body

namespace Constructor

/-- The statement that stores a parameter in the field of its name. -/
def store (p : Text) : Text := "this." ++ p ++ " = " ++ p

variable {p pad gap name head : Text} {ps : List Text} {v : Vocabulary} {access : Access}
  {t : Template} {lines : List Text}

theorem store_eq (p : Text) :
    store p = ("this." ++ p) ++ ' ' :: ("=".toList ++ ' ' :: p) :=
  List.append_assoc ("this.".toList ++ p) " = ".toList p

theorem comparisons_apart : ∀ part ∈ Statement.comparisons,
    ' ' ∉ part ∧ '=' ∈ part ∧ Text.includes "=" part = false := by
  decide

theorem covers_store (p : Text) : ∀ op ∈ Operation.all,
    .exact '(' ∈ op.shape ∨ op.covers (store p).lower = false := by
  have h : Operation.all.all (fun op =>
      op.shape.contains (.exact '(') || !op.covers (store p).lower) = true := rfl
  intro op hop
  have ho := List.all_eq_true.1 h op hop
  simpa only [Bool.or_eq_true, List.contains_iff_mem, Bool.not_eq_true'] using ho

section Store

variable (hp : IsName p)
include hp

theorem notMem_target {c : Char} (hc : c ∉ "this.".toList) (hw : isWord c = false) :
    c ∉ "this.".toList ++ p := by
  rw [List.mem_append, not_or]
  exact ⟨hc, hp.notMem hw⟩

theorem notMem_store {c : Char} (hc : c ∉ "this. = ".toList) (hw : isWord c = false) :
    c ∉ store p := by
  intro hm
  rcases List.mem_append.1 hm with hm | hm
  · rcases List.mem_append.1 hm with hm | hm
    · exact notMem_target hp (fun ht => hc (List.mem_append_left " = ".toList ht)) hw hm
    · exact hc (List.mem_append_right "this.".toList hm)
  · exact hp.notMem hw hm

theorem getLast?_store : ∃ c, (store p).getLast? = some c ∧ isWord c = true := by
  have hl : (store p).getLast? = p.getLast? := List.getLast?_append_of_ne_nil _ hp.ne_nil
  rw [List.getLast?_eq_some_getLast hp.ne_nil] at hl
  exact ⟨_, hl, hp.char (List.getLast_mem _)⟩

theorem trim_store : (store p).trim = store p := by
  apply Text.trim_of_ends
  · exact Text.head_cons rfl
  · intro c hc
    obtain ⟨d, hd, hw⟩ := getLast?_store hp
    rw [hd] at hc
    cases hc
    exact not_blank_of_isWord hw

theorem not_includes_as : (store p).includes " as " = false := by
  have hw : Text.cut? (' ' :: ("as".toList ++ [' ']))
      (["=".toList].flatMap (' ' :: ·) ++ ' ' :: p) = none := by
    apply Text.cut?_last (by decide) _ (hp.notMem rfl)
    rw [List.forall_mem_singleton]
    decide
  have hcut : Text.cut? (' ' :: ("as".toList ++ [' ']))
      (("this." ++ p) ++ (["=".toList].flatMap (' ' :: ·) ++ ' ' :: p)) = none := by
    rw [Text.cut?_append (notMem_target hp (by decide) rfl), hw]
    rfl
  rw [store_eq]
  exact congrArg Option.isSome hcut

theorem isAssignment_store : Statement.isAssignment (store p) = true := by
  have hincludes : (store p).includes "=" = true := by
    rw [Text.includes_iff, store_eq]
    exact ⟨"this.".toList ++ p ++ [' '], ' ' :: p, by simp⟩
  have hcomparison : Statement.comparisons.any (store p).includes = false := by
    rw [List.any_eq_false]
    intro part hpart
    obtain ⟨hb, he, hs⟩ := comparisons_apart part hpart
    rw [store_eq, Text.includes_append_cons hb, Text.includes_append_cons hb, hs,
      Text.not_includes_of_notMem he (notMem_target hp (by decide) rfl),
      Text.not_includes_of_notMem he (hp.notMem rfl)]
    exact Bool.false_ne_true
  rw [Statement.isAssignment, hincludes, hcomparison]
  rfl

theorem isOperation_store : isOperation .all (store p) = false := by
  apply Operation.isOperation_eq_false
  intro op hop
  rcases covers_store p op hop with hshape | hcovers
  · rw [Bool.eq_false_iff]
    intro hc
    have hm := Text.sign_mem_lower (Pattern.mem_of_accepts hshape hc) rfl
    exact notMem_store hp (by decide) rfl hm
  · exact hcovers

theorem assignment_store : Statement.assignment .all (store p) = store p ++ ";" := by
  have heq : '=' ∉ "this.".toList ++ p ++ [' '] := by
    rw [List.mem_append, not_or]
    exact ⟨notMem_target hp (by decide) rfl, by decide⟩
  have hself : Text.cut? ['='] (['='] ++ ' ' :: p) = some ([], ' ' :: p) :=
    Text.cut?_self (by decide) _
  have htext : store p = ("this." ++ p ++ [' ']) ++ (['='] ++ ' ' :: p) := by
    rw [store_eq, List.append_assoc _ [' ']]
    rfl
  have hcut : Text.cut? ['='] (store p) = some ("this." ++ p ++ [' '], ' ' :: p) := by
    rw [htext, Text.cut?_append heq, hself, Option.map_some, List.append_nil]
  have htarget : Text.trim ("this." ++ p ++ [' ']) = "this." ++ p := by
    rw [Text.trim_append_right (List.all_eq_true.1 rfl)]
    apply Text.trim_of_ends
    · exact Text.head_cons rfl
    · intro c hc
      rw [List.getLast?_append_of_ne_nil _ hp.ne_nil] at hc
      exact not_blank_of_isWord (hp.char (List.mem_of_mem_getLast? hc))
  have hvalue : Text.trim (' ' :: p) = p := by
    have ht : Text.trim ([' '] ++ p) = p.trim := Text.trim_append (List.all_eq_true.1 rfl)
    rw [hp.trim_eq] at ht
    exact ht
  have hoperation := Operation.isOperation_of_isName hp
  rw [Statement.assignment, show "=".toList = ['='] from rfl, hcut]
  dsimp only
  rw [htarget, hvalue, javaValue, hoperation]
  rfl

/-- The statement is converted as it stands. -/
theorem convert_store : Statement.convert .current (store p) = .ok (store p ++ ";") := by
  have hlocal : Statement.isLocal (store p) = false := by
    rw [Statement.isLocal, Statement.isValuedLocal, not_includes_as hp, Bool.false_and,
      Bool.false_and, Bool.or_false, Bool.or_false]
    rfl
  have htrim := trim_store hp
  have hprint : (store p).trim.startsWith "print " = false := by
    rw [htrim]
    rfl
  rw [Statement.convert_unprinted hprint, htrim, hlocal, isOperation_store hp,
    isAssignment_store hp, assignment_store hp]
  rfl

variable (hpad : ∀ c ∈ pad, isBlank c = true)
include hpad

theorem trim_storeLine : (pad ++ store p).trim = store p := by
  rw [Text.trim_append hpad, trim_store hp]

omit hp in
theorem indent_storeLine : (pad ++ store p).indent = pad.length :=
  Text.indent_append hpad (Text.head_cons rfl)

theorem isCode_storeLine : Body.isCode false (pad ++ store p) = true := by
  have hq : (store p).includes Body.tripleQuote = false :=
    Text.not_includes_of_notMem (by decide) (notMem_store hp (c := '"') (by decide) rfl)
  rw [Body.isCode, Body.isStatement, trim_storeLine hp hpad, hq]
  rfl

theorem entry_storeLine :
    Body.entry (Statement.convert .current) (pad ++ store p) = .ok (store p ++ ";") := by
  have hs : (store p).includes "//" = false :=
    Text.not_includes_of_notMem (by decide) (notMem_store hp (c := '/') (by decide) rfl)
  have hn : (store p).includes "#" = false :=
    Text.not_includes_of_notMem (by decide) (notMem_store hp (c := '#') (by decide) rfl)
  have hcode := isCode_storeLine hp hpad
  rw [Body.entry, if_pos (Bool.and_eq_true_iff.1 hcode).2, trim_storeLine hp hpad,
    Body.statementLine_of_unmarked hs hn, convert_store hp]

omit hpad in
theorem templateName?_store (hv : ∀ word ∈ v.templateWords, '.' ∉ word) :
    v.templateName? (store p) = none := by
  rw [Vocabulary.templateName?, trim_store hp, List.findSome?_eq_none_iff]
  intro word hword
  have htext : store p = "this".toList ++ '.' :: (p ++ " = ".toList ++ p) := rfl
  have hbegun : ∀ c ∈ "this".toList, isWord c = true := List.all_eq_true.1 rfl
  have hdot : isBlank '.' = false := rfl
  have hfind : Pattern.find? (Pattern.anyCase word ++ [Step.gap, Step.name]) (store p) = none := by
    rw [htext]
    apply find?_anyCase hbegun hdot
    intro d hd
    rw [Bool.eq_false_iff]
    intro hsame
    have hd' : d = '.' := eq_of_sameLetter hsame rfl
    exact hv word hword (hd' ▸ hd)
  exact nameAfter?_of_none hfind

/-- Only at the margin can a template begin where a parameter is stored, and only by a word with a
dot in it. -/
theorem endsBody_storeLine (hv : pad = [] → ∀ word ∈ v.templateWords, '.' ∉ word) :
    Body.endsBody v (pad ++ store p) = false := by
  obtain ⟨c, hc, hw⟩ := getLast?_store hp
  have hcolon : (store p).endsWith ":" = false := by
    apply Text.not_endsWith_of_getLast? hc
    rintro rfl
    cases hw
  have hmain : (store p == "main".toList) = false := rfl
  have hheading : v.isHeadingOrMain (store p) pad.length = false := by
    rw [Synonyms.isHeadingOrMain, Vocabulary.isHeading, hmain, hcolon]
    rfl
  have houter : v.opensOuter (store p) pad.length = false := by
    rw [Vocabulary.opensOuter, hmain, Bool.or_false]
    cases pad with
    | cons d pad => rfl
    | nil =>
      rw [Vocabulary.opensTemplate, templateName?_store hp (hv rfl)]
      rfl
  rw [Body.endsBody, trim_storeLine hp hpad, indent_storeLine hpad]
  change (v.isHeadingOrMain (store p) pad.length || v.opensOuter (store p) pad.length) = false
  rw [hheading, houter]
  rfl

end Store

/-- Behind the statements that store the parameters, the body is read as without them. -/
theorem readFrom_stores (hpad : ∀ c ∈ pad, isBlank c = true)
    (hv : pad = [] → ∀ word ∈ v.templateWords, '.' ∉ word) (hps : ∀ p ∈ ps, IsName p)
    (lines : List Text) :
    Body.readFrom (.current v) (Statement.convert .current) { margin := some pad.length }
        (ps.map (pad ++ store ·) ++ lines) =
      (Body.readFrom (.current v) (Statement.convert .current) { margin := some pad.length }
        lines).map fun res => (ps.map (store · ++ ";") ++ res.1, ps.length + res.2) := by
  induction ps with
  | nil =>
    rw [List.map_nil, List.nil_append]
    cases Body.readFrom (.current v) (Statement.convert .current) { margin := some pad.length }
        lines with
    | error f => rfl
    | ok res => simp [Except.map]
  | cons p ps ih =>
    obtain ⟨hp, hps⟩ := List.forall_mem_cons.1 hps
    have hstays : (Body.endsBody v (pad ++ store p) || Body.isOutside .firstStatement
        { margin := some pad.length } (pad ++ store p)) = false := by
      rw [endsBody_storeLine hp hpad hv, Body.isOutside, indent_storeLine hpad, Option.getD_some,
        Bool.false_or, decide_eq_false_iff_not]
      exact Nat.lt_irrefl _
    have henter : ({ margin := some pad.length } : Body.State).enter (pad ++ store p)
        (store p ++ ";") = { margin := some pad.length } := by
      have hbrace : (store p ++ ";".toList).endsWith "\x7b" = false :=
        Text.endsWith_append (by decide)
      rw [Body.State.enter, hbrace]
      rfl
    have hstep := Body.step_enter (isCode_storeLine hp hpad) hstays (entry_storeLine hp hpad)
    rw [List.map_cons, List.cons_append, Body.readFrom_emit hstep, henter, ih hps]
    cases Body.readFrom (.current v) (Statement.convert .current) { margin := some pad.length }
        lines with
    | error f => rfl
    | ok res =>
      simp [Except.map, Body.closers, Body.State.openers, Blocks.empty, Nat.add_right_comm]

theorem ofProgram_stores (hpad : ∀ c ∈ pad, isBlank c = true)
    (hv : pad = [] → ∀ word ∈ v.templateWords, '.' ∉ word) (hne : ps ≠ [])
    (hps : ∀ p ∈ ps, IsName p)
    (hfirst : ∀ first ∈ (Body.code false lines).head?, first.indent = pad.length) :
    Body.ofProgram v (ps.map (pad ++ store ·) ++ lines) =
      (Body.ofProgram v lines).map fun res =>
        (ps.map (store · ++ ";") ++ res.1, ps.length + res.2) := by
  have hstores : ∀ first ∈ (Body.code false (ps.map (pad ++ store ·) ++ lines)).head?,
      first.indent = pad.length := by
    obtain ⟨p, rest, rfl⟩ := List.exists_cons_of_ne_nil hne
    have hcode := isCode_storeLine (hps p List.mem_cons_self) hpad
    rw [List.map_cons, List.cons_append, Body.code_cons_of_isCode hcode]
    intro first hf
    cases hf
    exact indent_storeLine hpad
  rw [Body.ofProgram, Body.read, Body.read, ← Body.readFrom_margin hstores,
    ← Body.readFrom_margin hfirst]
  exact readFrom_stores hpad hv hps lines

section Heads

/-- The head of a constructor that only lists its parameters. -/
def listHead (ps : List Text) : Text := Text.join ", " ps ++ ":"

/-- The head of a constructor that is written as a call. -/
def callHead (name : Text) (ps : List Text) : Text :=
  name ++ "(" ++ Text.join ", " ps ++ ")" ++ ":"

theorem notMem_join {c : Char} (hps : ∀ p ∈ ps, IsName p) (hc : c ∉ ", ".toList)
    (hw : isWord c = false) : c ∉ Text.join ", " ps := by
  cases ps with
  | nil => exact List.not_mem_nil
  | cons p ps =>
    rw [Text.join_cons, List.mem_append, List.mem_flatMap]
    rintro (hm | ⟨q, hq, hm⟩)
    · exact (hps p List.mem_cons_self).notMem hw hm
    · rcases List.mem_append.1 hm with hm | hm
      · exact hc hm
      · exact (hps q (List.mem_cons_of_mem _ hq)).notMem hw hm

theorem head_join (hne : ps ≠ []) (hps : ∀ p ∈ ps, IsName p) :
    ∃ c s, Text.join ", " ps = c :: s ∧ isWord c = true := by
  obtain ⟨p, rest, rfl⟩ := List.exists_cons_of_ne_nil hne
  have hp := hps p List.mem_cons_self
  obtain ⟨c, w, hw⟩ := List.exists_cons_of_ne_nil hp.ne_nil
  refine ⟨c, w ++ rest.flatMap (", ".toList ++ ·), ?_, hp.char (hw ▸ List.mem_cons_self)⟩
  rw [Text.join_cons, hw]
  rfl

theorem trim_join (hps : ∀ p ∈ ps, IsName p) :
    (Text.join ", " ps).trim = Text.join ", " ps :=
  Text.trim_join_of_ends fun p hp => ⟨(hps p hp).ne_nil, (hps p hp).trim_eq⟩

theorem dropEndWhile_listHead (hps : ∀ p ∈ ps, IsName p) :
    Text.dropEndWhile (· == ':') (listHead ps) = Text.join ", " ps := by
  have hself : (Text.join ", " ps).reverse.dropWhile (· == ':') = (Text.join ", " ps).reverse := by
    cases hr : (Text.join ", " ps).reverse with
    | nil => rfl
    | cons c s =>
      rw [List.dropWhile_cons_of_neg]
      rw [beq_iff_eq]
      rintro rfl
      exact notMem_join hps (by decide) rfl (List.mem_reverse.1 (hr ▸ List.mem_cons_self))
  have hdrop : (listHead ps).reverse.dropWhile (· == ':') = (Text.join ", " ps).reverse := by
    rw [listHead, List.reverse_append]
    exact hself
  rw [Text.dropEndWhile, hdrop, List.reverse_reverse]

theorem isListed_listHead (hps : ∀ p ∈ ps, IsName p) : isListed (listHead ps) = true := by
  have hincludes : (listHead ps).includes ":" = true := by
    rw [Text.includes_iff]
    exact (List.suffix_append _ _).isInfix
  have hends : (listHead ps).endsWith ")" = false := Text.endsWith_append (by decide)
  have hcall : callPattern.accepts (listHead ps) = false := by
    rw [Bool.eq_false_iff]
    intro h
    have hm : '(' ∈ listHead ps := Pattern.mem_of_accepts (by decide) h
    rcases List.mem_append.1 hm with hm | hm
    · exact notMem_join hps (by decide) rfl hm
    · exact absurd hm (by decide)
  rw [isListed, hincludes, hends, hcall]
  rfl

theorem isListed_callHead (hn : IsName name) (hps : ∀ p ∈ ps, IsName p) :
    isListed (callHead name ps) = false := by
  have hclose : Pattern.find? [.exact ')', .space, .exact ':'] [')', ':'] = some [] := rfl
  have hlist : Pattern.find? [.run (.except ')') 0 true false, .exact ')', .space, .exact ':']
      (Text.join ", " ps ++ [')', ':']) = some [] := by
    apply Pattern.find?_longest false _ _ (Nat.zero_le _) hclose
    · intro c hc
      rw [CharClass.holds, bne_iff_ne]
      rintro rfl
      exact notMem_join hps (by decide) rfl hc
    · intro c hc
      cases hc
      rfl
  have hopen : Pattern.find? [.space, .exact '(', .run (.except ')') 0 true false, .exact ')',
      .space, .exact ':'] ([] ++ '(' :: (Text.join ", " ps ++ [')', ':'])) = some [] := by
    apply Pattern.find?_longest false _ _ (Nat.zero_le _)
    · rw [Pattern.find?, if_pos rfl, hlist]
    · intro c hc
      cases hc
    · intro c hc
      cases hc
      rfl
  have hname : Pattern.find? [.run .word 1 true false, .space, .exact '(',
      .run (.except ')') 0 true false, .exact ')', .space, .exact ':']
      (name ++ '(' :: (Text.join ", " ps ++ [')', ':'])) = some [] := by
    apply Pattern.find?_longest false _ _ (List.length_pos_iff.2 hn.ne_nil) hopen
    · intro c hc
      exact hn.char hc
    · intro c hc
      cases hc
      rfl
  have htext : callHead name ps = name ++ '(' :: (Text.join ", " ps ++ [')', ':']) := by
    rw [callHead, List.append_assoc, List.append_assoc, List.append_assoc]
    rfl
  have haccepts : callPattern.accepts (callHead name ps) = true := by
    rw [htext]
    exact Pattern.accepts_run .any true false (Option.isSome_iff_exists.2 ⟨_, hname⟩)
  rw [isListed, haccepts, Bool.not_true, Bool.and_false]

end Heads

/-- Names of variables of a template, one or more. -/
structure FieldNames (t : Template) (ps : List Text) : Prop where
  ne_nil : ps ≠ []
  isName : ∀ p ∈ ps, IsName p
  declared : ∀ p ∈ ps, ∃ x ∈ t.allVars, x.name = p

/-- A parameter has the type of the variable of its name. -/
def fieldParam (t : Template) (p : Text) : Param := ⟨p, ((t.declared? p).map (·.type)).getD []⟩

theorem declared?_of_mem (h : ∃ x ∈ t.allVars, x.name = p) : ∃ x, t.declared? p = some x := by
  obtain ⟨x, hx, rfl⟩ := h
  rw [← Option.isSome_iff_exists, Template.declared?, List.find?_isSome]
  exact ⟨x, hx, beq_self_eq_true _⟩

theorem read_fieldParam (guess? : Text → Option Text) (hp : IsName p)
    (h : ∃ x ∈ t.allVars, x.name = p) :
    Parameter.read .full (Parameter.typeIn guess? t) p = .ok (fieldParam t p) := by
  have hcut : Text.cut? " " p = none :=
    Text.cut?_eq_none (Text.not_includes_of_notMem (by decide) (hp.notMem (c := ' ') rfl))
  obtain ⟨x, hx⟩ := declared?_of_mem h
  have htype : Parameter.declaredType? t p = some x.type := by
    rw [Parameter.declaredType?, hx]
    rfl
  rw [Parameter.read, hcut, fieldParam, hx]
  dsimp only
  rw [Parameter.typeIn, htype]
  rfl

theorem FieldNames.readIn_join (h : FieldNames t ps) :
    Parameter.readIn t (Text.join ", " ps) = .ok (ps.map (fieldParam t)) := by
  have hpieces : ∀ p ∈ ps, Parameter.IsPiece p := by
    intro p hp
    have hn := h.isName p hp
    exact ⟨hn.ne_nil, hn.trim_eq, hn.notMem rfl⟩
  rw [Parameter.readIn, Parameter.readAll_join _ hpieces]
  apply mapM_eq_ok
  intro p hp
  exact read_fieldParam _ (h.isName p hp) (h.declared p hp)

/-- The line of a member: blanks, the access mark, blanks, and the member. -/
def memberLine (pad : Text) (access : Access) (gap member : Text) : Text :=
  pad ++ (access.mark ++ gap ++ member)

theorem not_isIdle_cons {c : Char} (hc : c ≠ '/') (s : Text) : isIdle (c :: s) = false := by
  have hstarts : Text.startsWith (c :: s) [c] = true :=
    List.isPrefixOf_iff_prefix.2 (List.prefix_append [c] s)
  have hcomment : Text.startsWith (c :: s) "//" = false := Text.startsWith_of_ne hc hstarts
  rw [isIdle, hcomment]
  rfl

theorem onMember_memberLine {c : Char} {s : Text}
    (read : Access → Text → Except Fault (Option Method × Nat))
    (hpad : ∀ c ∈ pad, isBlank c = true) (hgap : ∀ c ∈ gap, isBlank c = true)
    (hhead : head = c :: s) (hc : isWord c = true) (htrim : head.trim = head) :
    Method.onMember (memberLine pad access gap head) read = read access head := by
  have hrest : Text.trim (gap ++ head) = head := by rw [Text.trim_append hgap, htrim]
  have hmarked {m : Char} (hm : isBlank m = false) (hslash : m ≠ '/')
      (ha : Access.ofMark? m = some access) :
      Method.onMember (pad ++ m :: (gap ++ head)) read = read access head := by
    have ht : Text.trim (pad ++ m :: (gap ++ head)) = m :: (gap ++ head) := by
      rw [Text.trim_append hpad]
      apply Text.trim_of_ends (Text.head_cons hm)
      intro d hd
      have hne : head ≠ [] := hhead ▸ List.cons_ne_nil c s
      apply Text.getLast_of_trim htrim d
      rwa [← List.cons_append, List.getLast?_append_of_ne_nil _ hne] at hd
    rw [Method.onMember_eq, ht, not_isIdle_cons hslash, Access.parts, Access.ofFirst, ha, hrest]
    rfl
  cases access with
  | pub => exact hmarked (m := '*') rfl (by decide) rfl
  | priv => exact hmarked (m := '-') rfl (by decide) rfl
  | prot => exact hmarked (m := '+') rfl (by decide) rfl
  | pack =>
    have ht : Text.trim (memberLine pad .pack gap head) = c :: s := by
      rw [memberLine, Text.trim_append hpad]
      exact hrest.trans hhead
    have hslash : c ≠ '/' := by
      rintro rfl
      cases hc
    rw [Method.onMember_eq, ht, not_isIdle_cons hslash, hhead, SignatureText.parts_of_isWord hc]
    rfl

/-- The name in the head of a constructor, if it is written as a call, and its parameters. -/
def parts? (s : Text) : Option (Option Text × Text) :=
  if isListed s then some (none, Text.trim (Text.dropEndWhile (· == ':') s))
  else (Signature.callParts? s).map fun parts => (some parts.1, parts.2)

/-- The constructor that a head gives; a list of parameters stores them before the body. -/
def ofParts (access : Access) (called : Option Text) (name : Text) (params : List Param)
    (body : List Text) : Method where
  name := called.getD name
  params := params
  access := access
  body := (if called.isNone then assignments params else []) ++ body
  isConstructor := true

theorem read_of_parts {called : Option Text} {s list : Text}
    (body : List Text → Except Fault (List Text × Nat)) (hparts : parts? s = some (called, list)) :
    (if isListed s then (Method.reader body (some t)).listed
        (((some t).map (·.name)).getD "Constructor") access s lines
      else (Method.reader body (some t)).named access s lines) =
      (Parameter.readIn t list >>= fun params => body lines >>= fun res =>
        .ok (some (ofParts access called t.name params res.1), res.2)) := by
  have hparams (s : Text) : (Method.reader body (some t)).params "void" s = Parameter.readIn t s :=
    rfl
  have hbody : (Method.reader body (some t)).body lines = body lines := rfl
  rw [parts?] at hparts
  by_cases hlisted : isListed s = true
  · rw [if_pos hlisted] at hparts
    rw [if_pos hlisted, MethodReader.listed, hparams, hbody]
    cases hparts
    cases Parameter.readIn t _ with
    | error f => rfl
    | ok params => rfl
  · rw [if_neg hlisted] at hparts
    rw [if_neg hlisted, MethodReader.named]
    obtain ⟨parts, hcall, he⟩ := Option.map_eq_some_iff.1 hparts
    rw [hcall]
    cases he
    rfl

/-- The constructor of a template that stores its parameters in the fields of their names before
its body. -/
def storing (t : Template) (access : Access) (ps body : List Text) : Method where
  name := t.name
  params := ps.map (fieldParam t)
  access := access
  body := ps.map (store · ++ ";") ++ body
  isConstructor := true

theorem readConstructor_listed (body : List Text → Except Fault (List Text × Nat))
    (hpad : ∀ c ∈ pad, isBlank c = true) (hgap : ∀ c ∈ gap, isBlank c = true)
    (hps : FieldNames t ps) (lines : List Text) :
    Method.readConstructor body (some t) (memberLine pad access gap (listHead ps)) lines =
      (body lines).map fun res => (some (storing t access ps res.1), res.2) := by
  obtain ⟨c, s, hs, hc⟩ := head_join hps.ne_nil hps.isName
  have hhead : listHead ps = c :: (s ++ ":") := by rw [listHead, hs, List.cons_append]
  have htrim : (listHead ps).trim = listHead ps := by
    apply Text.trim_of_ends
    · rw [hhead]
      exact Text.head_cons (not_blank_of_isWord hc)
    · intro d hd
      rw [listHead, List.getLast?_append_of_ne_nil _ (by decide)] at hd
      cases hd
      rfl
  have hparts : parts? (listHead ps) = some (none, Text.join ", " ps) := by
    rw [parts?, if_pos (isListed_listHead hps.isName), dropEndWhile_listHead hps.isName,
      trim_join hps.isName]
  have hassign : assignments (ps.map (fieldParam t)) = ps.map (store · ++ ";") := by
    rw [assignments, List.map_map]
    rfl
  rw [Method.readConstructor, onMember_memberLine _ hpad hgap hhead hc htrim,
    read_of_parts body hparts, hps.readIn_join]
  cases body lines with
  | error f => rfl
  | ok res =>
    rw [Except.map, storing, ← hassign]
    rfl

theorem readConstructor_called (body : List Text → Except Fault (List Text × Nat))
    (hpad : ∀ c ∈ pad, isBlank c = true) (hgap : ∀ c ∈ gap, isBlank c = true)
    (ht : IsName t.name) (hps : FieldNames t ps) (lines : List Text) :
    Method.readConstructor body (some t) (memberLine pad access gap (callHead t.name ps)) lines =
      (body lines).map fun res => (some { name := t.name, params := ps.map (fieldParam t), access,
                                          body := res.1, isConstructor := true }, res.2) := by
  obtain ⟨c, s, hs⟩ := List.exists_cons_of_ne_nil ht.ne_nil
  have hc : isWord c = true := ht.char (hs ▸ List.mem_cons_self)
  have hhead : callHead t.name ps = c :: (s ++ "(" ++ Text.join ", " ps ++ ")" ++ ":") := by
    rw [callHead, hs]
    rfl
  have htrim : (callHead t.name ps).trim = callHead t.name ps := by
    apply Text.trim_of_ends
    · rw [hhead]
      exact Text.head_cons (not_blank_of_isWord hc)
    · intro d hd
      rw [callHead, List.getLast?_append_of_ne_nil _ (by decide)] at hd
      cases hd
      rfl
  have hcall : Signature.callParts? (callHead t.name ps) = some (t.name, Text.join ", " ps) := by
    apply Signature.callParts?_call ht
    intro d hd
    constructor
    · rintro rfl
      exact notMem_join hps.isName (by decide) rfl hd
    · rintro rfl
      exact notMem_join hps.isName (by decide) rfl hd
  have hparts : parts? (callHead t.name ps) = some (some t.name, Text.join ", " ps) := by
    rw [parts?, if_neg (Bool.eq_false_iff.1 (isListed_callHead ht hps.isName)), hcall]
    rfl
  rw [Method.readConstructor, onMember_memberLine _ hpad hgap hhead hc htrim,
    read_of_parts body hparts, hps.readIn_join]
  cases body lines with
  | error f => rfl
  | ok res => rfl

/-- The two ways to write a constructor give the same method, which has the declared types of its
parameters and stores them before its body. -/
theorem readConstructor_styles (v : Vocabulary) (t : Template) (access : Access)
    (pad gap inner : Text) (ps lines : List Text) (hpad : ∀ c ∈ pad, isBlank c = true)
    (hgap : ∀ c ∈ gap, isBlank c = true) (hinner : ∀ c ∈ inner, isBlank c = true)
    (hv : inner = [] → ∀ word ∈ v.templateWords, '.' ∉ word) (ht : IsName t.name)
    (hps : FieldNames t ps)
    (hfirst : ∀ first ∈ (Body.code false lines).head?, first.indent = inner.length) :
    let listed := Method.readConstructor (Body.ofProgram v) (some t)
      (memberLine pad access gap (listHead ps)) lines
    let called := Method.readConstructor (Body.ofProgram v) (some t)
      (memberLine pad access gap (callHead t.name ps)) (ps.map (inner ++ store ·) ++ lines)
    listed.map (·.1) = called.map (·.1) ∧
      listed = (Body.ofProgram v lines).map (fun res => (some (storing t access ps res.1), res.2)) ∧
      called = (Body.ofProgram v lines).map fun res =>
        (some (storing t access ps res.1), ps.length + res.2) := by
  intro listed called
  have hlisted : listed = (Body.ofProgram v lines).map fun res =>
      (some (storing t access ps res.1), res.2) :=
    readConstructor_listed _ hpad hgap hps lines
  have hcalled : called = (Body.ofProgram v lines).map fun res =>
      (some (storing t access ps res.1), ps.length + res.2) := by
    refine (readConstructor_called _ hpad hgap ht hps _).trans ?_
    rw [ofProgram_stores hinner hv hps.ne_nil hps.isName hfirst]
    cases Body.ofProgram v lines with
    | error f => rfl
    | ok res => rfl
  refine ⟨?_, hlisted, hcalled⟩
  rw [hlisted, hcalled]
  cases Body.ofProgram v lines with
  | error f => rfl
  | ok res => rfl

theorem readConstructor_styles_of_account :
    let t : Template :=
      { name := "Account",
        instanceVars :=
          [{ name := "owner", type := "String" }, { name := "balance", type := "double" }] }
    let ps : List Text := ["owner", "balance"]
    let lines : List Text :=
      ["  # a debt is told", "            if balance < 0:", "                warn(owner)",
       "        - clear():"]
    let method : Method :=
      { name := "Account", params := [⟨"owner", "String"⟩, ⟨"balance", "double"⟩], access := .pub,
        body := ["this.owner = owner;", "this.balance = balance;", "// a debt is told",
          "if (balance < 0) \x7b", "warn(owner);", "\x7d"], isConstructor := true }
    Method.readConstructor (Body.ofProgram Vocabulary.standard) (some t)
        (memberLine "        " .pub " " (listHead ps)) lines = .ok (some method, 3) ∧
      Method.readConstructor (Body.ofProgram Vocabulary.standard) (some t)
        (memberLine "        " .pub " " (callHead "Account" ps))
        (ps.map ("            " ++ store ·) ++ lines) = .ok (some method, 5) := by
  intro t ps lines method
  have hread : Body.ofProgram Vocabulary.standard lines = .ok
      (["// a debt is told", "if (balance < 0) \x7b", "warn(owner);", "\x7d"], 3) := by
    decide +kernel
  have hps : FieldNames t ps := by
    refine ⟨by decide, ?_, ?_⟩
    · exact List.forall_mem_cons.2 ⟨⟨by decide, rfl⟩, List.forall_mem_singleton.2 ⟨by decide, rfl⟩⟩
    · refine List.forall_mem_cons.2 ⟨⟨_, List.mem_cons_self, rfl⟩, List.forall_mem_singleton.2 ?_⟩
      exact ⟨_, List.mem_cons_of_mem _ List.mem_cons_self, rfl⟩
  obtain ⟨_, hlisted, hcalled⟩ := readConstructor_styles .standard t .pub "        " " "
    "            " ps lines (List.all_eq_true.1 rfl) (List.all_eq_true.1 rfl)
    (List.all_eq_true.1 rfl) (by decide) ⟨by decide, rfl⟩ hps (by decide +kernel)
  rw [hread] at hlisted hcalled
  exact ⟨hlisted, hcalled⟩

end Constructor

end JavaSketch
