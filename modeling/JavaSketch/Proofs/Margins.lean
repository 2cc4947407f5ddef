import JavaSketch.Proofs.Progress

namespace JavaSketch

namespace Body

/-- The statements among lines, outside of block comments; the flag says whether a block comment is
open in front of them. -/
def code (inComment : Bool) : List Text → List Text
  | [] => []
  | line :: rest =>
    if isCode inComment line then line :: code inComment rest
    else code (commentAfter inComment line) rest

variable {v : Vocabulary} {convert : Text → Except Fault Text} {st : State} {line : Text}
  {lines rest body : List Text} {inComment : Bool} {d n : Nat}

theorem code_cons_of_isCode (h : isCode inComment line = true) :
    code inComment (line :: rest) = line :: code inComment rest := by
  rw [code, if_pos h]

theorem code_cons_of_not_isCode (h : isCode inComment line = false) :
    code inComment (line :: rest) = code (commentAfter inComment line) rest := by
  rw [code, if_neg (Bool.eq_false_iff.1 h)]

namespace Reads

theorem margin_le (h : Reads v convert st lines body n) (hm : st.margin = some d) :
    ∀ line ∈ code st.inComment (lines.take n), d ≤ line.indent := by
  induction h with
  | finish =>
    intro line hl
    cases hl
  | stop =>
    intro line hl
    cases hl
  | @enter st line java rest body n hc hn _ _ ih =>
    have ho := (Bool.or_eq_false_iff.1 hn).2
    rw [isOutside, hm, Option.getD_some, decide_eq_false_iff_not, Nat.not_lt] at ho
    have hr := ih (by rw [enter_margin, hm, Option.getD_some])
    rw [enter_inComment] at hr
    rw [List.take_succ_cons, code_cons_of_isCode hc]
    exact List.forall_mem_cons.2 ⟨ho, hr⟩
  | pass hc _ _ ih =>
    rw [List.take_succ_cons, code_cons_of_not_isCode hc]
    exact ih hm

theorem first_statement (h : Reads v convert st lines body n) (hm : st.margin = none) :
    (code st.inComment (lines.take n)).head? =
        (code st.inComment lines).head?.filter (fun line => !endsBody v line) ∧
      ∀ first ∈ (code st.inComment lines).head?,
        ∀ line ∈ code st.inComment (lines.take n), first.indent ≤ line.indent := by
  induction h with
  | finish =>
    refine ⟨rfl, ?_⟩
    intro first _ line hl
    cases hl
  | @stop st line rest hc he =>
    rw [isOutside_of_margin_none hm, Bool.or_false] at he
    rw [code_cons_of_isCode hc]
    refine ⟨?_, ?_⟩
    · rw [List.head?_cons, Option.filter_some, he]
      rfl
    · intro first _ line hl
      cases hl
  | @enter st line java rest body n hc hn _ more _ =>
    have hne := (Bool.or_eq_false_iff.1 hn).1
    have hr := more.margin_le (by rw [enter_margin, hm, Option.getD_none])
    rw [enter_inComment] at hr
    rw [List.take_succ_cons, code_cons_of_isCode hc, code_cons_of_isCode hc]
    refine ⟨?_, ?_⟩
    · rw [List.head?_cons, List.head?_cons, Option.filter_some, hne]
      rfl
    · intro first hf
      cases hf
      exact List.forall_mem_cons.2 ⟨Nat.le_refl _, hr⟩
  | pass hc _ _ ih =>
    rw [List.take_succ_cons, code_cons_of_not_isCode hc, code_cons_of_not_isCode hc]
    exact ih hm

end Reads

end Body

namespace MethodReader

variable {r : MethodReader} {access : Access} {isStatic : Bool} {name s : Text} {rest : List Text}
  {m : Method} {n : Nat}

theorem of_regular (h : r.regular access isStatic s rest = .ok (some m, n)) :
    ∃ sig params body, Signature.read? r.marks s = some sig ∧
      r.params sig.returns sig.params = .ok params ∧ r.body rest = .ok (body, n) ∧
      m = { name := sig.name, params, returnType := r.table.javaName sig.returns, access, body,
            isStatic } := by
  rw [regular] at h
  split at h
  · cases h
  · rename_i sig hsig
    obtain ⟨params, hparams, h⟩ := bind_eq_ok.1 h
    obtain ⟨⟨body, k⟩, hbody, h⟩ := bind_eq_ok.1 h
    cases h
    exact ⟨sig, params, body, hsig, hparams, hbody, rfl⟩

theorem of_named (h : r.named access s rest = .ok (some m, n)) :
    ∃ name list params body, Signature.callParts? s = some (name, list) ∧
      r.params "void" list = .ok params ∧ r.body rest = .ok (body, n) ∧
      m = { name, params, access, body, isConstructor := true } := by
  rw [named] at h
  split at h
  · cases h
  · rename_i name list hparts
    obtain ⟨params, hparams, h⟩ := bind_eq_ok.1 h
    obtain ⟨⟨body, k⟩, hbody, h⟩ := bind_eq_ok.1 h
    cases h
    exact ⟨name, list, params, body, hparts, hparams, hbody, rfl⟩

theorem of_listed (h : r.listed name access s rest = .ok (some m, n)) :
    ∃ params body, r.params "void" (Text.trim (Text.dropEndWhile (· == ':') s)) = .ok params ∧
      r.body rest = .ok (body, n) ∧
      m = { name, params, access, body := Constructor.assignments params ++ body,
            isConstructor := true } := by
  rw [listed] at h
  obtain ⟨params, hparams, h⟩ := bind_eq_ok.1 h
  obtain ⟨⟨body, k⟩, hbody, h⟩ := bind_eq_ok.1 h
  cases h
  exact ⟨params, body, hparams, hbody, rfl⟩

end MethodReader

namespace Method

/-- The members that have a body. -/
inductive Form
  | member (isStatic : Bool)
  | constructor
  | standalone
  deriving DecidableEq

/-- Reads a method of the given form from line `i` and the lines under it. -/
def readAt (v : Vocabulary) (t? : Option Template) (form : Form) (lines : List Text) (i : Nat) :
    Except Fault (Option Method × Nat) :=
  let line := lines.getD i []
  let rest := lines.drop (i + 1)
  numbered (i + 1) <|
    match form with
    | .member isStatic => read (Body.ofProgram v) t? isStatic line rest
    | .constructor => readConstructor (Body.ofProgram v) t? line rest
    | .standalone => readStandalone (Body.ofProgram v) line rest

variable {v : Vocabulary} {t? : Option Template} {form : Form} {lines : List Text} {m : Method}
  {i n : Nat}

theorem of_onMember {line : Text} {read : Access → Text → Except Fault (Option Method × Nat)}
    (h : onMember line read = .ok (some m, n)) : ∃ access s, read access s = .ok (some m, n) := by
  rw [onMember_eq] at h
  split at h
  · cases h
  · exact ⟨_, _, h⟩

theorem body_of_readAt (h : readAt v t? form lines i = .ok (some m, n)) :
    ∃ entries k, Body.ofProgram v (lines.drop (i + 1)) = .ok (entries, k) ∧ n = i + 1 + k := by
  obtain ⟨k, hr, hn⟩ := numbered_eq_ok.1 h
  cases form with
  | member isStatic =>
    obtain ⟨access, s, hr⟩ := of_onMember hr
    obtain ⟨_, _, entries, -, -, hb, -⟩ := MethodReader.of_regular hr
    exact ⟨entries, k, hb, hn⟩
  | constructor =>
    obtain ⟨access, s, hr⟩ := of_onMember hr
    split at hr
    · obtain ⟨_, entries, -, hb, -⟩ := MethodReader.of_listed hr
      exact ⟨entries, k, hb, hn⟩
    · obtain ⟨_, _, _, entries, -, -, hb, -⟩ := MethodReader.of_named hr
      exact ⟨entries, k, hb, hn⟩
  | standalone =>
    dsimp only at hr
    rw [readStandalone] at hr
    split at hr
    · obtain ⟨_, _, entries, -, -, hb, -⟩ := MethodReader.of_regular hr
      exact ⟨entries, k, hb, hn⟩
    · cases hr

/-- All statements in the body of a method are indented deeper than its first line exactly if the
first statement under that line is, or ends bodies, or there is none. A method without a body takes
the member after it otherwise. -/
theorem taken_deeper_iff (v : Vocabulary) (t? : Option Template) (form : Form) (lines : List Text)
    (i n : Nat) (m : Method) (h : readAt v t? form lines i = .ok (some m, n)) :
    let depth := (lines.getD i []).indent
    (∀ line ∈ Body.code false ((lines.take n).drop (i + 1)), depth < line.indent) ↔
      ∀ line ∈ (Body.code false (lines.drop (i + 1))).head?,
        Body.endsBody v line = true ∨ depth < line.indent := by
  intro depth
  obtain ⟨entries, k, hb, rfl⟩ := body_of_readAt h
  obtain ⟨hhead, hle⟩ := (Body.Reads.of_readFrom hb).first_statement rfl
  rw [List.drop_take, Nat.add_sub_cancel_left]
  constructor
  · intro hd first hf
    cases he : Body.endsBody v first with
    | true => exact .inl rfl
    | false =>
      right
      apply hd
      apply List.mem_of_mem_head?
      rw [hhead, Option.mem_def.1 hf, Option.filter_some, he]
      rfl
  · intro hd line hl
    obtain ⟨first, hf⟩ := Option.isSome_iff_exists.1 (List.isSome_head?.2 (List.ne_nil_of_mem hl))
    rw [hhead, Option.filter_eq_some_iff, Bool.not_eq_true'] at hf
    obtain ⟨hf, he⟩ := hf
    rcases hd first hf with he' | hlt
    · rw [he] at he'
      cases he'
    · exact Nat.lt_of_lt_of_le hlt (hle first hf line hl)

theorem takes_sibling_of_empty :
    let lines : List Text := ["        * f()", "        * g()", "            x()"]
    readAt .standard (some { name := "A" }) (.member false) lines 0 =
        .ok (some { name := "f", access := .pub, body := ["* g();", "x();"] }, 3) ∧
      ¬ ∀ line ∈ Body.code false ((lines.take 3).drop 1), 8 < line.indent := by
  intro lines
  have h : readAt .standard (some { name := "A" }) (.member false) lines 0 =
      .ok (some { name := "f", access := .pub, body := ["* g();", "x();"] }, 3) := rfl
  refine ⟨h, ?_⟩
  intro hd
  have hi := (taken_deeper_iff .standard _ _ lines 0 3 _ h).1 hd
  rcases hi "        * g()" rfl with he | hlt
  · cases he
  · exact absurd hlt (by decide)

end Method

end JavaSketch
