import JavaSketch.Proofs.Progress

namespace JavaSketch.Body

/-- How reading from a line on ends, and the line that it ends at: the one that stops it or that
is refused, or the end of the text. -/
structure Run where
  line : Nat
  outcome : Except Fault (List Text)

def runAt (r : BodyRules) (convert : Text → Except Fault Text) (lines : List Text) (st : State)
    (i : Nat) : Run :=
  if h : i < lines.length then
    match step r convert st lines[i] with
    | .error f => ⟨i, .error f⟩
    | .ok .stop => ⟨i, .ok (closers st.openers)⟩
    | .ok (.emit entries next) =>
      let run := runAt r convert lines next (i + 1)
      { run with outcome := run.outcome.map (entries ++ ·) }
  else ⟨i, .ok (closers st.openers)⟩
termination_by lines.length - i

/-- The lines from `i` to `n` stand in the other text as well, `d` lines further down. -/
def Recurs (d : Nat) (lines other : List Text) (i n : Nat) : Prop :=
  ∀ k, i ≤ k → k ≤ n → other[d + k]? = lines[k]?

variable {r : BodyRules} {convert : Text → Except Fault Text} {st : State}
  {lines other : List Text} {f : Fault} {d i m n : Nat}

theorem Recurs.of_append (before lines : List Text) (i n : Nat) :
    Recurs before.length lines (before ++ lines) i n := by
  intro k _ _
  rw [List.getElem?_append_right (Nat.le_add_right _ _), Nat.add_sub_cancel_left]

theorem le_runAt_line : i ≤ (runAt r convert lines st i).line := by
  fun_induction runAt r convert lines st i with
  | case1 st i hi f hs => exact Nat.le_refl i
  | case2 st i hi hs => exact Nat.le_refl i
  | case3 st i hi entries next hs run ih => exact Nat.le_of_succ_le ih
  | case4 st i hi => exact Nat.le_refl i

theorem runAt_line_lt (h : (runAt r convert lines st i).outcome = .error f) :
    (runAt r convert lines st i).line < lines.length := by
  fun_induction runAt r convert lines st i with
  | case1 st i hi f hs => exact hi
  | case2 st i hi hs => cases h
  | case3 st i hi entries next hs run ih =>
    apply ih
    cases ho : run.outcome with
    | error g =>
      rw [ho] at h
      cases h
      rfl
    | ok body =>
      rw [ho] at h
      cases h
  | case4 st i hi => cases h

theorem numbered_succ (i : Nat) (g : List Text → List Text) (x : Except Fault (List Text × Nat)) :
    numbered i (x.map fun res => (g res.1, res.2 + 1)) =
      (numbered (i + 1) x).map fun res => (g res.1, res.2) := by
  cases x with
  | error f => rfl
  | ok res =>
    have h : i + (res.2 + 1) = i + 1 + res.2 := by omega
    exact congrArg (fun n => Except.ok (g res.1, n)) h

/-- The loop gives what the reader gives on the lines from `i` on. -/
theorem numbered_readFrom : numbered i (readFrom r convert st (lines.drop i)) =
    (runAt r convert lines st i).outcome.map (·, (runAt r convert lines st i).line) := by
  fun_induction runAt r convert lines st i with
  | case1 st i hi f hs =>
    rw [List.drop_eq_getElem_cons hi, readFrom, hs]
    rfl
  | case2 st i hi hs =>
    rw [List.drop_eq_getElem_cons hi, readFrom_stop hs]
    rfl
  | case3 st i hi entries next hs run ih =>
    rw [List.drop_eq_getElem_cons hi, readFrom_emit hs, numbered_succ, ih]
    cases run.outcome with
    | error f => rfl
    | ok body => rfl
  | case4 st i hi =>
    rw [List.drop_eq_nil_of_le (Nat.le_of_not_lt hi), readFrom_end]
    rfl

theorem getElem_of_getElem? {j : Nat} (h : other[j]? = lines[i]?) (hi : i < lines.length) :
    ∃ hj : j < other.length, other[j] = lines[i] := by
  rw [List.getElem?_eq_getElem hi] at h
  exact List.getElem?_eq_some_iff.1 h

theorem runAt_of_recurs (h : Recurs d lines other i (runAt r convert lines st i).line) :
    runAt r convert other st (d + i) =
      ⟨d + (runAt r convert lines st i).line, (runAt r convert lines st i).outcome⟩ := by
  have hi := h i (Nat.le_refl i) le_runAt_line
  fun_induction runAt r convert lines st i with
  | case1 st i hl f hs =>
    obtain ⟨ho, he⟩ := getElem_of_getElem? hi hl
    rw [runAt, dif_pos ho, he, hs]
  | case2 st i hl hs =>
    obtain ⟨ho, he⟩ := getElem_of_getElem? hi hl
    rw [runAt, dif_pos ho, he, hs]
  | case3 st i hl entries next hs run ih =>
    obtain ⟨ho, he⟩ := getElem_of_getElem? hi hl
    have ht : Recurs d lines other (i + 1) run.line := by
      intro k hk hn
      exact h k (Nat.le_of_succ_le hk) hn
    have hn := ih ht (ht (i + 1) (Nat.le_refl _) le_runAt_line)
    rw [← Nat.add_assoc] at hn
    rw [runAt, dif_pos ho, he, hs]
    dsimp only
    rw [hn]
  | case4 st i hl =>
    rw [List.getElem?_eq_none_iff.2 (Nat.le_of_not_lt hl), List.getElem?_eq_none_iff] at hi
    rw [runAt, dif_neg (Nat.not_lt_of_le hi)]

/-- Bodies by line numbers. -/
def readAt (v : Vocabulary) (lines : List Text) (i : Nat) : Except Fault (List Text × Nat) :=
  numbered i (ofProgram v (lines.drop i))

/-- The loop that reads a body from line `i` on. -/
def loopAt (v : Vocabulary) (lines : List Text) (i : Nat) : Run :=
  runAt (.current v) (Statement.convert .current) lines {} i

variable {v : Vocabulary} {body : List Text} {x : Except Fault (List Text)}

theorem readAt_of_loopAt (h : loopAt v lines i = ⟨n, x⟩) : readAt v lines i = x.map (·, n) := by
  rw [readAt, ofProgram, read, numbered_readFrom, ← loopAt, h]

theorem loopAt_of_ok (h : readAt v lines i = .ok (body, n)) : loopAt v lines i = ⟨n, .ok body⟩ := by
  cases hl : loopAt v lines i with
  | mk line outcome =>
    rw [readAt_of_loopAt hl] at h
    cases outcome with
    | error f => cases h
    | ok res =>
      cases h
      rfl

theorem loopAt_of_error (h : readAt v lines i = .error f) :
    ∃ m, m < lines.length ∧ loopAt v lines i = ⟨m, .error f⟩ := by
  cases hl : loopAt v lines i with
  | mk line outcome =>
    rw [readAt_of_loopAt hl] at h
    cases outcome with
    | error g =>
      cases h
      have hlt := runAt_line_lt (congrArg Run.outcome hl)
      rw [← loopAt, hl] at hlt
      exact ⟨line, hlt, rfl⟩
    | ok res => cases h

theorem loopAt_of_recurs (hl : loopAt v lines i = ⟨n, x⟩) (h : Recurs d lines other i n) :
    loopAt v other (d + i) = ⟨d + n, x⟩ := by
  have hn : (runAt (.current v) (Statement.convert .current) lines {} i).line = n := by
    rw [← loopAt, hl]
  have ho := runAt_of_recurs (hn ▸ h)
  rw [← loopAt, ← loopAt, hl] at ho
  exact ho

theorem loopAt_of_same (hl : loopAt v lines i = ⟨n, x⟩)
    (h : ∀ k, i ≤ k → k ≤ n → other[k]? = lines[k]?) : loopAt v other i = ⟨n, x⟩ := by
  have hr : Recurs 0 lines other i n := by
    intro k hi hn
    rw [Nat.zero_add]
    exact h k hi hn
  have ho := loopAt_of_recurs hl hr
  rw [Nat.zero_add, Nat.zero_add] at ho
  exact ho

/-- A body depends on its own lines and on the line that ends it. It is the same behind any other
text, and in any text that has the same lines from its first one to the one at which reading ends;
a refusal at a line stays the same in any text that has the same lines up to that one. -/
theorem readAt_local (v : Vocabulary) (lines : List Text) (i : Nat) :
    (∀ body n, readAt v lines i = .ok (body, n) →
      (∀ before, readAt v (before ++ lines) (before.length + i) = .ok (body, before.length + n)) ∧
      ∀ other, (∀ k, i ≤ k → k ≤ n → other[k]? = lines[k]?) →
        readAt v other i = .ok (body, n)) ∧
    (∀ f, readAt v lines i = .error f ↔
      ∃ m, m < lines.length ∧ loopAt v lines i = ⟨m, .error f⟩) ∧
    ∀ m f, loopAt v lines i = ⟨m, .error f⟩ →
      ∀ other, (∀ k, i ≤ k → k ≤ m → other[k]? = lines[k]?) →
        loopAt v other i = ⟨m, .error f⟩ ∧ readAt v other i = .error f := by
  refine ⟨?_, ?_, ?_⟩
  · intro body n h
    have hl := loopAt_of_ok h
    constructor
    · intro before
      exact readAt_of_loopAt (loopAt_of_recurs hl (.of_append before lines i n))
    · intro other ho
      exact readAt_of_loopAt (loopAt_of_same hl ho)
  · intro f
    constructor
    · exact loopAt_of_error
    · rintro ⟨m, _, hl⟩
      exact readAt_of_loopAt hl
  · intro m f hl other ho
    have h := loopAt_of_same hl ho
    exact ⟨h, readAt_of_loopAt h⟩

theorem readAt_local_of_chain :
    let lines : List Text := ["main", "    if a:", "        x()", "template B", "    var y"]
    let body : List Text := ["if (a) \x7b", "x();", "\x7d"]
    readAt .standard lines 1 = .ok (body, 3) ∧
      readAt .standard ("program P" :: lines) 2 = .ok (body, 4) ∧
      readAt .standard ["z()", "    if a:", "        x()", "template B"] 1 = .ok (body, 3) ∧
      readAt .standard ["", "", "", "", "    var y", "    z()"] 4 =
        .error (.uninitialized "var y" false) := by
  intro lines body
  obtain ⟨h, _, _⟩ := readAt_local .standard lines 1
  obtain ⟨hb, ho⟩ := h body 3 rfl
  obtain ⟨_, he, hf⟩ := readAt_local .standard lines 4
  obtain ⟨m, hm, hl⟩ := (he (.uninitialized "var y" false)).1 rfl
  refine ⟨rfl, hb ["program P"], ho _ ?_, (hf m _ hl _ ?_).2⟩
  · intro k h₁ h₃
    have hk : k = 1 ∨ k = 2 ∨ k = 3 := by omega
    rcases hk with rfl | rfl | rfl <;> rfl
  · intro k h₄ hk
    have hm' : m < 5 := hm
    have hk : k = 4 := by omega
    rw [hk]
    rfl

end JavaSketch.Body
