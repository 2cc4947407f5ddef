import JavaSketch.Proofs.BodyStep
import JavaSketch.Statement.Convert

namespace JavaSketch.Body

/-- What an entry of a body stands for: a line, or the end of the block that a line opens. -/
inductive Mark
  | line (k : Nat)
  | close (j : Nat)
  deriving DecidableEq

namespace Mark

def line? : Mark → Option Nat
  | line k => some k
  | close _ => none

def text (java : Nat → Text) : Mark → Text
  | line k => java k
  | close _ => "\x7d"

/-- Follows the open blocks along the marks; a block ends only while it is the innermost one. -/
def replay (opens : Nat → Bool) : List Nat → List Mark → Option (List Nat)
  | stack, [] => some stack
  | stack, line k :: marks => replay opens (if opens k then k :: stack else stack) marks
  | [], close _ :: _ => none
  | j :: stack, close k :: marks => if k = j then replay opens stack marks else none

/-- The end of the block of line `j` stands right before the entry of the line `k?`, or behind
every line if there is none; only ends of other blocks come between. -/
def ClosesBefore (marks : List Mark) (j : Nat) (k? : Option Nat) : Prop :=
  ∃ (before : List Mark) (ends : List Nat) (after : List Mark),
    marks = before ++ close j :: ends.map close ++ after ∧ after.head? = k?.map line

end Mark

/-- The marks of `n` lines from line `i` on, given which of them are statements, which ones open
blocks, and how deep they are indented; the blocks of the lines on the stack are open. -/
def Mark.layout (stated opens : Nat → Bool) (indent : Nat → Nat) :
    List Nat → Nat → Nat → List Mark
  | stack, _, 0 => stack.map close
  | stack, i, n + 1 =>
    if stated i then
      let inside := stack.dropWhile fun j => indent i ≤ indent j
      (stack.takeWhile fun j => indent i ≤ indent j).map close ++
        line i :: layout stated opens indent (if opens i then i :: inside else inside) (i + 1) n
    else line i :: layout stated opens indent stack (i + 1) n

def lineAt (lines : List Text) (k : Nat) : Text := lines.getD k []

def indentAt (lines : List Text) (k : Nat) : Nat := (lineAt lines k).indent

def javaAt (convert : Text → Except Fault Text) (lines : List Text) (k : Nat) : Text :=
  match entry convert (lineAt lines k) with
  | .ok java => java
  | .error _ => []

/-- The lines that open a block: statements whose entry ends in a brace. -/
def opensAt (convert : Text → Except Fault Text) (lines : List Text) (k : Nat) : Bool :=
  isStatement (lineAt lines k) && (javaAt convert lines k).endsWith "\x7b"

def layoutAt (convert : Text → Except Fault Text) (lines : List Text) :
    List Nat → Nat → Nat → List Mark :=
  Mark.layout (fun k => isStatement (lineAt lines k)) (opensAt convert lines) (indentAt lines)

/-- The first of `n` lines from `i` on that is a statement and not indented deeper than `d`. -/
def dedent? (lines : List Text) (d i n : Nat) : Option Nat :=
  (List.range' i n).find? fun k => isStatement (lineAt lines k) && decide (indentAt lines k ≤ d)

/-- Marks for a body of `n` lines from line `i` on, read while the blocks of the lines on the
stack are open. -/
structure Accounts (convert : Text → Except Fault Text) (lines : List Text) (i n : Nat)
    (stack : List Nat) (body : List Text) (marks : List Mark) : Prop where
  entries : ∀ k, i ≤ k → k < i + n → entry convert (lineAt lines k) = .ok (javaAt convert lines k)
  texts : body = marks.map (Mark.text (javaAt convert lines))
  in_order : marks.filterMap Mark.line? = List.range' i n
  nested : Mark.replay (opensAt convert lines) stack marks = some []
  place : ∀ j, i ≤ j → j < i + n → opensAt convert lines j = true →
    Mark.ClosesBefore marks j (dedent? lines (indentAt lines j) (j + 1) (i + n - (j + 1)))
  pending : ∀ j ∈ stack, Mark.ClosesBefore marks j (dedent? lines (indentAt lines j) i n)

namespace Mark

variable {opens : Nat → Bool} {marks : List Mark} {stack out : List Nat} {j : Nat}
  {k? : Option Nat}

theorem ClosesBefore.append_left (before : List Mark) (h : ClosesBefore marks j k?) :
    ClosesBefore (before ++ marks) j k? := by
  obtain ⟨pre, ends, after, he, hk⟩ := h
  refine ⟨before ++ pre, ends, after, ?_, hk⟩
  rw [he]
  simp only [List.append_assoc]

theorem closesBefore_of_mem (hj : j ∈ out) (hk : marks.head? = k?.map line) :
    ClosesBefore (out.map close ++ marks) j k? := by
  obtain ⟨s, t, he⟩ := List.append_of_mem hj
  refine ⟨s.map close, t, marks, ?_, hk⟩
  rw [he, List.map_append, List.map_cons]

theorem replay_close (opens : Nat → Bool) (out stack : List Nat) (marks : List Mark) :
    replay opens (out ++ stack) (out.map close ++ marks) = replay opens stack marks := by
  induction out with
  | nil => rfl
  | cons j out ih =>
    rw [List.cons_append, List.map_cons, List.cons_append, replay, if_pos rfl, ih]

theorem filterMap_line?_close (out : List Nat) : (out.map close).filterMap line? = [] := by
  rw [List.filterMap_map]
  exact List.filterMap_eq_nil_iff.2 fun _ _ => rfl

theorem count_line_line (k j : Nat) (marks : List Mark) :
    (line k :: marks).count (line j) = marks.count (line j) + if k = j then 1 else 0 := by
  simp only [List.count_cons, beq_iff_eq, line.injEq]

theorem count_close_close (k j : Nat) (marks : List Mark) :
    (close k :: marks).count (close j) = marks.count (close j) + if k = j then 1 else 0 := by
  simp only [List.count_cons, beq_iff_eq, close.injEq]

theorem count_line_eq (j : Nat) (marks : List Mark) :
    marks.count (line j) = (marks.filterMap line?).count j := by
  induction marks with
  | nil => rfl
  | cons m marks ih =>
    cases m with
    | line k =>
      rw [count_line_line, ih, List.filterMap_cons_some (f := line?) rfl, List.count_cons]
      simp only [beq_iff_eq]
    | close k =>
      rw [List.filterMap_cons_none rfl, ← ih]
      exact List.count_cons_of_ne (by simp)

theorem count_replay (h : replay opens stack marks = some out) (j : Nat) :
    stack.count j + (if opens j then marks.count (line j) else 0) =
      out.count j + marks.count (close j) := by
  induction marks generalizing stack with
  | nil =>
    cases h
    simp only [List.count_nil, ite_self]
  | cons m marks ih =>
    cases m with
    | line k =>
      have hi := ih h
      have hc : (line k :: marks).count (close j) = marks.count (close j) :=
        List.count_cons_of_ne (by simp)
      rw [hc, count_line_line, ← hi]
      by_cases hk : k = j
      · subst hk
        cases ho : opens k
        · simp only [Bool.false_eq_true, ↓reduceIte]
        · simp only [↓reduceIte, List.count_cons_self]
          omega
      · cases ho : opens k <;>
          simp only [Bool.false_eq_true, ↓reduceIte, hk, Nat.add_zero, List.count_cons_of_ne, ne_eq,
            not_false_eq_true]
    | close k =>
      cases stack with
      | nil => cases h
      | cons i stack =>
        rw [replay] at h
        split at h
        · rename_i hk
          subst hk
          have hi := ih h
          have hl : (close k :: marks).count (line j) = marks.count (line j) :=
            List.count_cons_of_ne (by simp)
          have hs : (k :: stack).count j = stack.count j + if k = j then 1 else 0 := by
            simp only [List.count_cons, beq_iff_eq]
          rw [hl, hs, count_close_close]
          omega
        · cases h

end Mark

variable {v : Vocabulary} {convert : Text → Except Fault Text} {st : State} {lines body : List Text}
  {line java : Text} {marks : List Mark} {stack out inside : List Nat} {i j d n : Nat}

theorem closers_map (f : Nat → Nat) (g : Nat → Text) (out : List Nat) :
    closers (out.map f) = (out.map Mark.close).map (Mark.text g) := by
  rw [closers, List.map_map, List.map_map]
  rfl

theorem dedent?_succ_of_leaves (hs : isStatement (lineAt lines i) = true)
    (hd : indentAt lines i ≤ d) : dedent? lines d i (n + 1) = some i := by
  rw [dedent?, List.range'_succ, List.find?_cons_of_pos]
  simp only [hs, hd, decide_true, Bool.and_self]

theorem dedent?_succ_of_stays
    (h : isStatement (lineAt lines i) = true → d < indentAt lines i) :
    dedent? lines d i (n + 1) = dedent? lines d (i + 1) n := by
  rw [dedent?, List.range'_succ, List.find?_cons_of_neg]
  · rfl
  · intro hi
    obtain ⟨hs, hd⟩ := Bool.and_eq_true_iff.1 hi
    exact Nat.not_lt_of_ge (of_decide_eq_true hd) (h hs)

namespace Accounts

theorem finish (convert : Text → Except Fault Text) (lines : List Text) (i : Nat)
    (stack : List Nat) :
    Accounts convert lines i 0 stack (closers (stack.map (indentAt lines)))
      (stack.map .close) where
  entries := by
    intro k hi hk
    omega
  texts := closers_map _ _ _
  in_order := Mark.filterMap_line?_close stack
  nested := by
    have h := Mark.replay_close (opensAt convert lines) stack [] []
    rw [List.append_nil, List.append_nil] at h
    exact h
  place := by
    intro j hi hj
    omega
  pending := by
    intro j hj
    have h : Mark.ClosesBefore (stack.map .close ++ []) j none := Mark.closesBefore_of_mem hj rfl
    rw [List.append_nil] at h
    exact h

theorem pass (hs : isStatement (lineAt lines i) = false)
    (he : entry convert (lineAt lines i) = .ok (javaAt convert lines i))
    (h : Accounts convert lines (i + 1) n stack body marks) :
    Accounts convert lines i (n + 1) stack (javaAt convert lines i :: body)
      (.line i :: marks) where
  entries := by
    intro k hi hk
    rcases Nat.eq_or_lt_of_le hi with rfl | hi
    · exact he
    · exact h.entries k hi (by omega)
  texts := by
    rw [h.texts]
    rfl
  in_order := by
    rw [List.range'_succ, ← h.in_order]
    rfl
  nested := by
    have ho : opensAt convert lines i = false := by rw [opensAt, hs, Bool.false_and]
    rw [Mark.replay, ho]
    exact h.nested
  place := by
    intro j hi hj ho
    rcases Nat.eq_or_lt_of_le hi with rfl | hi
    · rw [opensAt, hs, Bool.false_and] at ho
      cases ho
    · rw [show i + (n + 1) - (j + 1) = i + 1 + n - (j + 1) by omega]
      exact (h.place j hi (by omega) ho).append_left [.line i]
  pending := by
    intro j hj
    rw [dedent?_succ_of_stays (fun h => by rw [hs] at h; cases h)]
    exact (h.pending j hj).append_left [.line i]

/-- A statement closes the blocks that it is not inside of, and may open one. -/
theorem enter (hs : isStatement (lineAt lines i) = true)
    (he : entry convert (lineAt lines i) = .ok (javaAt convert lines i))
    (hout : ∀ j ∈ out, indentAt lines i ≤ indentAt lines j)
    (hin : ∀ j ∈ inside, indentAt lines j < indentAt lines i)
    (h : Accounts convert lines (i + 1) n
      (if opensAt convert lines i then i :: inside else inside) body marks) :
    Accounts convert lines i (n + 1) (out ++ inside)
      (closers (out.map (indentAt lines)) ++ [javaAt convert lines i] ++ body)
      (out.map .close ++ .line i :: marks) where
  entries := by
    intro k hi hk
    rcases Nat.eq_or_lt_of_le hi with rfl | hi
    · exact he
    · exact h.entries k hi (by omega)
  texts := by
    rw [h.texts, closers_map _ (javaAt convert lines), List.map_append, List.append_assoc]
    rfl
  in_order := by
    rw [List.filterMap_append, Mark.filterMap_line?_close, List.range'_succ, ← h.in_order]
    rfl
  nested := by
    rw [Mark.replay_close, Mark.replay]
    exact h.nested
  place := by
    intro j hi hj ho
    rcases Nat.eq_or_lt_of_le hi with rfl | hi
    · have hp := h.pending i (by rw [ho]; exact List.mem_cons_self)
      rw [show i + (n + 1) - (i + 1) = n by omega]
      exact (hp.append_left [.line i]).append_left _
    · rw [show i + (n + 1) - (j + 1) = i + 1 + n - (j + 1) by omega]
      exact ((h.place j hi (by omega) ho).append_left [.line i]).append_left _
  pending := by
    intro j hj
    rcases List.mem_append.1 hj with hj | hj
    · rw [dedent?_succ_of_leaves hs (hout j hj)]
      exact Mark.closesBefore_of_mem hj rfl
    · rw [dedent?_succ_of_stays (fun _ => hin j hj)]
      have hm : j ∈ if opensAt convert lines i then i :: inside else inside := by
        split
        · exact List.mem_cons_of_mem _ hj
        · exact hj
      exact ((h.pending j hm).append_left [.line i]).append_left _

end Accounts

/-- The state of a reader outside comments, with the lines whose blocks are open, the innermost
first; a block inside another one is indented deeper. -/
structure Tracks (lines : List Text) (st : State) (stack : List Nat) : Prop where
  outside : st.inComment = false
  openers : st.openers = stack.map (indentAt lines)
  deeper : st.openers.Pairwise (· > ·)

theorem lt_of_mem_dropWhile {l : List Nat} (hl : l.Pairwise (· > ·))
    (hd : d ∈ l.dropWhile (n ≤ ·)) : d < n := by
  induction l with
  | nil => cases hd
  | cons c l ih =>
    obtain ⟨hc, hl⟩ := List.pairwise_cons.1 hl
    by_cases hn : n ≤ c
    · rw [List.dropWhile_cons_of_pos (by simpa using hn)] at hd
      exact ih hl hd
    · rw [List.dropWhile_cons_of_neg (by simpa using hn)] at hd
      rcases List.mem_cons.1 hd with rfl | hd
      · exact Nat.lt_of_not_ge hn
      · exact (hc d hd).trans (Nat.lt_of_not_ge hn)

/-- The blocks around a line are those that its indentation is inside of; it ends the others. -/
def around (lines : List Text) (i : Nat) (stack : List Nat) : List Nat :=
  stack.dropWhile fun j => indentAt lines i ≤ indentAt lines j

def endedBy (lines : List Text) (i : Nat) (stack : List Nat) : List Nat :=
  stack.takeWhile fun j => indentAt lines i ≤ indentAt lines j

theorem le_of_mem_endedBy (hj : j ∈ endedBy lines i stack) :
    indentAt lines i ≤ indentAt lines j :=
  of_decide_eq_true (List.all_eq_true.1 List.all_takeWhile j hj)

namespace Tracks

variable (h : Tracks lines st stack)
include h

theorem dropWhile_eq (i : Nat) : st.openers.dropWhile (indentAt lines i ≤ ·) =
    (around lines i stack).map (indentAt lines) := by
  rw [h.openers, List.dropWhile_map]
  rfl

theorem takeWhile_eq (i : Nat) : st.openers.takeWhile (indentAt lines i ≤ ·) =
    (endedBy lines i stack).map (indentAt lines) := by
  rw [h.openers, List.takeWhile_map]
  rfl

theorem lt_of_mem_around (hj : j ∈ around lines i stack) : indentAt lines j < indentAt lines i := by
  apply lt_of_mem_dropWhile h.deeper
  rw [h.dropWhile_eq i]
  exact List.mem_map_of_mem hj

theorem enter (i : Nat) (java : Text) :
    Tracks lines (st.enter (lineAt lines i) java)
      (if java.endsWith "\x7b" then i :: around lines i stack else around lines i stack) where
  outside := h.outside
  openers := by
    have hd := h.dropWhile_eq i
    rw [indentAt] at hd
    rw [enter_openers, hd]
    split
    · rfl
    · rfl
  deeper := by
    have hd := h.deeper.sublist (List.dropWhile_sublist (indentAt lines i ≤ ·))
    rw [enter_openers]
    split
    · exact List.pairwise_cons.2 ⟨fun _ hc => lt_of_mem_dropWhile h.deeper hc, hd⟩
    · exact hd

end Tracks

theorem layoutAt_pass (hs : isStatement (lineAt lines i) = false) :
    layoutAt convert lines stack i (n + 1) = .line i :: layoutAt convert lines stack (i + 1) n := by
  rw [layoutAt, Mark.layout, if_neg (Bool.eq_false_iff.1 hs)]

theorem layoutAt_enter (hs : isStatement (lineAt lines i) = true) :
    layoutAt convert lines stack i (n + 1) =
      (endedBy lines i stack).map .close ++ .line i :: layoutAt convert lines
        (if opensAt convert lines i then i :: around lines i stack else around lines i stack)
        (i + 1) n := by
  rw [layoutAt, Mark.layout, if_pos hs]
  rfl

/-- Whatever blocks are open, the rest of a body accounts for its lines and closes them all. -/
theorem readFrom_layout (hq : ∀ line ∈ lines, line.includes tripleQuote = false)
    (ht : Tracks lines st stack)
    (h : readFrom (.current v) convert st (lines.drop i) = .ok (body, n)) :
    Accounts convert lines i n stack body (layoutAt convert lines stack i n) := by
  induction hl : lines.drop i generalizing i st stack body n with
  | nil =>
    rw [hl] at h
    obtain ⟨rfl, rfl⟩ := readFrom_nil h
    rw [ht.openers]
    exact .finish ..
  | cons line rest ih =>
    rw [hl] at h
    have hget : lines[i]? = some line := by
      rw [← List.head?_drop, hl]
      rfl
    have hline : lineAt lines i = line := by
      rw [lineAt, List.getD_eq_getElem?_getD, hget]
      rfl
    have hrest : lines.drop (i + 1) = rest := by
      rw [← List.tail_drop, hl]
      rfl
    rcases readFrom_cons h with ⟨_, rfl, rfl⟩ | ⟨entries, next, tail, m, hs, hr, rfl, rfl⟩
    · rw [ht.openers]
      exact .finish ..
    · obtain ⟨java, hj, hc⟩ := step_current (hq line (List.mem_of_getElem? hget)) ht.outside hs
      subst hline
      have he : javaAt convert lines i = java := by rw [javaAt, hj]
      subst he
      rw [← hrest] at hr
      rcases hc with ⟨hi, rfl, rfl⟩ | ⟨hi, rfl, rfl⟩
      · rw [layoutAt_pass hi]
        exact (ih ht hr hrest).pass hi hj
      · have hm := ih (ht.enter i _) hr hrest
        have ho : opensAt convert lines i = (javaAt convert lines i).endsWith "\x7b" := by
          rw [opensAt, hi, Bool.true_and]
        rw [← ho] at hm
        have hle : ∀ j ∈ endedBy lines i stack, indentAt lines i ≤ indentAt lines j :=
          fun j hj => le_of_mem_endedBy hj
        have ha := hm.enter hi hj hle fun j hj => ht.lt_of_mem_around hj
        have happ : endedBy lines i stack ++ around lines i stack = stack :=
          List.takeWhile_append_dropWhile
        rw [happ] at ha
        rw [layoutAt_enter hi, ← indentAt, ht.takeWhile_eq i]
        exact ha

theorem readFrom_accounts (hq : ∀ line ∈ lines, line.includes tripleQuote = false)
    (ht : Tracks lines st stack)
    (h : readFrom (.current v) convert st (lines.drop i) = .ok (body, n)) :
    ∃ marks, Accounts convert lines i n stack body marks :=
  ⟨_, readFrom_layout hq ht h⟩

theorem Accounts.count_close (h : Accounts convert lines i n [] body marks) (j : Nat) :
    marks.count (.close j) =
      if i ≤ j ∧ j < i + n ∧ opensAt convert lines j = true then 1 else 0 := by
  have hc := Mark.count_replay h.nested j
  have hl : marks.count (.line j) = if i ≤ j ∧ j < i + n then 1 else 0 := by
    rw [Mark.count_line_eq, h.in_order, List.count_range_1']
  rw [hl, List.count_nil, Nat.zero_add, Nat.zero_add] at hc
  rw [← hc]
  by_cases ho : opensAt convert lines j = true
  · simp only [ho, ↓reduceIte, and_true]
  · simp only [ho, Bool.false_eq_true, ↓reduceIte, and_false]

/-- The end of every block that a line opens is in the body once, the ends nest, and each stands
right before the first later statement that is not indented deeper than the line; without the
ends, the body has one entry for each line, in the order of the lines. -/
theorem read_closes_blocks (v : Vocabulary) (lines : List Text) (start : Nat)
    (hq : ∀ line ∈ lines, line.includes tripleQuote = false)
    (h : read (.current v) (Statement.convert .current) (lines.drop start) = .ok (body, n)) :
    n ≤ lines.length - start ∧
      ∃ marks, Accounts (Statement.convert .current) lines start n [] body marks ∧
        ∀ j, marks.count (.close j) =
          if start ≤ j ∧ j < start + n ∧ opensAt (Statement.convert .current) lines j = true
          then 1 else 0 := by
  have ht : Tracks lines {} [] := ⟨rfl, rfl, List.Pairwise.nil⟩
  obtain ⟨marks, hm⟩ := readFrom_accounts hq ht h
  refine ⟨?_, marks, hm, hm.count_close⟩
  rw [← List.length_drop]
  exact readFrom_le h

theorem read_closes_nested_blocks :
    ∃ marks, Accounts (Statement.convert .current)
        ["main", "    for x in xs:", "        if x > 1:", "            use(x)", "", "    done()"]
        1 5 []
        ["for (var x : xs) \x7b", "if (x > 1) \x7b", "use(x);", "", "\x7d", "\x7d", "done();"]
        marks ∧ marks.count (.close 1) = 1 ∧ marks.count (.close 3) = 0 := by
  obtain ⟨_, marks, hm, hc⟩ := read_closes_blocks .standard
    ["main", "    for x in xs:", "        if x > 1:", "            use(x)", "", "    done()"] 1
    (by decide) rfl
  exact ⟨marks, hm, hc 1, hc 3⟩

end JavaSketch.Body
