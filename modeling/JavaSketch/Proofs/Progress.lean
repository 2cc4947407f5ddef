import JavaSketch.Proofs.Consumption

namespace JavaSketch

variable {α β : Type}

/-- Goes on with the value of an outcome; `none` stands for a loop that has not ended. -/
def andThen (x : Option (Except Fault α)) (f : α → Option (Except Fault β)) :
    Option (Except Fault β) :=
  match x with
  | none => none
  | some (.error e) => some (.error e)
  | some (.ok a) => f a

/-- Turns a number of lines that are taken from line `i` on into the number of the next line. -/
def numbered (i : Nat) (x : Except Fault (α × Nat)) : Except Fault (α × Nat) :=
  x.map fun res => (res.1, i + res.2)

theorem numbered_bind (i k : Nat) (x : Except Fault (α × Nat)) :
    numbered i (x >>= fun res => .ok (res.1, res.2 + k)) = numbered (i + k) x := by
  cases x with
  | error e => rfl
  | ok res =>
    have h : i + (res.2 + k) = i + k + res.2 := by omega
    exact congrArg (fun n => Except.ok (res.1, n)) h

theorem numbered_numbered (i j : Nat) (x : Except Fault (α × Nat)) :
    numbered i (numbered j x) = numbered (i + j) x := by
  cases x with
  | error f => rfl
  | ok res => exact congrArg (fun n => Except.ok (res.1, n)) (Nat.add_assoc i j res.2).symm

theorem numbered_zero (x : Except Fault (α × Nat)) : numbered 0 x = x := by
  cases x with
  | error f => rfl
  | ok res => exact congrArg (fun n => Except.ok (res.1, n)) (Nat.zero_add res.2)

theorem bind_add_eq_numbered (k : Nat) (x : Except Fault (α × Nat)) :
    (x >>= fun res => .ok (res.1, res.2 + k)) = numbered k x := by
  rw [← numbered_zero (x >>= _), numbered_bind, Nat.zero_add]

theorem numbered_eq_ok {x : Except Fault (α × Nat)} {a : α} {i n : Nat} :
    numbered i x = .ok (a, n) ↔ ∃ m, x = .ok (a, m) ∧ n = i + m := by
  constructor
  · intro h
    cases x with
    | error f => cases h
    | ok res =>
      cases h
      exact ⟨res.2, rfl, rfl⟩
  · rintro ⟨m, rfl, rfl⟩
    rfl

theorem drop_of_getElem? {lines : List Text} {i : Nat} {line : Text}
    (h : lines[i]? = some line) : lines.drop i = line :: lines.drop (i + 1) := by
  obtain ⟨hi, rfl⟩ := List.getElem?_eq_some_iff.1 h
  exact List.drop_eq_getElem_cons hi

/-- Line `i` of a text. -/
def lineOf (lines : List Text) (i : Nat) : Except Fault Text :=
  match lines[i]? with
  | some line => .ok line
  | none => .error .noLine

theorem lineOf_eq {lines : List Text} {i : Nat} {line : Text} (h : lines[i]? = some line) :
    lineOf lines i = .ok line := by
  rw [lineOf, h]

theorem drop_of_getElem?_none {lines : List Text} {i : Nat} (h : lines[i]? = none) :
    lines.drop i = [] :=
  List.drop_eq_nil_of_le (List.getElem?_eq_none_iff.1 h)

/-- A reader that is called at line `i` goes on with a later line of the text or with its end, or
it refuses the text and says why. -/
def Advances (lines : List Text) (i : Nat) (x : Except Fault (α × Nat)) : Prop :=
  Yields x fun res => i < res.2 ∧ res.2 ≤ lines.length

theorem Advances.of_rest {lines : List Text} {i : Nat} {x : Except Fault (α × Nat)}
    (hi : i < lines.length) (h : Yields x fun res => res.2 ≤ (lines.drop (i + 1)).length) :
    Advances lines i (numbered (i + 1) x) := by
  refine h.map fun res hres => ?_
  rw [List.length_drop] at hres
  constructor
  · omega
  · omega

namespace Template

variable {v : Vocabulary} {word line : Text} {lines : List Text} {t : Template}
  {heading : Option Text} {i fuel : Nat}

/-- Reads the member on line `i`. A main part is read from line `i` itself, and every other member
from the line after it. -/
def memberAt (r : TemplateRules) (lines : List Text) (t : Template) (heading : Option Text)
    (i : Nat) : Except Fault (Template × Nat) := do
  let line ← lineOf lines i
  if r.kind? heading line.indent = some .main then
    (numbered i (r.body (lines.drop i))).map fun res =>
      ({ t with staticMethods := t.staticMethods ++ [mainMethod res.1] }, res.2)
  else numbered (i + 1) (readMember r t heading line (lines.drop (i + 1)))

/-- Takes the lines of a template from line `i` on, in at most the given number of turns. -/
def turns (r : TemplateRules) (lines : List Text) :
    Nat → Template → Option Text → Nat → Option (Except Fault (Template × Nat))
  | 0, _, _, _ => none
  | fuel + 1, t, heading, i =>
    match lines[i]? with
    | none => some (.ok (t, i))
    | some line =>
      let s := line.trim
      if isIdle s then turns r lines fuel t heading (i + 1)
      else
        andThen (some (r.ends line s)) fun ends =>
          if ends then some (.ok (t, i))
          else
            match r.heading? line s with
            | some name => turns r lines fuel t (some name) (i + 1)
            | none =>
              andThen (some (memberAt r lines t heading i)) fun res =>
                turns r lines fuel res.1 heading res.2

theorem indent_of_main {k : Nat}
    (h : (TemplateRules.current v word).kind? heading k = some .main) : 8 ≤ k := by
  simp only [TemplateRules.current] at h
  split at h
  · split at h
    · cases h
    · omega
  · cases h

/-- The main part takes the line that it is read from. -/
theorem memberAt_eq (hl : lines[i]? = some line) :
    memberAt (.current v word) lines t heading i =
      numbered (i + 1) (readMember (.current v word) t heading line (lines.drop (i + 1))) := by
  rw [memberAt, lineOf_eq hl]
  simp only [bind, Except.bind]
  split
  · rename_i hk
    rw [readMember, hk, drop_of_getElem? hl]
    cases hb : Body.ofProgram v (line :: lines.drop (i + 1)) with
    | error f =>
      have hb' : (TemplateRules.current v word).body (line :: lines.drop (i + 1)) = .error f := hb
      rw [hb']
      rfl
    | ok res =>
      have hb' : (TemplateRules.current v word).body (line :: lines.drop (i + 1)) = .ok res := hb
      have hpos := Body.ofProgram_pos (indent_of_main hk) hb
      have hn : i + res.2 = i + 1 + (res.2 - 1) := by omega
      rw [hb']
      exact congrArg (fun n => Except.ok (_, n)) hn
  · rfl

theorem memberAt_advances (hi : i < lines.length) :
    Advances lines i (memberAt (.current v word) lines t heading i) := by
  rw [memberAt_eq (List.getElem?_eq_getElem hi)]
  exact .of_rest hi (readMember_yields t heading)

theorem turns_eq (hf : lines.length - i < fuel) :
    turns (.current v word) lines fuel t heading i =
      some (numbered i (readMembers (.current v word) t heading (lines.drop i))) := by
  induction fuel generalizing t heading i with
  | zero => exact absurd hf (Nat.not_lt_zero _)
  | succ fuel ih =>
    rw [turns]
    cases hl : lines[i]? with
    | none =>
      rw [drop_of_getElem?_none hl, readMembers]
      rfl
    | some line =>
      obtain ⟨hi, _⟩ := List.getElem?_eq_some_iff.1 hl
      rw [drop_of_getElem? hl, readMembers]
      dsimp only
      split
      · rw [ih (by omega)]
        exact congrArg some (numbered_bind i 1 _).symm
      · rw [TemplateRules.ends_current]
        cases v.endsTemplate line line.trim with
        | true => rfl
        | false =>
          cases (TemplateRules.current v word).heading? line line.trim with
          | some name =>
            refine (ih (by omega)).trans ?_
            exact congrArg some (numbered_bind i 1 _).symm
          | none =>
            rw [memberAt_eq hl]
            cases hm : readMember (.current v word) t heading line (lines.drop (i + 1)) with
            | error f => rfl
            | ok res =>
              refine (ih (i := i + 1 + res.2) (by omega)).trans (congrArg some ?_)
              have hd : (lines.drop (i + 1)).drop res.2 = lines.drop (i + 1 + res.2) :=
                List.drop_drop
              have hk : i + 1 + res.2 = i + (res.2 + 1) := by omega
              rw [hk, ← numbered_bind i (res.2 + 1), ← hk, ← hd]
              rfl

end Template

namespace Program

variable {v : Vocabulary} {lines : List Text} {line : Text} {p : Program} {i fuel : Nat}

def templateAt (v : Synonyms) (lines : List Text) (i : Nat) :
    Option (Except Fault (Template × Nat)) :=
  andThen (some (lineOf lines i)) fun line =>
    andThen (some (v.templateName line.trim)) fun
      | none => some (.error (.namelessTemplate line.trim))
      | some name =>
        andThen (some (lineOf lines 0)) fun first =>
          Template.turns (.current v (v.templateWordIn first)) lines (lines.length + 1)
            (.ofHeader name (Header.read v line.trim)) none (i + 1)

/-- Reads the main part, whose body begins on line `i`. -/
def mainAt (v : Synonyms) (lines : List Text) (i : Nat) : Except Fault (List Text × Nat) :=
  numbered i (Body.ofProgram v (lines.drop i))

def methodAt (v : Synonyms) (lines : List Text) (i : Nat) :
    Except Fault (Option Method × Nat) := do
  let line ← lineOf lines i
  numbered (i + 1) (Method.readStandalone (Body.ofProgram v) line (lines.drop (i + 1)))

/-- Takes the parts of a program from line `i` on, in at most the given number of turns. -/
def turns (v : Synonyms) (lines : List Text) :
    Nat → Program → Nat → Option (Except Fault Program)
  | 0, _, _ => none
  | fuel + 1, p, i =>
    match lines[i]? with
    | none => some (.ok p)
    | some line =>
      let s := line.trim
      andThen (some (v.opensTemplate s)) fun opens =>
        if opens then
          andThen (templateAt v lines i) fun res =>
            turns v lines fuel { p with templates := p.templates ++ [res.1] } res.2
        else if s = "main".toList then
          andThen (some (mainAt v lines (i + 1))) fun res =>
            turns v lines fuel { p with main := res.1 } res.2
        else if s.startsWith "method " then
          andThen (some (methodAt v lines i)) fun res =>
            turns v lines fuel { p with methods := p.methods ++ res.1.toList } res.2
        else turns v lines fuel p (i + 1)

theorem templateAt_eq (hl : lines[i]? = some line) :
    templateAt v lines i = some (numbered (i + 1)
      (Template.read v (v.templateWordIn (lines.headD [])) line (lines.drop (i + 1)))) := by
  have hfirst : lines[0]? = some (lines.headD []) := by
    cases lines with
    | nil => cases hl
    | cons first rest => rfl
  rw [templateAt, lineOf_eq hl, lineOf_eq hfirst]
  simp only [andThen, v.templateName_eq]
  cases hn : v.templateName? line.trim with
  | none =>
    rw [Template.read_of_nameless hn]
    rfl
  | some name =>
    rw [Template.read_of_name hn]
    exact Template.turns_eq (by omega)

theorem templateAt_advances (hi : i < lines.length)
    (ho : v.opensTemplate (Text.trim lines[i]) = true) :
    ∃ x, templateAt v lines i = some x ∧ Advances lines i x :=
  ⟨_, templateAt_eq (List.getElem?_eq_getElem hi), .of_rest hi (Template.read_yields ho)⟩

theorem mainAt_yields (hi : i ≤ lines.length) :
    Yields (mainAt v lines i) fun res => i ≤ res.2 ∧ res.2 ≤ lines.length := by
  refine (Body.ofProgram_yields v (lines.drop i)).map fun res hres => ?_
  rw [List.length_drop] at hres
  constructor
  · omega
  · omega

theorem methodAt_eq (hl : lines[i]? = some line) :
    methodAt v lines i = numbered (i + 1)
      (Method.readStandalone (Body.ofProgram v) line (lines.drop (i + 1))) := by
  rw [methodAt, lineOf_eq hl]
  rfl

theorem methodAt_advances (hi : i < lines.length) : Advances lines i (methodAt v lines i) := by
  rw [methodAt_eq (List.getElem?_eq_getElem hi)]
  exact .of_rest hi (Method.readStandalone_yields (Body.ofProgram_yields v))

/-- Going on with the line that a reader gives is going on with the lines that it leaves. -/
theorem andThen_numbered {x : Except Fault (α × Nat)} (f : α → Program) (hi : i < lines.length)
    (ih : ∀ {p j}, lines.length - j < fuel →
      turns v lines fuel p j = some (readParts (.current v lines) p (lines.drop j)))
    (hf : lines.length - i < fuel + 1) :
    andThen (some (numbered (i + 1) x)) (fun res => turns v lines fuel (f res.1) res.2) =
      some (x >>= fun res =>
        readParts (.current v lines) (f res.1) ((lines.drop (i + 1)).drop res.2)) := by
  cases x with
  | error e => rfl
  | ok res =>
    have hd : (lines.drop (i + 1)).drop res.2 = lines.drop (i + 1 + res.2) := List.drop_drop
    refine (ih (j := i + 1 + res.2) (by omega)).trans ?_
    rw [← hd]
    rfl

theorem turns_eq (hf : lines.length - i < fuel) :
    turns v lines fuel p i = some (readParts (.current v lines) p (lines.drop i)) := by
  induction fuel generalizing p i with
  | zero => exact absurd hf (Nat.not_lt_zero _)
  | succ fuel ih =>
    rw [turns]
    cases hl : lines[i]? with
    | none =>
      rw [drop_of_getElem?_none hl, readParts]
    | some line =>
      obtain ⟨hi, _⟩ := List.getElem?_eq_some_iff.1 hl
      rw [drop_of_getElem? hl, readParts, ProgramRules.opensTemplate_current]
      simp only [v.opensTemplate_eq, andThen, bind, Except.bind]
      by_cases ho : v.opensTemplate line.trim = true
      · obtain ⟨first, more, rfl⟩ := List.exists_cons_of_length_pos (Nat.zero_lt_of_lt hi)
        rw [if_pos ho, if_pos ho, templateAt_eq hl]
        exact andThen_numbered (fun t => { p with templates := p.templates ++ [t] }) hi ih hf
      · rw [if_neg ho, if_neg ho]
        by_cases hm : line.trim = "main".toList
        · rw [if_pos hm, if_pos hm]
          exact andThen_numbered (fun body => { p with main := body }) hi ih hf
        · rw [if_neg hm, if_neg hm]
          by_cases hs : line.trim.startsWith "method " = true
          · rw [if_pos hs, if_pos hs, methodAt_eq hl]
            exact andThen_numbered
              (fun m : Option Method => { p with methods := p.methods ++ m.toList }) hi ih hf
          · rw [if_neg hs, if_neg hs]
            exact ih (by omega)

/-- Reading ends for every text, with a program or with a fault that explains itself and is never
that a template has no name. Each reader that is called at a line goes on after that line and
within the text; a main part, whose reader is called behind the line that opens it, may take no
line. So the loop over the lines ends after as many turns as there are lines. -/
theorem read_advances (source : Text) :
    let v := Vocabulary.standard
    let lines := source.trim.lines
    Yields (read v source) (fun _ => True) ∧
      (∃ name start, nameAndStart v lines = .ok (name, start) ∧
        turns v lines (lines.length + 1) { name } start = some (read v source)) ∧
      (∀ i ≤ lines.length,
        Yields (mainAt v lines i) fun res => i ≤ res.2 ∧ res.2 ≤ lines.length) ∧
      ∀ i (hi : i < lines.length),
        (v.opensTemplate (Text.trim lines[i]) = true →
          ∃ x, templateAt v lines i = some x ∧ Advances lines i x) ∧
        Advances lines i (methodAt v lines i) ∧
        ∀ word t heading,
          Advances lines i (Template.memberAt (.current v word) lines t heading i) := by
  intro v lines
  refine ⟨read_yields v source, ?_, fun i hi => mainAt_yields hi, fun i hi => ?_⟩
  · refine ⟨_, _, v.nameAndStart_eq lines, ?_⟩
    rw [read, readLines_drop]
    exact turns_eq (by omega)
  · exact ⟨templateAt_advances hi, methodAt_advances hi,
      fun word t heading => Template.memberAt_advances hi⟩

theorem mainAt_not_advances :
    let lines := Text.lines "main\nmain"
    mainAt Vocabulary.standard lines 1 = .ok ([], 1) ∧
      ¬Advances lines 1 (mainAt Vocabulary.standard lines 1) := by
  intro lines
  have h : mainAt Vocabulary.standard lines 1 = .ok ([], 1) := by decide +kernel
  refine ⟨h, ?_⟩
  rw [h]
  exact fun hadv => Nat.lt_irrefl 1 hadv.1

end Program

end JavaSketch
