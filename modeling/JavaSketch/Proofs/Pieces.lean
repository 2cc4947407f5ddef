import JavaSketch.Proofs.CaseSigns
import JavaSketch.Proofs.Matching
import JavaSketch.Statement.Convert

namespace JavaSketch

/-- The property passes from a text to its parts, and from two texts to both with one of the given
characters between them. -/
structure Piecewise (glue : Char → Bool) (P : Text → Prop) : Prop where
  empty : P []
  piece : ∀ {s t : Text}, P s → t <:+: s → P t
  joined : ∀ {s t : Text} {q : Char}, glue q = true → P s → P t → P (s ++ q :: t)
  lower : ∀ {s : Text}, P s → '/' ∉ s → P s.lower

/-- Fixed text of Java types. -/
def typeGlue (q : Char) : Bool := q.isAlpha || [' ', '<', '>', ',', '(', ')'].contains q

/-- Fixed text of Java lines. -/
def javaGlue (q : Char) : Bool :=
  typeGlue q || (q.isDigit ||
    ['.', ';', ':', '=', '+', '-', '&', '|', '!', '%', '"', '\\'].contains q)

/-- A text that stands between pieces. -/
def isFixed (glue : Char → Bool) (k : Text) : Bool := !k.isEmpty && k.all glue

namespace Piecewise

variable {glue : Char → Bool} {P : Text → Prop} {s t k m old : Text} {q r : Char}

theorem mono {glue' : Char → Bool} (hP : Piecewise glue P)
    (h : ∀ q, glue' q = true → glue q = true) : Piecewise glue' P :=
  ⟨hP.empty, hP.piece, fun hq => hP.joined (h _ hq), hP.lower⟩

/-- A sign stays out of a text where no fixed text brings it in. -/
theorem notMem (hq : glue q = false) (hsign : isSign q = true) : Piecewise glue (q ∉ ·) where
  empty := List.not_mem_nil
  piece hs h := fun hm => hs (h.subset hm)
  joined hr hs ht := by
    rw [List.mem_append, List.mem_cons, not_or, not_or]
    refine ⟨hs, ?_, ht⟩
    rintro rfl
    rw [hq] at hr
    cases hr
  lower hs _ := fun hm => hs (Text.sign_mem_lower hm hsign)

variable (hP : Piecewise glue P)
include hP

theorem trim (hs : P s) : P s.trim := hP.piece hs s.trim_infix

theorem drop (hs : P s) (n : Nat) : P (s.drop n) := hP.piece hs (List.drop_suffix n s).isInfix

theorem all_append (hk : k.all glue = true) (ht : P t) : P (k ++ t) := by
  induction k with
  | nil => exact ht
  | cons q k ih =>
    obtain ⟨hq, hk⟩ := Bool.and_eq_true_iff.1 hk
    exact hP.joined (s := []) hq hP.empty (ih hk)

theorem fixed_append (hk : isFixed glue k = true) (ht : P t) : P (k ++ t) :=
  hP.all_append (Bool.and_eq_true_iff.1 hk).2 ht

theorem between (hs : P s) (hk : isFixed glue k = true) (ht : P t) : P (s ++ k ++ t) := by
  cases k with
  | nil => cases hk
  | cons q k =>
    obtain ⟨hq, hk⟩ := Bool.and_eq_true_iff.1 (Bool.and_eq_true_iff.1 hk).2
    rw [List.append_assoc]
    exact hP.joined hq hs (hP.all_append hk ht)

theorem append_fixed (hs : P s) (hk : isFixed glue k = true) : P (s ++ k) := by
  have h := hP.between hs hk hP.empty
  rwa [List.append_nil] at h

theorem fixed (hk : isFixed glue k = true) : P k := by
  have h := hP.fixed_append hk hP.empty
  rwa [List.append_nil] at h

/-- What is put in the place of an occurrence begins and ends with fixed text. -/
theorem replace (hs : P s) (hq : glue q = true) (hm : P m) (hr : glue r = true) :
    P (s.replace old (q :: (m ++ [r]))) := by
  suffices h : ∀ n pre, (n = 0 ∨ pre = []) → P (pre ++ s) →
      P (pre ++ Text.replaceFrom old (q :: (m ++ [r])) n s) from h 0 [] (.inl rfl) hs
  clear hs
  induction s with
  | nil =>
    intro n pre _ h
    rw [Text.replaceFrom]
    exact h
  | cons c s ih =>
    intro n pre hn h
    cases n with
    | succ n =>
      have hpre := hn.resolve_left (Nat.succ_ne_zero n)
      rw [hpre] at h ⊢
      rw [Text.replaceFrom]
      exact ih n [] (.inr rfl) (hP.piece h (List.suffix_cons c s).isInfix)
    | zero =>
      rw [Text.replaceFrom]
      split
      · have hrest : P s :=
          hP.piece h ((List.suffix_cons c s).trans (List.suffix_append pre _)).isInfix
        have htail := ih (old.length - 1) [] (.inr rfl) hrest
        have hpre : P pre := hP.piece h (List.prefix_append pre _).isInfix
        rw [List.cons_append, List.append_assoc]
        exact hP.joined hq hpre (hP.joined hr hm htail)
      · have h' : P (pre ++ [c] ++ s) := by
          rw [List.append_assoc]
          exact h
        have ht := ih 0 (pre ++ [c]) (.inl rfl) h'
        rw [List.append_assoc] at ht
        exact ht

theorem cut? {sep before after : Text} (hs : P s) (h : Text.cut? sep s = some (before, after)) :
    P before ∧ P after :=
  ⟨hP.piece hs (Text.infix_of_cut? h).1, hP.piece hs (Text.infix_of_cut? h).2⟩

theorem find? {p : Pattern} {kept : List Text} (hs : P s) (h : p.find? s = some kept)
    (hk : k ∈ kept) : P k :=
  hP.piece hs (Pattern.infix_of_find? h hk)

theorem lookup {table : List (Text × Text)} {key : Text}
    (ht : ∀ entry ∈ table, isFixed glue entry.2 = true) (hs : P s) :
    P ((table.lookup key).getD s) := by
  cases h : table.lookup key with
  | none => exact hs
  | some t =>
    obtain ⟨a, ha⟩ := lookup_mem h
    exact hP.fixed (ht _ ha)

theorem join {sep : Text} {pieces : List Text} (hsep : isFixed glue sep = true)
    (hp : ∀ piece ∈ pieces, P piece) : P (Text.join sep pieces) := by
  cases pieces with
  | nil => exact hP.empty
  | cons piece pieces =>
    obtain ⟨hpiece, hrest⟩ := List.forall_mem_cons.1 hp
    rw [Text.join_cons]
    clear hp
    induction pieces generalizing piece with
    | nil =>
      rw [List.flatMap_nil, List.append_nil]
      exact hpiece
    | cons next pieces ih =>
      obtain ⟨hnext, hrest⟩ := List.forall_mem_cons.1 hrest
      rw [List.flatMap_cons, List.append_assoc, ← List.append_assoc]
      exact hP.between hpiece hsep (ih next hnext hrest)

end Piecewise

theorem BraceFree.piecewise : Piecewise javaGlue BraceFree where
  empty := List.forall_mem_nil _
  piece hs h := hs.mono h.subset
  joined hq hs ht := by
    refine hs.append (List.forall_mem_cons.2 ⟨⟨?_, ?_⟩, ht⟩)
    · rintro rfl
      cases hq
    · rintro rfl
      cases hq
  lower hs _ := hs.lower

namespace Operation

variable {P : Text → Prop} {receiver method argument words first second place : Text}
  {shape reader : Pattern} {build : List Text → Option Text}

/-- The expression of a statement has the property if the statement does. -/
def Keeps (P : Text → Prop) (op : Operation) : Prop :=
  ∀ s t, P s → op.expression? s = some t → P t

variable (hP : Piecewise javaGlue P)
include hP

theorem piecewise_call (hr : P receiver) (hm : isFixed javaGlue method = true) (ha : P argument) :
    P (call receiver method argument) := by
  have hname : P (receiver ++ "." ++ method) := hP.between hr (by decide) (hP.fixed hm)
  have hopen : P (receiver ++ "." ++ method ++ "(" ++ argument) := hP.between hname (by decide) ha
  exact hP.append_fixed hopen (by decide)

theorem ofPattern_keeps
    (hb : ∀ kept t, (∀ k ∈ kept, P k) → build kept = some t → P t) :
    (ofPattern shape reader build).Keeps P := by
  intro s t hs h
  obtain ⟨kept, hk, ht⟩ := Option.bind_eq_some_iff.1 h
  exact hb kept t (fun k => hP.find? hs hk) ht

theorem onReceiver_keeps {build : Text → Text} (hb : ∀ c, P c → P (build c)) :
    (onReceiver words build).Keeps P := by
  intro s t hs h
  cases h
  exact hb _ (hP.trim (hP.drop hs _))

theorem asking_keeps (hm : isFixed javaGlue method = true) : (asking words method).Keeps P :=
  onReceiver_keeps hP fun _ hc => piecewise_call hP hc hm hP.empty

theorem applying_keeps (hm : isFixed javaGlue method = true) : (applying words method).Keeps P :=
  onReceiver_keeps hP fun _ hc => piecewise_call hP (hP.fixed (by decide)) hm hc

theorem pair_keeps {f : Text → Text → Text} (hf : ∀ a b, P a → P b → P (f a b)) :
    (ofPattern shape reader fun
      | [a, b] => some (f a b)
      | _ => none).Keeps P := by
  apply ofPattern_keeps hP
  intro kept t hk h
  split at h
  · cases h
    exact hf _ _ (hk _ (by simp)) (hk _ (by simp))
  · cases h

theorem triple_keeps {f : Text → Text → Text → Text}
    (hf : ∀ a b c, P a → P b → P c → P (f a b c)) :
    (ofPattern shape reader fun
      | [a, b, c] => some (f a b c)
      | _ => none).Keeps P := by
  apply ofPattern_keeps hP
  intro kept t hk h
  split at h
  · cases h
    exact hf _ _ _ (hk _ (by simp)) (hk _ (by simp)) (hk _ (by simp))
  · cases h

theorem passing_keeps (hm : isFixed javaGlue method = true) :
    (passing first second method).Keeps P :=
  pair_keeps hP fun _ _ hi hc => piecewise_call hP hc hm (hP.trim hi)

theorem adding_keeps (hm : isFixed javaGlue method = true) : (adding place method).Keeps P :=
  pair_keeps hP fun _ _ hc hi => piecewise_call hP hc hm (hP.trim hi)

theorem removing_keeps : (removing first).Keeps P := by
  apply pair_keeps hP
  intro item c hi hc
  apply piecewise_call hP hc (by decide)
  split
  · exact hP.append_fixed (hP.fixed_append (by decide) (hP.trim hi)) (by decide)
  · exact hP.trim hi

theorem piecewise_call_two {a b : Text} (hr : P receiver) (hm : isFixed javaGlue method = true)
    (ha : P a) (hb : P b) : P (call receiver method (a.trim ++ ", " ++ b.trim)) :=
  piecewise_call hP hr hm (hP.between (hP.trim ha) (by decide) (hP.trim hb))

theorem storing_keeps : storing.Keeps P :=
  triple_keeps hP fun _ _ _ hc hk hv => piecewise_call_two hP hc (by decide) hk hv

theorem setting_keeps : (setting first).Keeps P :=
  triple_keeps hP fun _ _ _ hi hc hv => piecewise_call_two hP hc (by decide) hi hv

theorem inserting_keeps : inserting.Keeps P :=
  triple_keeps hP fun _ _ _ hx hc hi => piecewise_call_two hP hc (by decide) hi hx

theorem putting_keeps : putting.Keeps P :=
  triple_keeps hP fun _ _ _ hk hv hc => piecewise_call_two hP hc (by decide) hk hv

theorem placements_keep : ∀ op ∈ placements, op.Keeps P := by
  simp only [placements, List.forall_mem_cons, List.not_mem_nil, false_imp_iff, implies_true,
    and_true]
  refine ⟨setting_keeps hP, setting_keeps hP, inserting_keeps hP, onReceiver_keeps hP ?_,
    onReceiver_keeps hP ?_, passing_keeps hP (by decide), asking_keeps hP (by decide)⟩
  · exact fun c hc => piecewise_call hP hc (by decide) (hP.fixed (by decide))
  · intro c hc
    apply piecewise_call hP hc (by decide)
    exact hP.append_fixed (piecewise_call hP hc (by decide) hP.empty) (by decide)

/-- Every operation on collections puts its expression together from pieces of the statement. -/
theorem all_keep : ∀ op ∈ all, op.Keeps P := by
  simp only [all, removals, sizes, searches, arrangements, List.forall_mem_append,
    List.forall_mem_cons, List.not_mem_nil, false_imp_iff, implies_true, and_true]
  refine ⟨⟨⟨⟨⟨⟨⟨⟨⟨adding_keeps hP ?_, adding_keeps hP ?_, storing_keeps hP, passing_keeps hP ?_,
    passing_keeps hP ?_⟩, passing_keeps hP ?_, removing_keeps hP, removing_keeps hP⟩,
    asking_keeps hP ?_⟩, asking_keeps hP ?_, asking_keeps hP ?_, asking_keeps hP ?_⟩,
    passing_keeps hP ?_, passing_keeps hP ?_⟩, passing_keeps hP ?_, asking_keeps hP ?_,
    asking_keeps hP ?_, passing_keeps hP ?_⟩, placements_keep hP⟩, putting_keeps hP,
    asking_keeps hP ?_, asking_keeps hP ?_, passing_keeps hP ?_, asking_keeps hP ?_,
    asking_keeps hP ?_, passing_keeps hP ?_, asking_keeps hP ?_, passing_keeps hP ?_,
    asking_keeps hP ?_, passing_keeps hP ?_, passing_keeps hP ?_, asking_keeps hP ?_,
    asking_keeps hP ?_⟩, applying_keeps hP ?_, applying_keeps hP ?_, applying_keeps hP ?_⟩
  all_goals decide

end Operation

namespace Piecewise

variable {P : Text → Prop} {s : Text}

theorem operationExpression (hP : Piecewise javaGlue P) (hs : P s) :
    P (operationExpression Operation.all s) := by
  rw [JavaSketch.operationExpression]
  cases h : Operation.all.findSome? fun op =>
      if op.covers s.lower then op.expression? s else none with
  | none => exact hs
  | some t =>
    obtain ⟨op, hm, ht⟩ := List.exists_of_findSome?_eq_some h
    split at ht
    · exact Operation.all_keep hP op hm s t hs ht
    · cases ht

theorem javaValue (hP : Piecewise javaGlue P) (hs : P s) : P (javaValue .all s) := by
  rw [JavaSketch.javaValue]
  split
  · exact hP.operationExpression hs
  · exact hs

theorem containers_fixed : ∀ c ∈ Container.all, isFixed typeGlue c.javaName = true := by decide

variable (hP : Piecewise typeGlue P)
include hP

theorem javaName (hs : P s) : P (TypeTable.full.javaName s) := hP.lookup (by decide) hs

theorem typeOf {c : Container} (hc : isFixed typeGlue c.javaName = true) (hs : P s) :
    P (c.typeOf s) := by
  have hname : P c.javaName := hP.fixed hc
  rw [Container.typeOf]
  apply hP.append_fixed _ (by decide)
  split
  · exact hP.between (hP.append_fixed hname (by decide)) (by decide) hs
  · rw [List.append_nil]
    exact hP.between hname (by decide) hs

theorem typeAndValue_of {containers : List Container}
    (hcs : ∀ c ∈ containers, isFixed typeGlue c.javaName = true) {type : Text} (ht : P type)
    (value : Option Text) :
    P (JavaSketch.typeAndValue .full containers type value).1 ∧
      ((∀ t, value = some t → P t) →
        ∀ t, (JavaSketch.typeAndValue .full containers type value).2 = some t → P t) := by
  rw [JavaSketch.typeAndValue]
  split
  · exact ⟨hP.javaName ht, fun hv => hv⟩
  · rename_i outer inner hcut
    obtain ⟨hout, hin⟩ := hP.cut? ht hcut
    have hslash : '/' ∉ outer.trim := fun h => Text.notMem_of_cut? hcut (outer.trim_subset h)
    have houter : P outer.trim.lower := hP.lower (hP.trim hout) hslash
    have helem : P (if JavaType.isPrimitive (TypeTable.full.javaName inner.trim) then
        JavaType.wrapper (TypeTable.full.javaName inner.trim)
        else TypeTable.full.javaName inner.trim) := by
      split
      · exact hP.lookup (by decide) (hP.javaName (hP.trim hin))
      · exact hP.javaName (hP.trim hin)
    dsimp only
    generalize (if JavaType.isPrimitive (TypeTable.full.javaName inner.trim) then
      JavaType.wrapper (TypeTable.full.javaName inner.trim)
      else TypeTable.full.javaName inner.trim) = element at helem ⊢
    split
    · rename_i c hc
      have hj : P (c.typeOf element) :=
        hP.typeOf (hcs c (List.mem_of_find?_eq_some hc)) helem
      refine ⟨hj, ?_⟩
      intro hv t ht
      dsimp only at ht
      split at ht
      · cases ht
        exact hP.append_fixed (hP.fixed_append (by decide) hj) (by decide)
      · exact hv t ht
    · refine ⟨?_, fun hv => hv⟩
      exact hP.append_fixed (hP.between (hP.javaName houter) (by decide) helem) (by decide)

theorem typeAndValue {type : Text} (ht : P type) (value : Option Text) :
    P (typeAndValue .full Container.all type value).1 ∧
      ((∀ t, value = some t → P t) →
        ∀ t, (typeAndValue .full Container.all type value).2 = some t → P t) :=
  hP.typeAndValue_of containers_fixed ht value

end Piecewise

end JavaSketch
