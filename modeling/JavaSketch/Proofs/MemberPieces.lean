import JavaSketch.Java.Class
import JavaSketch.Proofs.Pieces

namespace JavaSketch.Piecewise

open Java

variable {P : Text → Prop} {s name : Text} {params : List Param} {className : Option Text}
  {t : Template} {v : Variable} {m : Method} (hP : Piecewise javaGlue P)

include hP

theorem accessLead_append (access : Access) (hs : P s) :
    P (Style.current.accessLead access ++ s) := by
  apply hP.all_append _ hs
  cases access with
  | pub => decide
  | priv => decide
  | prot => decide
  | pack => decide

theorem accessLead (access : Access) : P (Style.current.accessLead access) := by
  have h := hP.accessLead_append access hP.empty
  rwa [List.append_nil] at h

theorem staticWord_append (isStatic : Bool) (hs : P s) : P (staticWord isStatic ++ s) := by
  cases isStatic with
  | false => exact hs
  | true => exact hP.fixed_append (by decide) hs

theorem append_initializer {value : Option Text} (hs : P s) (hv : ∀ t ∈ value, P t) :
    P (s ++ initializer value) := by
  have hnone : P (s ++ []) := by rwa [List.append_nil]
  cases value with
  | none => exact hnone
  | some t =>
    cases t with
    | nil => exact hnone
    | cons c t =>
      have hassigned : P (s ++ " = " ++ c :: t) := hP.between hs (by decide) (hv _ rfl)
      rwa [List.append_assoc] at hassigned

theorem call (hn : P name) (hp : ∀ q ∈ params, P q.type ∧ P q.name) :
    P (call name params) := by
  have hlist : P (paramList params) := by
    apply hP.join (by decide)
    rw [List.forall_mem_map]
    exact fun q hq => hP.between (hp q hq).1 (by decide) (hp q hq).2
  exact hP.append_fixed (hP.between hn (by decide) hlist) (by decide)

/-- A constructor can bear the name of its class. -/
theorem methodHead (hn : P m.name) (hr : P m.returnType)
    (hp : ∀ q ∈ m.params, P q.type ∧ P q.name) (hc : ∀ name ∈ className, P name) :
    P (methodHead .current className m) := by
  have hown : P (classOrOwnName className m) := by
    rw [classOrOwnName.eq_def]
    split
    · exact hc _ rfl
    · exact hn
  apply hP.accessLead_append
  split
  · exact hP.call hown hp
  · exact hP.between (hP.staticWord_append _ hr) (by decide) (hP.call hn hp)

theorem abstractLine (hn : P m.name) (hr : P m.returnType)
    (hp : ∀ q ∈ m.params, P q.type ∧ P q.name) : P (abstractLine m) := by
  have htype : P (Style.current.accessLead m.access ++ "abstract " ++ m.returnType) :=
    hP.between (hP.accessLead _) (by decide) hr
  have hhead := hP.between htype (by decide : isFixed javaGlue " " = true) (hP.call hn hp)
  exact hP.fixed_append (by decide) (hP.append_fixed hhead (by decide))

theorem variableLine (hn : P v.name) (ht : P v.type) (hi : ∀ value ∈ v.initial, P value)
    (isStatic : Bool) : P (variableLine isStatic v) := by
  have htype : P (Style.current.accessLead v.access ++ staticWord isStatic ++ v.type) := by
    rw [List.append_assoc]
    exact hP.accessLead_append _ (hP.staticWord_append _ ht)
  have hname := hP.between htype (by decide : isFixed javaGlue " " = true) hn
  exact hP.fixed_append (by decide) (hP.append_fixed (hP.append_initializer hname hi) (by decide))

theorem getterHead (hc : P v.name.capitalize) (ht : P v.type) (access : Access) :
    P (Style.current.accessLead access ++ v.type ++ " " ++ Java.call (getterName v) []) := by
  have hname : P (getterName v) := hP.fixed_append (by decide) hc
  exact hP.between (hP.accessLead_append _ ht) (by decide) (hP.call hname (List.forall_mem_nil _))

theorem setterHead (hc : P v.name.capitalize) (hn : P v.name) (ht : P v.type) (access : Access) :
    P (Style.current.accessLead access ++ "void " ++
      Java.call (setterName v) [⟨v.name, v.type⟩]) := by
  have hname : P (setterName v) := hP.fixed_append (by decide) hc
  have hcall : P (Java.call (setterName v) [⟨v.name, v.type⟩]) :=
    hP.call hname (List.forall_mem_singleton.2 ⟨ht, hn⟩)
  exact hP.between (hP.accessLead _) (by decide) hcall

theorem getterBody (hn : P v.name) : P ("return " ++ v.name ++ ";") :=
  hP.append_fixed (hP.fixed_append (by decide) hn) (by decide)

theorem setterBody (hn : P v.name) : P ("this." ++ v.name ++ " = " ++ v.name ++ ";") := by
  have hthis : P ("this." ++ v.name) := hP.fixed_append (by decide) hn
  exact hP.append_fixed (hP.between hthis (by decide) hn) (by decide)

theorem classHeader (hn : P t.name) (hp : ∀ name ∈ t.parent, P name)
    (hi : ∀ name ∈ t.interfaces, P name) : P (classHeader t) := by
  rw [Java.classHeader]
  apply hP.join (by decide)
  rw [List.forall_mem_append, List.forall_mem_append, List.forall_mem_cons,
    List.forall_mem_singleton]
  refine ⟨⟨⟨?_, hn⟩, ?_⟩, ?_⟩
  · split_ifs
    · exact hP.fixed (by decide)
    · exact hP.fixed (by decide)
    · exact hP.fixed (by decide)
  · split
    · exact List.forall_mem_nil _
    · exact List.forall_mem_nil _
    · rename_i name _ hparent
      exact List.forall_mem_cons.2
        ⟨hP.fixed (by decide), List.forall_mem_singleton.2 (hp name hparent)⟩
  · split_ifs
    · exact List.forall_mem_nil _
    · exact List.forall_mem_cons.2
        ⟨hP.fixed (by decide), List.forall_mem_singleton.2 (hP.join (by decide) hi)⟩

end JavaSketch.Piecewise
