import JavaSketch.Java.Class
import JavaSketch.Proofs.Constructors
import JavaSketch.Proofs.Recognition
import Mathlib.Data.List.Nodup

namespace JavaSketch

namespace Text

variable {c d : Char} {s x y : Text}

/-- The text with a capital in front and nothing else changed. -/
def raised : Text → Text
  | [] => []
  | c :: s => titleChar c ++ s

/-- A character that is its own small letter. -/
def isLowered (c : Char) : Bool := lower [c] == [c]

theorem isLowered_iff : isLowered c = true ↔ c ≠ 'Σ' ∧ c ≠ 'İ' ∧ lowerChar c = c := by
  rw [isLowered, beq_iff_eq, lower, lowerAfter, lowerAfter, List.append_nil]
  by_cases hsigma : c = 'Σ'
  · rw [hsigma]
    decide
  · by_cases hdotted : c = 'İ'
    · rw [hdotted]
      decide
    · rw [if_neg hsigma, if_neg hdotted, List.singleton_inj]
      exact ⟨fun h => ⟨hsigma, hdotted, h⟩, fun h => h.2.2⟩

theorem lowerAfter_eq_self (before s : Text) :
    lowerAfter before s = s ↔ ∀ c ∈ s, isLowered c = true := by
  induction s generalizing before with
  | nil => exact ⟨fun _ => List.forall_mem_nil _, fun _ => rfl⟩
  | cons c s ih =>
    rw [List.forall_mem_cons, isLowered_iff, ← ih (c :: before), lowerAfter]
    by_cases hsigma : c = 'Σ'
    · rw [if_pos hsigma]
      constructor
      · intro h
        have hhead := congrArg List.head? h
        split_ifs at hhead
        · cases (Option.some.inj hhead).trans hsigma
        · cases (Option.some.inj hhead).trans hsigma
      · exact fun h => absurd hsigma h.1.1
    · by_cases hdotted : c = 'İ'
      · rw [if_neg hsigma, if_pos hdotted]
        constructor
        · intro h
          have hhead : 'i' = c := List.head_eq_of_cons_eq h
          cases hhead.trans hdotted
        · exact fun h => absurd hdotted h.1.2.1
      · rw [if_neg hsigma, if_neg hdotted, List.singleton_append, List.cons.injEq]
        exact ⟨fun h => ⟨⟨hsigma, hdotted, h.1⟩, h.2⟩, fun h => ⟨h.1.2.2, h.2⟩⟩

theorem capitalize_eq_raised_iff (x : Text) :
    x.capitalize = x.raised ↔ ∀ c ∈ x.tail, isLowered c = true := by
  cases x with
  | nil => exact ⟨fun _ => List.forall_mem_nil _, fun _ => rfl⟩
  | cons c s =>
    rw [capitalize, raised, List.append_cancel_left_eq, lowerAfter_eq_self, List.tail_cons]

theorem ascii_upper_lower : ∀ n < 0x80,
    (lowerChar (Char.ofNat n)).toUpper = (Char.ofNat n).toUpper ∧
      lowerChar (Char.ofNat n).toUpper = lowerChar (Char.ofNat n) := by
  decide

theorem toUpper_eq_iff (hc : c.toNat < 0x80) (hd : d.toNat < 0x80) :
    c.toUpper = d.toUpper ↔ lowerChar c = lowerChar d := by
  have hchar := ascii_upper_lower c.toNat hc
  have hother := ascii_upper_lower d.toNat hd
  rw [Char.ofNat_toNat] at hchar hother
  constructor
  · intro h
    rw [← hchar.2, h, hother.2]
  · intro h
    rw [← hchar.1, h, hother.1]

theorem capitalize_ascii (h : IsAscii (c :: s)) :
    capitalize (c :: s) = c.toUpper :: s.map lowerChar := by
  have hc := h c List.mem_cons_self
  rw [capitalize, h.tail.lowerAfter_eq, titleChar, if_pos hc, List.singleton_append]

theorem capitalize_eq_iff_lower (hx : IsAscii x) (hy : IsAscii y) :
    x.capitalize = y.capitalize ↔ x.lower = y.lower := by
  rw [hx.lower_eq, hy.lower_eq]
  cases x with
  | nil =>
    cases y with
    | nil => exact ⟨fun _ => rfl, fun _ => rfl⟩
    | cons d r =>
      rw [capitalize_ascii hy]
      exact ⟨fun h => absurd h (List.cons_ne_nil _ _).symm,
        fun h => absurd h (List.cons_ne_nil _ _).symm⟩
  | cons c s =>
    rw [capitalize_ascii hx]
    cases y with
    | nil =>
      exact ⟨fun h => absurd h (List.cons_ne_nil _ _), fun h => absurd h (List.cons_ne_nil _ _)⟩
    | cons d r =>
      rw [capitalize_ascii hy, List.map_cons, List.map_cons, List.cons.injEq, List.cons.injEq,
        toUpper_eq_iff (hx c List.mem_cons_self) (hy d List.mem_cons_self)]

end Text

namespace Java

variable {t : Template} {a : Accessor} {x : Variable}

def getter (access : Access) (x : Variable) : Method where
  name := getterName x
  returnType := x.type
  access := access
  body := ["return " ++ x.name ++ ";"]

def setter (access : Access) (x : Variable) : Method where
  name := setterName x
  params := [⟨x.name, x.type⟩]
  access := access
  body := ["this." ++ x.name ++ " = " ++ x.name ++ ";"]

/-- The accessors that are asked for, as methods. -/
def accessorMethods (t : Template) : List Method :=
  t.accessors.flatMap fun a =>
    match t.declared? a.target with
    | some x => [getter a.access x, setter a.access x]
    | none => []

theorem getterLines_eq (access : Access) (x : Variable) :
    getterLines .current access x = methodLines .current none (getter access x) := by
  have hhead : Style.current.accessLead access ++ x.type ++ " " ++ call (getterName x) [] =
      methodHead .current none (getter access x) := by
    rw [List.append_assoc, List.append_assoc, ← List.append_assoc x.type]
    rfl
  rw [getterLines, hhead]
  rfl

theorem setterLines_eq (access : Access) (x : Variable) :
    setterLines .current access x = methodLines .current none (setter access x) := by
  have hhead : Style.current.accessLead access ++ "void " ++
      call (setterName x) [⟨x.name, x.type⟩] = methodHead .current none (setter access x) := by
    rw [List.append_assoc]
    rfl
  rw [setterLines, hhead]
  rfl

theorem accessorParts_eq (t : Template) :
    accessorParts .current t = methodParts .current none (accessorMethods t) := by
  rw [accessorParts, methodParts, accessorMethods, List.flatMap_assoc]
  congr 1
  funext a
  cases t.declared? a.target with
  | none => rfl
  | some x =>
    have hgap : Style.current.gapInAccessors = true := rfl
    dsimp only
    rw [accessorLines, getterLines_eq, setterLines_eq, hgap, if_pos rfl]
    simp [spaced]

/-- The names of a getter and a setter. -/
def accessorNames (name : Text) : List Text := ["get" ++ name, "set" ++ name]

theorem accessorMethods_names (h : ∀ a ∈ t.accessors, ∃ x ∈ t.allVars, x.name = a.target) :
    (accessorMethods t).map (·.name) =
      t.accessors.flatMap fun a => accessorNames a.target.capitalize := by
  rw [accessorMethods, List.map_flatMap]
  apply List.flatMap_congr
  intro a ha
  obtain ⟨x, hx⟩ := Constructor.declared?_of_mem (h a ha)
  have hfound := List.find?_some hx
  have hname : x.name = a.target := beq_iff_eq.1 hfound
  rw [hx, ← hname]
  rfl

/-- No getter is named like a setter, so only the names of the variables can clash. -/
theorem disjoint_accessorNames {x y : Text} :
    List.Disjoint (accessorNames x) (accessorNames y) ↔ x ≠ y := by
  constructor
  · rintro h rfl
    exact h List.mem_cons_self List.mem_cons_self
  · intro hne w hx hy
    have hsame {lead other : Text} (he : lead ++ x = other ++ y) (hl : lead = other) : False := by
      rw [hl] at he
      exact hne (List.append_cancel_left he)
    rcases List.mem_cons.1 hx with rfl | hx
    · rcases List.mem_cons.1 hy with hy | hy
      · exact hsame hy rfl
      · cases List.mem_singleton.1 hy
    · rw [List.mem_singleton.1 hx] at hy
      rcases List.mem_cons.1 hy with hy | hy
      · cases hy
      · exact hsame (List.mem_singleton.1 hy) rfl

theorem nodup_accessorNames (x : Text) : (accessorNames x).Nodup := by
  rw [accessorNames, List.nodup_cons, List.mem_singleton]
  refine ⟨?_, List.nodup_singleton _⟩
  intro h
  cases h

theorem nodup_flatMap_accessorNames (f : Accessor → Text) (as : List Accessor) :
    (as.flatMap fun a => accessorNames (f a)).Nodup ↔ as.Pairwise fun a b => f a ≠ f b := by
  rw [List.nodup_flatMap]
  constructor
  · rintro ⟨_, h⟩
    exact h.imp fun hd => disjoint_accessorNames.1 hd
  · intro h
    exact ⟨fun a _ => nodup_accessorNames _, h.imp fun hne => disjoint_accessorNames.2 hne⟩

theorem names_raised_iff (x : Variable) :
    getterName x = "get" ++ x.name.raised ∧ setterName x = "set" ++ x.name.raised ↔
      ∀ c ∈ x.name.tail, Text.isLowered c = true := by
  rw [← Text.capitalize_eq_raised_iff]
  constructor
  · exact fun h => List.append_cancel_left h.1
  · exact fun h => ⟨congrArg ("get".toList ++ ·) h, congrArg ("set".toList ++ ·) h⟩

/-- The accessors of a template are methods whose names are all different exactly if no two of them
ask for names that are capitalised alike; in ASCII, for names that differ in case at most. The name
of a variable only gets a capital in front exactly if it has no capitals behind its first letter. -/
theorem accessor_names_iff (t : Template)
    (h : ∀ a ∈ t.accessors, ∃ x ∈ t.allVars, x.name = a.target) :
    let names := (accessorMethods t).map (·.name)
    accessorParts .current t = methodParts .current none (accessorMethods t) ∧
      (names.Nodup ↔ t.accessors.Pairwise fun a b => a.target.capitalize ≠ b.target.capitalize) ∧
      ((∀ a ∈ t.accessors, IsAscii a.target) →
        (names.Nodup ↔ t.accessors.Pairwise fun a b => a.target.lower ≠ b.target.lower)) ∧
      ∀ x ∈ t.allVars,
        (getterName x = "get" ++ x.name.raised ∧ setterName x = "set" ++ x.name.raised ↔
          ∀ c ∈ x.name.tail, Text.isLowered c = true) := by
  intro names
  have hnodup : names.Nodup ↔
      t.accessors.Pairwise fun a b => a.target.capitalize ≠ b.target.capitalize := by
    rw [show names = _ from accessorMethods_names h]
    exact nodup_flatMap_accessorNames _ _
  refine ⟨accessorParts_eq t, hnodup, ?_, fun x _ => names_raised_iff x⟩
  intro hascii
  rw [hnodup]
  apply List.Pairwise.iff_of_mem
  intro a b ha hb
  rw [ne_eq, ne_eq, Text.capitalize_eq_iff_lower (hascii a ha) (hascii b hb)]

def userVariable : Variable := ⟨"userId", "int", .priv, none, false⟩

/-- Two variables that differ in the case of one letter, each with its accessors. -/
def twoUsers : Template where
  name := "Student"
  instanceVars := [userVariable, ⟨"userid", "int", .priv, none, false⟩]
  accessors := [⟨"userId", .pub⟩, ⟨"userid", .pub⟩]

theorem accessor_names_iff_of_twoUsers :
    (∀ a ∈ twoUsers.accessors, ∃ x ∈ twoUsers.allVars, x.name = a.target) ∧
      (accessorMethods twoUsers).map (·.name) =
        (["getUserid", "setUserid", "getUserid", "setUserid"] : List Text) ∧
      ¬ ((accessorMethods twoUsers).map (·.name)).Nodup ∧
      ¬ (getterName userVariable = "getUserId" ∧ setterName userVariable = "setUserId") := by
  have htargets : ∀ a ∈ twoUsers.accessors, ∃ x ∈ twoUsers.allVars, x.name = a.target := by decide
  obtain ⟨_, hnames, _, hraised⟩ := accessor_names_iff twoUsers htargets
  refine ⟨htargets, by decide, ?_, ?_⟩
  · rw [hnames]
    decide
  · intro h
    have hsmall := (hraised userVariable List.mem_cons_self).1 h 'I' (by decide)
    exact absurd hsmall (by decide)

end Java

end JavaSketch
