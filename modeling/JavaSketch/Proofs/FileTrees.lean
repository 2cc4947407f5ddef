import JavaSketch.Command.Filing
import JavaSketch.Proofs.Joining

namespace JavaSketch

/-- Between a directory and a name there is one slash, be it the directory's own. -/
theorem Path.join_eq {dir file : Text} (hd : dir ≠ []) (hs : '/' ∉ file) :
    (∃ front, dir = front ++ ['/'] ∧ join dir file = front ++ '/' :: file) ∨
      dir.getLast? ≠ some '/' ∧ join dir file = dir ++ '/' :: file := by
  have hstart : ¬file.startsWith "/" = true := by
    intro hst
    obtain ⟨rest, hrest⟩ := List.isPrefixOf_iff_prefix.1 hst
    exact hs (hrest ▸ List.mem_cons_self)
  have hempty : dir.isEmpty = false := by
    rw [Bool.eq_false_iff, Ne, List.isEmpty_iff]
    exact hd
  rw [join, if_neg hstart, hempty, Bool.false_or]
  by_cases he : dir.endsWith "/" = true
  · have hlast : dir.getLast? = some '/' := Text.endsWith_iff.1 he
    obtain ⟨front, rfl⟩ := List.getLast?_eq_some_iff.1 hlast
    exact .inl ⟨front, rfl, by rw [if_pos he, List.append_assoc, List.singleton_append]⟩
  · refine .inr ⟨fun hlast => he (Text.endsWith_iff.2 hlast), ?_⟩
    rw [if_neg he, List.append_assoc]
    rfl

namespace FileTree

variable {t t' u : FileTree} {place here : Location} {node : Node} {path : Text}

theorem lookup_replaced_of_ne {q : Location} (hq : q ≠ place) (nodes : List (Location × Node)) :
    (nodes.map fun entry => if entry.1 == place then (place, node) else entry).lookup q =
      nodes.lookup q := by
  induction nodes with
  | nil => rfl
  | cons entry nodes ih =>
    obtain ⟨key, old⟩ := entry
    rw [List.map_cons]
    by_cases hk : key = place
    · rw [hk, if_pos BEq.rfl, List.lookup_cons, List.lookup_cons, beq_false_of_ne hq, ih]
    · rw [if_neg (mt eq_of_beq hk), List.lookup_cons, List.lookup_cons, ih]

theorem lookup_replaced {nodes : List (Location × Node)}
    (h : nodes.any (·.1 == place) = true) :
    (nodes.map fun entry => if entry.1 == place then (place, node) else entry).lookup place =
      some node := by
  induction nodes with
  | nil => cases h
  | cons entry nodes ih =>
    obtain ⟨key, old⟩ := entry
    rw [List.map_cons]
    by_cases hk : key = place
    · rw [hk, if_pos BEq.rfl, List.lookup_cons_self]
    · rw [List.any_cons, beq_false_of_ne hk, Bool.false_or] at h
      rw [if_neg (mt eq_of_beq hk), List.lookup_cons, beq_false_of_ne (Ne.symm hk)]
      exact ih h

theorem lookup_of_not_any {nodes : List (Location × Node)}
    (h : ¬nodes.any (·.1 == place) = true) : nodes.lookup place = none := by
  induction nodes with
  | nil => rfl
  | cons entry nodes ih =>
    obtain ⟨key, old⟩ := entry
    rw [List.any_cons, Bool.or_eq_true, not_or] at h
    have hk : place ≠ key := by
      rintro rfl
      exact h.1 BEq.rfl
    rw [List.lookup_cons, beq_false_of_ne hk]
    exact ih h.2

theorem node?_put (hp : place ≠ []) (q : Location) :
    (t.put place node).node? q = if q = place then some node else t.node? q := by
  rw [node?, node?]
  by_cases hq : q = []
  · have hne : q ≠ place := by
      rintro rfl
      exact hp hq
    rw [if_pos hq, if_neg hne, if_pos hq]
  rw [if_neg hq, if_neg hq, put]
  by_cases ha : t.nodes.any (·.1 == place) = true
  · rw [if_pos ha]
    by_cases he : q = place
    · rw [if_pos he, he]
      exact lookup_replaced ha
    · rw [if_neg he]
      exact lookup_replaced_of_ne he t.nodes
  · rw [if_neg ha, List.lookup_append]
    by_cases he : q = place
    · rw [if_pos he, he, lookup_of_not_any ha, List.lookup_cons_self]
      rfl
    · rw [if_neg he, List.lookup_cons, beq_false_of_ne he]
      exact Option.or_none

theorem put_put (t : FileTree) (place : Location) (old node : Node) :
    (t.put place old).put place node = t.put place node := by
  by_cases ha : t.nodes.any (·.1 == place) = true
  · obtain ⟨entry, hm, he⟩ := List.any_eq_true.1 ha
    have hany : (t.nodes.map fun entry => if entry.1 == place then (place, old) else entry).any
        (·.1 == place) = true :=
      List.any_eq_true.2 ⟨(place, old), List.mem_map.2 ⟨entry, hm, if_pos he⟩, BEq.rfl⟩
    simp only [put, if_pos ha, if_pos hany, List.map_map]
    congr 1
    refine List.map_congr_left fun entry _ => ?_
    by_cases he : (entry.1 == place) = true
    · rw [Function.comp_apply, if_pos he, if_pos BEq.rfl, if_pos he]
    · rw [Function.comp_apply, if_neg he, if_neg he]
  · have hany : (t.nodes ++ [(place, old)]).any (·.1 == place) = true :=
      List.any_eq_true.2 ⟨(place, old), List.mem_append_right _ List.mem_cons_self, BEq.rfl⟩
    have hkept : (t.nodes.map fun entry => if entry.1 == place then (place, node) else entry) =
        t.nodes.map id :=
      List.map_congr_left fun entry hm => if_neg fun he => ha (List.any_eq_true.2 ⟨entry, hm, he⟩)
    simp only [put, if_neg ha, if_pos hany, List.map_append, hkept, List.map_id, List.map_cons,
      List.map_nil, BEq.rfl, ↓reduceIte]

/-- The second tree has all that is in the first one, and beyond it only directories. -/
structure Grown (t u : FileTree) : Prop where
  workDir : u.workDir = t.workDir
  bars : u.bars = t.bars
  nodes : ∀ q, u.node? q = t.node? q ∨ t.node? q = none ∧ u.node? q = some .directory

theorem Grown.refl (t : FileTree) : Grown t t := ⟨rfl, rfl, fun _ => .inl rfl⟩

theorem Grown.trans (h : Grown t t') (h' : Grown t' u) : Grown t u where
  workDir := h'.workDir.trans h.workDir
  bars := h'.bars.trans h.bars
  nodes q := by
    rcases h.nodes q with hq | ⟨hn, hd⟩
    · rw [← hq]
      exact h'.nodes q
    · rcases h'.nodes q with hq' | ⟨hn', -⟩
      · exact .inr ⟨hn, hq'.trans hd⟩
      · rw [hd] at hn'
        cases hn'

end FileTree

namespace Spot

def place : Spot → Location
  | occupied place _ => place
  | vacant place => place

def node? : Spot → Option Node
  | occupied _ node => some node
  | vacant _ => none

end Spot

namespace FileTree

variable {t t' u : FileTree} {place here : Location} {node : Node} {path : Text} {spot : Spot}
  {parts : List Text}

/-- A name of something in a directory. -/
structure IsEntry (part : Text) : Prop where
  ne_nil : part ≠ []
  ne_dot : part ≠ ['.']
  ne_up : part ≠ ['.', '.']

/-- A part of a path leads from a directory to a place. All parts but the empty one need the right
to search. -/
inductive Enters (t : FileTree) (here : Location) : Text → Location → Prop
  | stay : Enters t here [] here
  | self (search : t.allows here .search = true) : Enters t here ['.'] here
  | up (search : t.allows here .search = true) : Enters t here ['.', '.'] here.dropLast
  | down {part : Text} (search : t.allows here .search = true) (entry : IsEntry part) :
    Enters t here part (here ++ [part])

/-- The parts of a path lead from a place to a node, or to a place in a directory where there is
none. -/
inductive Reaches (t : FileTree) : Location → List Text → Spot → Prop
  | here {place : Location} {node : Node} (found : t.node? place = some node) :
    Reaches t place [] (.occupied place node)
  | free {here : Location} {part : Text} (dir : t.node? here = some .directory)
    (search : t.allows here .search = true) (entry : IsEntry part)
    (none : t.node? (here ++ [part]) = none) : Reaches t here [part] (.vacant (here ++ [part]))
  | step {here next : Location} {part : Text} {parts : List Text} {spot : Spot}
    (dir : t.node? here = some .directory) (enters : Enters t here part next)
    (more : Reaches t next parts spot) : Reaches t here (part :: parts) spot

theorem Reaches.isSome (h : Reaches t here parts spot) : (t.node? here).isSome = true := by
  cases h with
  | here found => rw [found, Option.isSome_some]
  | free dir search entry none => rw [dir, Option.isSome_some]
  | step dir enters more => rw [dir, Option.isSome_some]

theorem Reaches.walk_eq (h : Reaches t here parts spot) : t.walk here parts = .ok spot := by
  induction h with
  | here found => rw [walk, found]
  | free dir search entry none =>
    simp only [walk, dir, search, none, entry.ne_nil, entry.ne_dot, entry.ne_up, ne_eq,
      not_true_eq_false, Bool.not_true, Bool.false_eq_true, Option.isSome_none, ↓reduceIte]
  | step dir enters more ih =>
    rw [walk, if_neg (not_not_intro dir)]
    cases enters with
    | stay => rw [if_pos rfl, ih]
    | self search =>
      rw [if_neg (List.cons_ne_nil _ _), search]
      exact ih
    | up search =>
      rw [if_neg (List.cons_ne_nil _ _), search]
      exact ih
    | down search entry =>
      simp only [search, entry.ne_nil, entry.ne_dot, entry.ne_up, more.isSome, Bool.not_true,
        Bool.false_eq_true, ↓reduceIte, ih]

theorem reaches_of_walk (h : t.walk here parts = .ok spot) : Reaches t here parts spot := by
  induction parts generalizing here with
  | nil =>
    rw [walk] at h
    cases hn : t.node? here with
    | none =>
      rw [hn] at h
      cases h
    | some node =>
      rw [hn] at h
      cases h
      exact .here hn
  | cons part parts ih =>
    rw [walk] at h
    dsimp only at h
    split_ifs at h with hdir hempty hsearch hdot hup hinner hlast
    · subst hempty
      exact .step (not_not.1 hdir) .stay (ih h)
    all_goals rw [Bool.not_eq_true, Bool.not_eq_false'] at hsearch
    · subst hdot
      exact .step (not_not.1 hdir) (.self hsearch) (ih h)
    · subst hup
      exact .step (not_not.1 hdir) (.up hsearch) (ih h)
    · exact .step (not_not.1 hdir) (.down hsearch ⟨hempty, hdot, hup⟩) (ih h)
    · cases h
      subst hlast
      exact .free (not_not.1 hdir) hsearch ⟨hempty, hdot, hup⟩
        (Option.not_isSome_iff_eq_none.1 hinner)

theorem walk_eq_ok : t.walk here parts = .ok spot ↔ Reaches t here parts spot :=
  ⟨reaches_of_walk, Reaches.walk_eq⟩

theorem Reaches.node?_eq (h : Reaches t here parts spot) : t.node? spot.place = spot.node? := by
  induction h with
  | here found => exact found
  | free dir search entry none => exact none
  | step dir enters more ih => exact ih

theorem Reaches.place_ne_nil (h : Reaches t here parts spot) (hd : spot.node? ≠ some .directory) :
    spot.place ≠ [] := by
  intro hp
  have hn := h.node?_eq
  rw [hp, node?, if_pos rfl] at hn
  exact hd hn.symm

theorem Enters.put {part : Text} {next : Location} (h : Enters t here part next) (place : Location)
    (node : Node) : Enters (t.put place node) here part next := by
  cases h with
  | stay => exact .stay
  | self search => exact .self search
  | up search => exact .up search
  | down search entry => exact .down search entry

/-- What is put at the end of a path is found there. -/
theorem Reaches.put (h : Reaches t here parts spot) (hd : spot.node? ≠ some .directory)
    (hp : spot.place = place) (node : Node) :
    Reaches (t.put place node) here parts (.occupied place node) := by
  have hroot : place ≠ [] := hp ▸ h.place_ne_nil hd
  have hput : ∀ q, t.node? q = some .directory → (t.put place node).node? q = some .directory := by
    intro q hq
    have hne : q ≠ place := by
      rintro rfl
      rw [← hp, h.node?_eq] at hq
      exact hd hq
    rw [node?_put hroot, if_neg hne, hq]
  have hself : (t.put place node).node? place = some node := by
    rw [node?_put hroot, if_pos rfl]
  induction h with
  | here found =>
    obtain rfl := hp
    exact .here hself
  | free dir search entry none =>
    obtain rfl := hp
    exact .step (hput _ dir) (.down search entry) (.here hself)
  | step dir enters more ih => exact .step (hput _ dir) (enters.put place node) (ih hd hp)

theorem Reaches.of_concat {last : Text} (hl : IsEntry last)
    (h : Reaches t here (parts ++ [last]) spot) :
    ∃ dir, Reaches t here parts (.occupied dir .directory) ∧ spot.place = dir ++ [last] := by
  induction parts generalizing here with
  | nil =>
    cases h with
    | free dir search entry none => exact ⟨here, .here dir, rfl⟩
    | step dir enters more =>
      cases enters with
      | stay => exact absurd rfl hl.ne_nil
      | self search => exact absurd rfl hl.ne_dot
      | up search => exact absurd rfl hl.ne_up
      | down search entry =>
        cases more with
        | here found => exact ⟨here, .here dir, rfl⟩
  | cons part parts ih =>
    have hne : parts ++ [last] ≠ [] := List.append_ne_nil_of_right_ne_nil _ (List.cons_ne_nil _ _)
    rw [List.cons_append] at h
    generalize parts ++ [last] = rest at h hne ih
    cases h with
    | free dir search entry none => exact absurd rfl hne
    | step dir enters more =>
      obtain ⟨place, hplace, hspot⟩ := ih more
      exact ⟨place, .step dir enters hplace, hspot⟩

theorem Reaches.concat_nil {dir : Location} (h : Reaches t here parts (.occupied dir .directory)) :
    Reaches t here (parts ++ [[]]) (.occupied dir .directory) := by
  generalize hs : Spot.occupied dir .directory = spot at h
  induction h with
  | here found =>
    cases hs
    exact .step found .stay (.here found)
  | free dir search entry none => cases hs
  | step dir enters more ih => exact .step dir enters (ih hs)

/-- Where a path begins, and its parts from there. -/
def route (t : FileTree) : Text → Location × List Text
  | '/' :: rest => ([], Text.splitAt '/' rest)
  | path => (t.workDir, Text.splitAt '/' path)

theorem route_root (t : FileTree) (rest : Text) :
    t.route ('/' :: rest) = ([], Text.splitAt '/' rest) := rfl

theorem route_of_ne {c : Char} (hc : c ≠ '/') (rest : Text) :
    t.route (c :: rest) = (t.workDir, Text.splitAt '/' (c :: rest)) := by
  rw [route]
  rintro rest' h
  cases h
  exact hc rfl

theorem route_of_notMem (h : '/' ∉ path) : t.route path = (t.workDir, Text.splitAt '/' path) := by
  cases path with
  | nil => rfl
  | cons c path => exact route_of_ne (List.ne_of_not_mem_cons h).symm path

theorem find_eq (t : FileTree) (path : Text) : t.find path =
    if path.contains '\x00' then .error .nullByte
    else if path = [] then .error .missing
    else t.walk (t.route path).1 (t.route path).2 := by
  unfold find
  cases path with
  | nil => rfl
  | cons c rest =>
    by_cases hc : c = '/'
    · rw [hc]
      rfl
    · rw [route_of_ne hc, if_neg (List.cons_ne_nil c rest)]
      split_ifs
      · rfl
      · split
        · rename_i h
          cases h
        · rename_i h
          cases h
          exact absurd rfl hc
        · rfl

theorem find_eq_ok : t.find path = .ok spot ↔
    '\x00' ∉ path ∧ path ≠ [] ∧ Reaches t (t.route path).1 (t.route path).2 spot := by
  rw [find_eq, ← List.contains_iff_mem, ← walk_eq_ok]
  split_ifs with hc hn
  · exact iff_of_false (fun h => by cases h) fun h => h.1 hc
  · exact iff_of_false (fun h => by cases h) fun h => h.2.1 hn
  · exact ⟨fun h => ⟨hc, hn, h⟩, fun h => h.2.2⟩

theorem route_append (t : FileTree) {path : Text} (hp : path ≠ []) (rest : Text) :
    t.route (path ++ '/' :: rest) =
      ((t.route path).1, (t.route path).2 ++ Text.splitAt '/' rest) := by
  cases path with
  | nil => exact absurd rfl hp
  | cons c path =>
    rw [List.cons_append]
    by_cases hc : c = '/'
    · rw [hc, route_root, route_root, Text.splitAt_append_cons]
    · rw [route_of_ne hc, route_of_ne hc, ← List.cons_append, Text.splitAt_append_cons]

theorem find_join {dir file : Text} (hd : dir ≠ []) (hs : '/' ∉ file) (hf : IsEntry file)
    (h : t.find (Path.join dir file) = .ok spot) :
    ∃ place, t.find dir = .ok (.occupied place .directory) ∧ spot.place = place ++ [file] := by
  have hfile : Text.splitAt '/' file = [file] := Text.splitAt_of_notMem hs
  rcases Path.join_eq hd hs with ⟨front, rfl, hjoin⟩ | ⟨-, hjoin⟩
  · rw [hjoin] at h
    obtain ⟨hc, -, hw⟩ := find_eq_ok.1 h
    have hc' : '\x00' ∉ front ++ ['/'] := by
      intro hm
      rw [List.append_cons] at hc
      exact hc (List.mem_append_left file hm)
    cases front with
    | nil =>
      rw [List.nil_append, route_root, hfile, ← List.nil_append [file]] at hw
      obtain ⟨place, hplace, hp⟩ := hw.of_concat hf
      exact ⟨place, find_eq_ok.2 ⟨hc', hd, hplace.concat_nil⟩, hp⟩
    | cons c front =>
      rw [route_append t (List.cons_ne_nil c front), hfile] at hw
      obtain ⟨place, hplace, hp⟩ := hw.of_concat hf
      refine ⟨place, find_eq_ok.2 ⟨hc', hd, ?_⟩, hp⟩
      rw [route_append t (List.cons_ne_nil c front)]
      exact hplace.concat_nil
  · rw [hjoin] at h
    obtain ⟨hc, -, hw⟩ := find_eq_ok.1 h
    have hc' : '\x00' ∉ dir := fun hm => hc (List.mem_append_left _ hm)
    rw [route_append t hd, hfile] at hw
    obtain ⟨place, hplace, hp⟩ := hw.of_concat hf
    exact ⟨place, find_eq_ok.2 ⟨hc', hd, hplace⟩, hp⟩

theorem find_put (h : t.find path = .ok spot) (hd : spot.node? ≠ some .directory)
    (hp : spot.place = place) (node : Node) :
    (t.put place node).find path = .ok (.occupied place node) := by
  obtain ⟨hc, hn, hw⟩ := find_eq_ok.1 h
  exact find_eq_ok.2 ⟨hc, hn, hw.put hd hp node⟩

theorem makeDir_grown (h : t.makeDir path = .ok u) : Grown t u := by
  rw [makeDir] at h
  split at h
  case h_1 place hplace =>
    split_ifs at h
    cases h
    obtain ⟨-, -, hw⟩ := find_eq_ok.1 hplace
    have hroot : place ≠ [] := hw.place_ne_nil (by simp [Spot.node?])
    have hnone : t.node? place = none := hw.node?_eq
    refine ⟨rfl, rfl, fun q => ?_⟩
    rw [node?_put hroot]
    split_ifs with hq
    · rw [hq]
      exact .inr ⟨hnone, rfl⟩
    · exact .inl rfl
  case h_2 => cases h
  case h_3 => cases h

theorem finish_grown (reuse : Bool) (path : Text) (t : FileTree) :
    Grown t (makeDirs.finish reuse path t).1 := by
  rw [makeDirs.finish]
  split
  case h_1 u hu => exact makeDir_grown hu
  case h_2 =>
    split_ifs
    · exact .refl t
    · exact .refl t

theorem makeDirs_grown (reuse : Bool) (t : FileTree) (path : Text) :
    Grown t (t.makeDirs reuse path).1 := by
  fun_induction makeDirs reuse t path with
  | case1 path parts above u fault made other ih =>
    rw [made] at ih
    exact ih
  | case2 path parts above u fault made other dot ih =>
    rw [made] at ih
    exact ih
  | case3 path parts above u fault made other dot ih =>
    rw [made] at ih
    exact ih.trans (finish_grown reuse path u)
  | case4 path parts above u made dot ih =>
    rw [made] at ih
    exact ih
  | case5 path parts above u made dot ih =>
    rw [made] at ih
    exact ih.trans (finish_grown reuse path u)
  | case6 path parts above => exact finish_grown reuse path t

/-- Whether a file can be put somewhere does not depend on its content. -/
theorem putFile_cases (t : FileTree) (path : Text) :
    (∃ fault, ∀ c, t.putFile path c = .error fault) ∨
      ∃ spot, t.find path = .ok spot ∧ spot.node? ≠ some .directory ∧
        ∀ c, t.putFile path c = .ok (t.put spot.place (.file c)) := by
  cases hfind : t.find path with
  | ok spot =>
    simp only [putFile, hfind]
    cases spot with
    | vacant place =>
      by_cases hright : t.allows place.dropLast .write = true
      · exact .inr ⟨_, rfl, by simp [Spot.node?], fun _ => if_pos hright⟩
      · exact .inl ⟨_, fun _ => if_neg hright⟩
    | occupied place node =>
      cases node with
      | file old =>
        by_cases hright : t.allows place .write = true
        · exact .inr ⟨_, rfl, by simp [Spot.node?], fun _ => if_pos hright⟩
        · exact .inl ⟨_, fun _ => if_neg hright⟩
      | directory => exact .inl ⟨_, fun _ => rfl⟩
  | error cause =>
    simp only [putFile, hfind]
    split
    all_goals exact .inl ⟨_, fun _ => rfl⟩

/-- The second tree is the first one with a file at the end of a path, and with directories. What is
allowed is the same in both. -/
structure Holds (t u : FileTree) (path : Text) (c : Content) (place : Location) : Prop where
  found : u.find path = .ok (.occupied place (.file c))
  bars : u.bars = t.bars
  others : ∀ q, q ≠ place → u.node? q = t.node? q ∨ t.node? q = none ∧ u.node? q = some .directory

theorem holds_put (hg : Grown t t') (h : t'.find path = .ok spot)
    (hd : spot.node? ≠ some .directory) (c : Content) :
    Holds t (t'.put spot.place (.file c)) path c spot.place where
  found := find_put h hd rfl _
  bars := hg.bars
  others q hq := by
    obtain ⟨-, -, hw⟩ := find_eq_ok.1 h
    rw [node?_put (hw.place_ne_nil hd), if_neg hq]
    exact hg.nodes q

theorem holds_of_putFile {c : Content} (hg : Grown t t') (h : t'.putFile path c = .ok u) :
    ∃ place, Holds t u path c place := by
  obtain ⟨fault, hfault⟩ | ⟨spot, hspot, hd, hput⟩ := t'.putFile_cases path
  · rw [hfault] at h
    cases h
  · rw [hput] at h
    cases h
    exact ⟨spot.place, holds_put hg hspot hd c⟩

theorem Holds.content_eq {c : Content} (h : Holds t u path c place) :
    u.content path = if t.allows place .read then .ok c else .error ⟨.denied, path⟩ := by
  have hright : u.allows place .read = t.allows place .read := by rw [allows, allows, h.bars]
  rw [content, h.found, ← hright]

end FileTree

/-- Whether writing fails does not depend on the text. If it fails, it has at most made
directories. -/
theorem Filing.writeTo_cases (t : FileTree) (path : Text) :
    (∃ u fault, t.Grown u ∧ ∀ s, writeTo t path s = (u, some fault)) ∨
      ∃ (u : FileTree) (place : Location), ∀ s, writeTo t path s =
          (u.put place (.file (.text s)), none) ∧
        t.Holds (u.put place (.file (.text s))) path (.text s) place := by
  have hgrown : t.Grown (if (Path.directory path).isEmpty then (t, none)
      else t.makeDirs true (Path.directory path)).1 := by
    split_ifs
    · exact .refl t
    · exact FileTree.makeDirs_grown true t (Path.directory path)
  simp only [writeTo]
  cases hdir : if (Path.directory path).isEmpty then (t, none)
      else t.makeDirs true (Path.directory path) with
  | mk u fault? =>
    rw [hdir] at hgrown
    cases fault? with
    | some fault => exact .inl ⟨u, fault, hgrown, fun _ => rfl⟩
    | none =>
      dsimp only
      obtain ⟨fault, hfault⟩ | ⟨spot, hspot, hd, hput⟩ := u.putFile_cases path
      · refine .inl ⟨u, fault, hgrown, fun s => ?_⟩
        rw [hfault]
      · refine .inr ⟨u, spot.place, fun s => ?_⟩
        rw [hput]
        exact ⟨rfl, FileTree.holds_put hgrown hspot hd (.text s)⟩

theorem Filing.holds_or_grown (t : FileTree) (path s : Text) :
    (∃ place, t.Holds (writeTo t path s).1 path (.text s) place) ∨
      (writeTo t path s).2 ≠ none ∧ t.Grown (writeTo t path s).1 := by
  obtain ⟨u, fault, hgrown, hw⟩ | ⟨u, place, hw⟩ := writeTo_cases t path
  · rw [hw]
    exact .inr ⟨Option.some_ne_none fault, hgrown⟩
  · rw [(hw s).1]
    exact .inl ⟨place, (hw s).2⟩

end JavaSketch
