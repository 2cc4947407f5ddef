import JavaSketch.Text.Case

/-!
Type names: from the words of a sketch to Java types, with generic containers written as
`container/element`.
-/

namespace JavaSketch

/-- Type words, in lower case, with their Java names. -/
abbrev TypeTable := List (Text × Text)

namespace TypeTable

def basic : TypeTable :=
  [("string", "String"), ("int", "int"), ("double", "double"), ("boolean", "boolean")]

def full : TypeTable :=
  [("string", "String"), ("int", "int"), ("byte", "byte"), ("short", "short"), ("long", "long"),
   ("float", "float"), ("double", "double"), ("boolean", "boolean"), ("char", "char"),
   ("arraylist", "ArrayList"), ("list", "List"), ("map", "Map"), ("hashmap", "HashMap"),
   ("set", "Set"), ("hashset", "HashSet")]

/-- The Java name of a type; a word that is not in the table names itself. -/
def javaName (table : TypeTable) (t : Text) : Text := (table.lookup t.lower).getD t

end TypeTable

namespace JavaType

/-- The primitive types with the classes that stand for them in generics. -/
def wrappers : List (Text × Text) :=
  [("int", "Integer"), ("double", "Double"), ("float", "Float"), ("boolean", "Boolean"),
   ("byte", "Byte"), ("short", "Short"), ("long", "Long"), ("char", "Character")]

def isPrimitive (t : Text) : Bool := (wrappers.lookup t.lower).isSome

def wrapper (t : Text) : Text := (wrappers.lookup t.lower).getD t

end JavaType

/-- A generic container: the words that name it, what stands between its Java name and the
element type, and the words that ask for an empty one. -/
structure Container where
  words : List Text
  javaName : Text
  keyed : Bool
  emptyWords : List Text

namespace Container

def typeOf (c : Container) (element : Text) : Text :=
  c.javaName ++ "<" ++ (if c.keyed then "String, ".toList else []) ++ element ++ ">"

/-- Whether an initial value only asks for an empty container. -/
def isEmptyValue (c : Container) : Option Text → Bool
  | none => true
  | some v => v.isEmpty || c.emptyWords.contains v

def arrayList : Container := ⟨["arraylist", "list"], "ArrayList", false, ["arraylist"]⟩
def linkedList : Container := ⟨["linkedlist"], "LinkedList", false, ["linkedlist"]⟩
def hashMap : Container := ⟨["map", "hashmap"], "HashMap", true, ["hashmap"]⟩
def treeMap : Container := ⟨["treemap"], "TreeMap", true, ["treemap"]⟩
def hashSet : Container := ⟨["set", "hashset"], "HashSet", false, ["hashset"]⟩
def treeSet : Container := ⟨["treeset"], "TreeSet", false, ["treeset"]⟩
def stack : Container := ⟨["stack"], "Stack", false, ["stack"]⟩
def queue : Container := ⟨["queue"], "ArrayDeque", false, ["queue"]⟩
def deque : Container := ⟨["deque", "arraydeque"], "ArrayDeque", false, ["deque", "arraydeque"]⟩
def vector : Container := ⟨["vector"], "Vector", false, ["vector"]⟩

def common : List Container := [arrayList, hashMap, hashSet]

def all : List Container :=
  [arrayList, linkedList, hashMap, treeMap, hashSet, treeSet, stack, queue, deque, vector]

/-- The common containers, where only a missing value asks for an empty one. -/
def unnamed : List Container := common.map fun c => { c with emptyWords := [] }

end Container

/-- The Java type and initial value of a declaration. A container of the list is created empty
when no value is given. -/
def typeAndValue (table : TypeTable) (containers : List Container) (type : Text)
    (value : Option Text) : Text × Option Text :=
  match Text.cut? "/" type with
  | none => (table.javaName type, value)
  | some (outer, inner) =>
    let outer := outer.trim.lower
    let element := table.javaName inner.trim
    let element := if JavaType.isPrimitive element then JavaType.wrapper element else element
    match containers.find? (·.words.contains outer) with
    | some c =>
      let java := c.typeOf element
      (java, if c.isEmptyValue value then some ("new " ++ java ++ "()") else value)
    | none => (table.javaName outer ++ "<" ++ element ++ ">", value)

end JavaSketch
