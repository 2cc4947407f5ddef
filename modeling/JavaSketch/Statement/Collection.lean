import JavaSketch.Pattern
import JavaSketch.Text.Numeral

/-!
Operations on collections, said in words. A phrase is recognised in the lower-cased statement and
then read, in any case, from the statement itself.
-/

namespace JavaSketch

open Pattern (exactly anyCase spaced)

inductive Part
  | words (t : Text)
  /-- Any text, as short as the phrase allows. -/
  | operand
  /-- The name of a collection. -/
  | receiver
  /-- Any text, as long as the phrase allows. -/
  | tail

namespace Part

def shape : Part → Pattern
  | words t => spaced ((t.splitAt ' ').map exactly)
  | operand => [.run .any 1 true false]
  | receiver => [.run .word 1 true false]
  | tail => [.run .any 1 true false]

def reader : Part → Pattern
  | words t => spaced ((t.splitAt ' ').map anyCase)
  | operand => [.run .any 1 false true]
  | receiver => [.name]
  | tail => [.run .any 1 true true]

end Part

/-- An operation: the lower-cased statements that it covers, and the Java expression for one. -/
structure Operation where
  shape : Pattern
  expression? : Text → Option Text

namespace Operation

def covers (op : Operation) (lowered : Text) : Bool := op.shape.accepts lowered

/-- An operation read by a pattern; `build` gets the kept runs. -/
def ofPattern (shape reader : Pattern) (build : List Text → Option Text) : Operation where
  shape := shape
  expression? s := reader.find? s >>= build

/-- An operation whose parts stand between blanks. -/
def ofPhrase (parts : List Part) (build : List Text → Option Text) : Operation :=
  ofPattern (spaced (parts.map Part.shape)) (spaced (parts.map Part.reader)) build

/-- An operation on a receiver alone, which is all that follows the words. -/
def onReceiver (words : Text) (build : Text → Text) : Operation where
  shape := spaced ([.words words, .receiver].map Part.shape)
  expression? s := some (build (Text.trim (s.drop (words.length + 1))))

def call (receiver method argument : Text) : Text :=
  receiver ++ "." ++ method ++ "(" ++ argument ++ ")"

/-- A method of the receiver that takes one operand. -/
def passing (first second method : Text) : Operation :=
  ofPhrase [.words first, .operand, .words second, .receiver] fun
    | [item, c] => some (call c method item.trim)
    | _ => none

/-- Removal, where a numeral is taken for a value and not for an index. -/
def removing (first : Text) : Operation :=
  ofPhrase [.words first, .operand, .words "from", .receiver] fun
    | [item, c] =>
      let item := item.trim
      some (call c "remove" (if item.isDigits then "Integer.valueOf(" ++ item ++ ")" else item))
    | _ => none

/-- A method call on the receiver without arguments. -/
def asking (words method : Text) : Operation := onReceiver words fun c => call c method []

/-- A static method applied to the receiver. -/
def applying (words method : Text) : Operation :=
  onReceiver words fun c => call "Collections" method c

/-- `c.add(first x)` and `c.add(last x)`, already half in Java. -/
def adding (place method : Text) : Operation :=
  ofPattern
    ([.run .word 1 true false] ++ exactly ".add" ++ [.space] ++ exactly "(" ++ [.space] ++
      exactly place ++ [.gap, .run .any 1 true false] ++ exactly ")")
    ([.name] ++ anyCase ".add" ++ [.space] ++ exactly "(" ++ [.space] ++ anyCase place ++
      [.gap, .run .any 1 true true] ++ exactly ")")
    fun
    | [c, item] => some (call c method item.trim)
    | _ => none

/-- `c.set(k, v)`, which stores a value under a key. -/
def storing : Operation :=
  ofPattern
    ([.run .word 1 true false] ++ exactly ".set" ++ [.space] ++ exactly "(" ++
      [.run .any 1 true false] ++ exactly ")")
    ([.name] ++ anyCase ".set" ++ [.space] ++ exactly "(" ++
      [.space, .run .any 1 false true, .space] ++ exactly "," ++
      [.space, .run .any 1 false true, .space] ++ exactly ")")
    fun
    | [c, key, value] => some (call c "put" (key.trim ++ ", " ++ value.trim))
    | _ => none

/-- Replacement of an element. -/
def setting (first : Text) : Operation :=
  ofPhrase [.words first, .operand, .words "in", .receiver, .words "to", .tail] fun
    | [index, c, value] => some (call c "set" (index.trim ++ ", " ++ value.trim))
    | _ => none

def inserting : Operation :=
  ofPhrase [.words "insert", .operand, .words "into", .receiver, .words "at", .tail] fun
    | [item, c, index] => some (call c "add" (index.trim ++ ", " ++ item.trim))
    | _ => none

def putting : Operation :=
  ofPhrase [.words "put", .operand, .words "with", .operand, .words "in", .receiver] fun
    | [key, value, c] => some (call c "put" (key.trim ++ ", " ++ value.trim))
    | _ => none

def sizes : List Operation :=
  [asking "size of" "size", asking "length of" "size", asking "count of" "size"]

def searches : List Operation :=
  [passing "contains" "in" "contains", passing "has" "in" "contains"]

/-- Reading, replacing and placing elements of a list. -/
def placements : List Operation :=
  [setting "set item at", setting "set", inserting,
   onReceiver "first in" fun c => call c "get" "0",
   onReceiver "last in" fun c => call c "get" (call c "size" [] ++ " - 1"),
   passing "index of" "in" "indexOf",
   asking "is empty" "isEmpty"]

def arrangements : List Operation :=
  [applying "sort" "sort", applying "reverse" "reverse", applying "shuffle" "shuffle"]

/-- The operations on lists, with the given forms of removal. -/
def onLists (removals : List Operation) : List Operation :=
  [passing "add" "to" "add", passing "append" "to" "add"] ++ removals ++ [asking "clear" "clear"] ++
    sizes ++ searches ++
    [passing "get item at" "from" "get", passing "get" "from" "get"] ++ placements ++ arrangements

def plainRemoval : List Operation := [passing "remove" "from" "remove"]

def removals : List Operation :=
  [passing "remove index" "from" "remove", removing "remove value", removing "remove"]

/-- The operations on all collections, in the order in which they are tried. -/
def all : List Operation :=
  [adding "first" "addFirst", adding "last" "addLast", storing,
   passing "add" "to" "add", passing "append" "to" "add"] ++ removals ++ [asking "clear" "clear"] ++
    sizes ++ searches ++
    [passing "get item at" "from" "get", asking "get first from" "getFirst",
     asking "get last from" "getLast", passing "get" "from" "get"] ++ placements ++
    [putting, asking "keys of" "keySet", asking "values of" "values",
     passing "push" "to" "push", asking "pop from" "pop", asking "peek" "peek",
     passing "enqueue" "to" "offer", asking "dequeue from" "poll",
     passing "offer" "to" "offer", asking "poll from" "poll",
     passing "add first" "to" "addFirst", passing "add last" "to" "addLast",
     asking "pop first from" "removeFirst", asking "pop last from" "removeLast"] ++ arrangements

end Operation

/-- How operations are told from other statements, and how they are read. The patterns are a list
of their own, in an order of their own. -/
structure Phrasebook where
  patterns : List Pattern
  operations : List Operation

namespace Phrasebook

def phrase (parts : List Part) : Pattern := spaced (parts.map Part.shape)

def taking (first link : Text) : Pattern :=
  phrase [.words first, .operand, .words link, .receiver]

def naming (words : Text) : Pattern := phrase [.words words, .receiver]

def replacing (first : Text) : Pattern :=
  phrase [.words first, .operand, .words "in", .receiver, .words "to", .tail]

def placing : Pattern :=
  phrase [.words "insert", .operand, .words "into", .receiver, .words "at", .tail]

def pairing : Pattern :=
  phrase [.words "put", .operand, .words "with", .operand, .words "in", .receiver]

/-- A call of a method, already in Java. -/
def calling (method : Text) (arguments : Pattern) : Pattern :=
  [.run .word 1 true false] ++ exactly method ++ [.space] ++ exactly "(" ++ arguments ++ exactly ")"

def callingAt (place : Text) : Pattern :=
  calling ".add" ([.space] ++ exactly place ++ [.gap, .run .any 1 true false])

/-- The patterns of operations on lists, with the given ones for removal. -/
def listPatterns (removals : List Pattern) : List Pattern :=
  [taking "add" "to", taking "append" "to"] ++ removals ++
    [naming "clear", naming "size of", naming "length of", naming "count of",
     taking "contains" "in", taking "has" "in", taking "get" "from", taking "get item at" "from",
     replacing "set", replacing "set item at", placing, naming "first in", naming "last in",
     taking "index of" "in", naming "is empty", naming "sort", naming "reverse", naming "shuffle"]

def removalPatterns : List Pattern :=
  [taking "remove" "from", taking "remove index" "from", taking "remove value" "from"]

/-- The patterns of operations on all collections. -/
def allPatterns : List Pattern :=
  [taking "add" "to", taking "append" "to", taking "remove" "from", taking "remove index" "from",
   taking "remove value" "from", naming "clear", naming "size of", naming "length of",
   naming "count of", naming "is empty", taking "contains" "in", taking "has" "in",
   taking "index of" "in", taking "get" "from", taking "get item at" "from",
   naming "get first from", naming "get last from", naming "first in", naming "last in",
   replacing "set", replacing "set item at", placing, pairing, naming "keys of",
   naming "values of", taking "push" "to", naming "pop from", naming "peek",
   taking "enqueue" "to", naming "dequeue from", taking "offer" "to", naming "poll from",
   taking "add first" "to", taking "add last" "to", naming "pop first from",
   naming "pop last from", callingAt "first", callingAt "last",
   calling ".set" [.run .any 1 true false], naming "sort", naming "reverse", naming "shuffle"]

def empty : Phrasebook := ⟨[], []⟩

def plainLists : Phrasebook :=
  ⟨listPatterns [taking "remove" "from"], Operation.onLists Operation.plainRemoval⟩

def indexedLists : Phrasebook :=
  ⟨listPatterns removalPatterns, Operation.onLists Operation.removals⟩

def all : Phrasebook := ⟨allPatterns, Operation.all⟩

end Phrasebook

/-- Whether a statement is recognised as an operation; printing is none. -/
def isOperation (book : Phrasebook) (s : Text) : Bool :=
  !s.startsWith "print " && (let lowered := s.lower; book.patterns.any (·.accepts lowered))

/-- The expression of the first operation that covers a statement and can be read from it; a
statement without one stays as it is. -/
def operationExpression (ops : List Operation) (s : Text) : Text :=
  let lowered := s.lower
  (ops.findSome? fun op => if op.covers lowered then op.expression? s else none).getD s

/-- The value of a declaration or assignment, where an operation is written in Java. -/
def javaValue (book : Phrasebook) (value : Text) : Text :=
  if isOperation book value then operationExpression book.operations value else value

end JavaSketch
