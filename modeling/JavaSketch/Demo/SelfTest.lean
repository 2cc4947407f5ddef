import JavaSketch.Demo.Sketches
import JavaSketch.Java.Program
import JavaSketch.Program

/-!
The self-test: sketches whose Java must hold certain texts, and one that must be refused.
-/

namespace JavaSketch.SelfTest

def helloSketch : List String :=
  ["program HelloWorld",
   "",
   "main",
   "    print \"Hello, World!\"",
   "    print \"This is a test\""]

def accessorCarSketch : List String :=
  ["design Car",
   "    design vars:",
   "        - totalCars as int with 0",
   "    design methods:",
   "        * getCarCount() returns int",
   "            return totalCars",
   "    instance vars:",
   "        - name as string with \"\"",
   "        - model as string with \"\"",
   "    constructor:",
   "        * name:",
   "            totalCars++",
   "        * name, model:",
   "            totalCars++",
   "    ",
   "    getters setters:",
   "        * name",
   "        * model",
   "    ",
   "main",
   "    print This is a car class!",
   "    print Total \x7bCar.getCarCount()\x7d cars at the begining",
   "    create toyotaCar as Car with \"Toyota\"",
   "    create bmwCar as Car with \"BMW\"",
   "    create hondaCar as Car with \"Honda\", \"Honda\"",
   "    print Total \x7bCar.getCarCount()\x7d car(s) got created",
   "    print Honda Car: \x7bhondaCar.getName()\x7d \x7bhondaCar.getModel()\x7d"]

def calledStudentSketch : List String :=
  ["template Student",
   "    template vars:",
   "        * totalStudents as int with 0",
   "        ",
   "    instance vars:",
   "        * studentId as string",
   "        * name as string",
   "        ",
   "    constructor:",
   "        * Student(studentId, name):",
   "            this.studentId = studentId",
   "            this.name = name",
   "            totalStudents++",
   "",
   "main",
   "    create alice as Student with \"S001\", \"Alice Johnson\"",
   "    print Total students: \x7bStudent.totalStudents\x7d"]

def animalSketch : List String :=
  ["abstract template Animal",
   "    instance vars:",
   "        * name as string",
   "    ",
   "    constructor:",
   "        * name:",
   "    ",
   "    abstract methods:",
   "        * makeSound() returns string",
   "        ",
   "    instance methods:",
   "        * getName() returns string",
   "            return name"]

def flyableSketch : List String :=
  ["interface Flyable",
   "    abstract methods:",
   "        * fly() returns boolean",
   "        * getAltitude() returns double"]

def dogSketch : List String :=
  ["class Dog extends Animal implements Flyable",
   "    instance vars:",
   "        * breed as string",
   "    ",
   "    constructor:",
   "        * breed:",
   "    ",
   "    instance methods:",
   "        * makeSound() returns string",
   "            return \"Woof!\"",
   "        ",
   "        * fly() returns boolean",
   "            return false"]

def mathUtilsSketch : List String :=
  ["class MathUtils",
   "    class methods:",
   "        * add(a, b) returns double",
   "            return a + b",
   "        ",
   "        * multiply(x, y) returns double",
   "            return x * y",
   "",
   "main",
   "    result as double = MathUtils.add(5.0, 3.0)",
   "    print Result: \x7bresult\x7d"]

def untypedSketch : List String :=
  ["template Test",
   "    instance vars:",
   "        name  # Missing type"]

/-- A check: the sketch, the texts that its Java must hold, and what is printed on success. -/
structure Check where
  title : Text
  sketch : List String
  expected : List Text
  remark : Text

def hello : Check where
  title := "Hello World Basic"
  sketch := helloSketch
  expected :=
    ["public class HelloWorld",
     "public static void main(String[] args)",
     "System.out.println(\"Hello, World!\");",
     "System.out.println(\"This is a test\");"]
  remark := "Basic hello world test passed"

def accessorCar : Check where
  title := "Design Car Example"
  sketch := accessorCarSketch
  expected :=
    ["public class Car",
     "private static int totalCars = 0;",
     "public static int getCarCount()",
     "private String name = \"\";",
     "private String model = \"\";",
     "public Car(String name)",
     "public Car(String name, String model)",
     "public String getName()",
     "public void setName(String name)",
     "public static void main(String[] args)"]
  remark := "Generated Java code structure verified"

def calledStudent : Check where
  title := "Backward Compatibility"
  sketch := calledStudentSketch
  expected :=
    ["public class Student",
     "public static int totalStudents = 0;",
     "public String studentId;"]
  remark := "Backward compatibility verified"

def animal : Check where
  title := "Abstract Classes"
  sketch := animalSketch
  expected :=
    ["abstract class Animal",
     "abstract String makeSound();"]
  remark := "Abstract class support verified"

def flyable : Check where
  title := "Interfaces"
  sketch := flyableSketch
  expected :=
    ["interface Flyable",
     "abstract boolean fly();",
     "abstract double getAltitude();"]
  remark := "Interface support verified"

def dog : Check where
  title := "Inheritance"
  sketch := dogSketch
  expected :=
    ["class Dog extends Animal implements Flyable"]
  remark := "Inheritance and implementation verified"

def mathUtils : Check where
  title := "Utility Methods"
  sketch := mathUtilsSketch
  expected :=
    ["public static double add(",
     "public static double multiply("]
  remark := "Utility methods verified"

def checks : List Check :=
  [hello, accessorCar, calledStudent, animal, flyable, dog, mathUtils]

/-- The result of a check: what is printed on success, or why it failed. -/
def Check.run (c : Check) : Except Text Text :=
  match Program.read Vocabulary.standard (Demo.sketch c.sketch) with
  | .error fault => .error fault.message
  | .ok p => if c.expected.all p.toJava.includes then .ok c.remark else .error []

/-- The check that a field without a type is refused. -/
def refusal : Except Text Text :=
  match Program.read Vocabulary.standard (Demo.sketch untypedSketch) with
  | .error fault => if fault.isRefusal then .ok "Error handling verified" else .error fault.message
  | .ok _ => .error "Should have raised an error for missing type"

def results : List (Text × Except Text Text) :=
  checks.map (fun c => (c.title, c.run)) ++ [("Error Handling".toList, refusal)]

def resultLines : Text × Except Text Text → List Text
  | (title, result) =>
    let verdict : List Text :=
      match result with
      | .ok remark => [remark, "✅ PASSED"]
      | .error reason => ["❌ FAILED: " ++ reason]
    [[], "🧪 Testing: ".toList ++ title, List.replicate 40 '-'] ++ verdict

def isFailure : Text × Except Text Text → Bool
  | (_, .error _) => true
  | _ => false

def failures : Nat := results.countP isFailure

/-- What the self-test prints. -/
def report : List Text :=
  ["Running Pseudo Java Parser Tests...".toList, List.replicate 60 '='] ++
    results.flatMap resultLines ++
    [[], List.replicate 60 '=',
     "Test Results: ".toList ++ Nat.toDigits 10 (results.length - failures) ++ " passed, ".toList ++
       Nat.toDigits 10 failures ++ " failed".toList,
     if failures = 0 then "All tests passed! 🎉".toList
     else "Some tests failed. Please check the error messages above.".toList]

end JavaSketch.SelfTest
