import JavaSketch.Text.Basic

/-!
Sample sketches, line by line.
-/

namespace JavaSketch.Demo

/-- The text of a sketch with the given lines. -/
def sketch (lines : List String) : Text := Text.unlines (lines.map String.toList)

/-- A program with a template and types in front of names. -/
def persons : List String :=
  ["program TestProgram",
   "template Person",
   "    template vars:",
   "        * int totalPersons = 0",
   "    ",
   "    instance vars:",
   "        * String name",
   "        - int age",
   "    ",
   "    constructor:",
   "        * Person(name, age)",
   "            this.name = name",
   "            this.age = age",
   "            totalPersons += 1",
   "    ",
   "    template methods:",
   "        * getTotalPersons() -> int",
   "            return totalPersons",
   "    ",
   "    instance methods:",
   "        * greet()",
   "            print f\"Hello, I'm \x7bname\x7d and I'm \x7bage\x7d years old\"",
   "        ",
   "        * isAdult() -> boolean",
   "            return age >= 18",
   "    ",
   "    getters setters:",
   "        * name",
   "        - age",
   "",
   "main",
   "    create alice as Person with \"Alice\", 25",
   "    make bob as Person with \"Bob\", 17",
   "    ",
   "    alice.greet()",
   "    bob.greet()",
   "    ",
   "    if alice.isAdult():",
   "        print f\"\x7balice.name\x7d is an adult\"",
   "    ",
   "    if not bob.isAdult():",
   "        print f\"\x7bbob.name\x7d is a minor\"",
   "    ",
   "    print f\"Total persons: \x7bPerson.getTotalPersons()\x7d\""]

/-- The same program with everything indented under its name. -/
def indentedPersons : List String :=
  match persons with
  | name :: rest => name :: rest.map ("    " ++ ·)
  | [] => []

/-- Static methods and inferred types. -/
def calculator : List String :=
  ["template Calculator",
   "    template methods:",
   "        * add(a, b) -> double",
   "            return a + b",
   "        ",
   "        * subtract(a, b) -> double",
   "            return a - b",
   "        ",
   "        * multiply(a, b) -> double",
   "            return a * b",
   "        ",
   "        * divide(a, b) -> double",
   "            if b == 0:",
   "                print \"Error: Division by zero!\"",
   "                return 0.0",
   "            return a / b",
   "        ",
   "        * power(base, exponent) -> double",
   "            var result = 1.0",
   "            for i in range(0, exponent):",
   "                result *= base",
   "            return result",
   "",
   "main",
   "    var a = 10.5",
   "    var b = 3.2",
   "    ",
   "    print f\"Calculator Demo:\"",
   "    print f\"a = \x7ba\x7d, b = \x7bb\x7d\"",
   "    ",
   "    var sum = Calculator.add(a, b)",
   "    var diff = Calculator.subtract(a, b)",
   "    var product = Calculator.multiply(a, b)",
   "    var quotient = Calculator.divide(a, b)",
   "    var squared = Calculator.power(a, 2)",
   "    ",
   "    print f\"Addition: \x7ba\x7d + \x7bb\x7d = \x7bsum\x7d\"",
   "    print f\"Subtraction: \x7ba\x7d - \x7bb\x7d = \x7bdiff\x7d\"",
   "    print f\"Multiplication: \x7ba\x7d * \x7bb\x7d = \x7bproduct\x7d\"",
   "    print f\"Division: \x7ba\x7d / \x7bb\x7d = \x7bquotient:.2f\x7d\"",
   "    print f\"Power: \x7ba\x7d ^ 2 = \x7bsquared:.2f\x7d\"",
   "    ",
   "    var zeroTest = Calculator.divide(a, 0)",
   "    print f\"Division by zero test: \x7bzeroTest\x7d\""]

/-- What may differ between the sketches of students: the opening line, the names of the sections
with static members, the type of the identifier, the parameters of a grade, and whether printed
texts are quoted. -/
structure Students where
  opening : String := "template Student"
  vars : String := "template vars"
  methods : String := "template methods"
  idType : String := "int"
  gradeParams : String := "string course, double grade"
  quoted : Bool := false

def Students.printed (s : Students) (indentation text : String) : String :=
  if s.quoted then indentation ++ "print f\"" ++ text ++ "\"" else indentation ++ "print " ++ text

def students (s : Students) : List String :=
  [s.opening,
   "    " ++ s.vars ++ ":",
   "        * totalStudents as int with 0",
   "        - schoolName as string with \"Tech University\"",
   "        ",
   "    instance vars:",
   "        * studentId as " ++ s.idType,
   "        * name as string",
   "        - grades as arraylist/double",
   "        + courses as arraylist/string",
   "        gpa as double",
   "        ",
   "    constructor:",
   "        * Student(studentId, name)",
   "            this.studentId = studentId",
   "            this.name = name",
   "            this.grades = arraylist",
   "            this.courses = arraylist",
   "            this.gpa = 0.0",
   "            totalStudents += 1",
   "            ",
   "    " ++ s.methods ++ ":",
   "        * getTotalStudents() returns int",
   "            return totalStudents",
   "            ",
   "        * getSchoolName() returns string",
   "            return schoolName",
   "            ",
   "    instance methods:",
   "        * addGrade(" ++ s.gradeParams ++ ")",
   "            courses.add(course)",
   "            grades.add(grade)",
   "            updateGPA()",
   s.printed "            " "Added grade \x7bgrade\x7d for course \x7bcourse\x7d",
   "            ",
   "        * getGPA() returns double",
   "            return gpa",
   "            ",
   "        - updateGPA()",
   "            if grades.size() == 0:",
   "                gpa = 0.0",
   "                return",
   "                ",
   "            total as double = 0.0",
   "            for grade in grades:",
   "                total += grade",
   "                ",
   "            gpa = total / grades.size()",
   "            ",
   "        * printTranscript()",
   s.printed "            " "=== TRANSCRIPT ===",
   s.printed "            " "Student: \x7bname\x7d (ID: \x7bstudentId\x7d)",
   s.printed "            " "School: \x7bgetSchoolName()\x7d",
   s.printed "            " "Courses: \x7bcourses.size()\x7d",
   s.printed "            " "GPA: \x7bgpa:.2f\x7d",
   "            ",
   "            for i in range(courses.size()):",
   "                courseName as string = courses.get(i)",
   "                grade as double = grades.get(i)",
   s.printed "                " "\x7bcourseName\x7d: \x7bgrade\x7d",
   "    ",
   "    getters setters:",
   "        * name",
   "        + studentId",
   "",
   "main",
   s.printed "    " "Welcome to \x7bStudent.getSchoolName()\x7d",
   "    ",
   "    create alice as Student with \"S001\", \"Alice Johnson\"",
   "    make bob as Student with \"S002\", \"Bob Smith\"",
   "    ",
   "    alice.addGrade(\"Math\", 92.5)",
   "    alice.addGrade(\"Science\", 88.0)",
   "    alice.addGrade(\"English\", 95.0)",
   "    ",
   "    bob.addGrade(\"Math\", 78.5)",
   "    bob.addGrade(\"Science\", 82.0)",
   "    bob.addGrade(\"History\", 90.0)",
   "    ",
   "    alice.printTranscript()",
   "    bob.printTranscript()",
   "    ",
   s.printed "    " "Total students: \x7bStudent.getTotalStudents()\x7d"]

/-- A template by another word, with comments between the parts. -/
def vehicles : List String :=
  ["blueprint Vehicle",
   "    instance vars:",
   "        * make as string",
   "        * model as string",
   "        * year as int",
   "        ",
   "    constructor:",
   "        * Vehicle(make, model, year)",
   "            this.make = make",
   "            this.model = model",
   "            this.year = year",
   "            ",
   "    instance methods:",
   "        * getInfo() returns string",
   "            return make + \" \" + model + \" (\" + year + \")\"",
   "",
   "// This could also be written as:",
   "// template Vehicle  (traditional way)",
   "// design Vehicle    (architect-friendly)",
   "// class Vehicle     (Java-like)",
   "",
   "main",
   "    create car as Vehicle with \"Toyota\", \"Camry\", 2023",
   "    print Vehicle info: \x7b\x7bcar.getInfo()\x7d\x7d"]

/-- Static sections that are named with different words. -/
def countedVehicles : List String :=
  ["blueprint Vehicle",
   "    template vars:",
   "        * vehicleCount as int with 0",
   "        ",
   "    instance vars:",
   "        * make as string",
   "        * model as string",
   "        * year as int",
   "        ",
   "    constructor:",
   "        * Vehicle(make, model, year)",
   "            this.make = make",
   "            this.model = model",
   "            this.year = year",
   "            vehicleCount += 1",
   "            ",
   "    blueprint methods:",
   "        * getVehicleCount() returns int",
   "            return vehicleCount",
   "            ",
   "    instance methods:",
   "        * getInfo() returns string",
   "            return make + \" \" + model + \" (\" + year + \")\"",
   "",
   "main",
   "    create car as Vehicle with \"Toyota\", \"Camry\", 2023",
   "    print Vehicle info: \x7b\x7bcar.getInfo()\x7d\x7d",
   "    print Total vehicles: \x7b\x7bVehicle.getVehicleCount()\x7d\x7d"]

/-- Constructors that are lists of parameters. -/
def listedCars : List String :=
  ["template Car",
   "    template vars:",
   "        * totalCars as int with 0",
   "        ",
   "    instance vars:",
   "        * name as string",
   "        * model as string",
   "        * year as int",
   "        ",
   "    constructor:",
   "        * name:",
   "            totalCars++",
   "            print f\"Creating car: \x7bname\x7d\"",
   "            ",
   "        * name, model:",
   "            totalCars++",
   "            print f\"Creating \x7bmodel\x7d named \x7bname\x7d\"",
   "            ",
   "        * name, model, year:",
   "            totalCars++",
   "            if year < 2000:",
   "                print \"This is a vintage car!\"",
   "",
   "main",
   "    create car1 as Car with \"Lightning\"",
   "    create car2 as Car with \"Herbie\", \"Beetle\"",
   "    create car3 as Car with \"Kitt\", \"Trans Am\", 1982",
   "    print f\"Total cars created: \x7bCar.totalCars\x7d\""]

/-- Constructors that are written as calls. -/
def calledStudents : List String :=
  ["template Student",
   "    template vars:",
   "        * totalStudents as int with 0",
   "        ",
   "    instance vars:",
   "        * studentId as string",
   "        * name as string",
   "        * gpa as double",
   "        ",
   "    constructor:",
   "        * Student(studentId):",
   "            this.studentId = studentId",
   "            this.name = \"Unknown\"",
   "            this.gpa = 0.0",
   "            totalStudents++",
   "            ",
   "        * Student(studentId, name):",
   "            this.studentId = studentId",
   "            this.name = name",
   "            this.gpa = 0.0",
   "            totalStudents++",
   "            print f\"Student \x7bname\x7d enrolled with ID \x7bstudentId\x7d\"",
   "            ",
   "        * Student(studentId, name, gpa):",
   "            this.studentId = studentId",
   "            this.name = name",
   "            this.gpa = gpa",
   "            totalStudents++",
   "",
   "main",
   "    create alice as Student with \"S001\"",
   "    create bob as Student with \"S002\", \"Bob Smith\"",
   "    create charlie as Student with \"S003\", \"Charlie Brown\", 3.8",
   "    print f\"Total students: \x7bStudent.totalStudents\x7d\""]

/-- One constructor that is written as a call. -/
def enrolledStudents : List String :=
  ["template Student",
   "    template vars:",
   "        * totalStudents as int with 0",
   "        ",
   "    instance vars:",
   "        * studentId as string",
   "        * name as string",
   "        * gpa as double",
   "        ",
   "    constructor:",
   "        * Student(studentId, name):",
   "            this.studentId = studentId",
   "            this.name = name",
   "            this.gpa = 0.0",
   "            totalStudents++",
   "            print f\"Student \x7bname\x7d enrolled with ID \x7bstudentId\x7d\"",
   "",
   "main",
   "    create alice as Student with \"S001\", \"Alice Johnson\"",
   "    print f\"Total students: \x7bStudent.totalStudents\x7d\""]

/-- Constructors of both kinds. -/
def mixedVehicles : List String :=
  ["blueprint Vehicle",
   "    blueprint vars:",
   "        * totalVehicles as int with 0",
   "        ",
   "    instance vars:",
   "        * make as string",
   "        * model as string",
   "        * year as int",
   "        * color as string",
   "        ",
   "    constructor:",
   "        * make:",
   "            this.color = \"Unknown\"",
   "            print f\"Basic vehicle: \x7bmake\x7d\"",
   "            ",
   "        * Vehicle(make, model):",
   "            this.make = make",
   "            this.model = model",
   "            this.year = 2024",
   "            this.color = \"White\"",
   "            totalVehicles++",
   "            print f\"Standard vehicle: \x7bmake\x7d \x7bmodel\x7d\"",
   "            ",
   "        * make, model, year:",
   "            totalVehicles++",
   "            this.color = \"Black\"",
   "            if year > 2020:",
   "                print \"This is a modern vehicle\"",
   "",
   "main",
   "    create v1 as Vehicle with \"Toyota\"",
   "    create v2 as Vehicle with \"Honda\", \"Civic\"",
   "    create v3 as Vehicle with \"Tesla\", \"Model 3\", 2023",
   "    print f\"Total vehicles: \x7bVehicle.totalVehicles\x7d\""]

def designedCar : List String :=
  ["design Car",
   "    design vars:",
   "        - totalCars as int with 0",
   "    design methods:",
   "        * getCarCount() returns int",
   "            return totalCars",
   "    instance vars:",
   "        name as string with \"\"",
   "        model as string with \"\"",
   "    constructor:",
   "        * Car(name):",
   "            this.name = name",
   "            totalCars++",
   "        * Car(name, model):",
   "            this.name = name",
   "            this.model = model",
   "            totalCars++",
   "    ",
   "main",
   "    print This is a car class!",
   "    print Total \x7b\x7bCar.getCarCount()\x7d\x7d cars at the begining",
   "    create toyotaCar as Car with \"Toyota\"",
   "    create bmwCar as Car with \"BMW\"",
   "    create hondaCar as Car with \"Honda\", \"Honda\"",
   "    print Total \x7b\x7bCar.getCarCount()\x7d\x7d car(s) got created"]

def templatedStudent : List String :=
  ["template Student",
   "    template vars:",
   "        * totalStudents as int with 0",
   "        ",
   "    instance vars:",
   "        * studentId as string",
   "        * name as string",
   "        ",
   "    constructor:",
   "        * Student(studentId, name):",
   "            this.studentId = studentId",
   "            this.name = name",
   "            totalStudents++",
   "",
   "main",
   "    create alice as Student with \"S001\", \"Alice Johnson\"",
   "    print Total students: \x7b\x7bStudent.totalStudents\x7d\x7d"]

end JavaSketch.Demo
