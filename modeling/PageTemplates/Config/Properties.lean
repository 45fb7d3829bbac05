import PageTemplates.Text.Blank
import PageTemplates.Text.Find
import PageTemplates.Text.Quoted

/-!
# Properties files

A file of `key = value` lines in sections. A line indented deeper than the line
of a key goes on with its value. Lines that begin with `#` or `;` are comments.
The file is read as if the header of the section `yst` stood in front of it, so
its own lines are counted from 2. The section `DEFAULT` holds values for keys
that another section lacks.
-/

namespace PageTemplates.Config

open Text (isBlank)

/-- Why a properties file is refused. -/
inductive PropertiesError where
  | repeatedSection (line : Nat) (name : String)
  | repeatedKey (line : Nat) (name key : String)
  | unreadable (lines : List (Nat × String))
deriving Repr, DecidableEq

/-- A line number, at least two characters wide. -/
def lineMark (n : Nat) : String :=
  "[line " ++ (if n < 10 then " " else "") ++ toString n ++ "]"

def PropertiesError.message : PropertiesError → String
  | .repeatedSection n name =>
      "While reading from '<string>' " ++ lineMark n ++ ": section " ++ Text.quoted name
        ++ " already exists"
  | .repeatedKey n name key =>
      "While reading from '<string>' " ++ lineMark n ++ ": option " ++ Text.quoted key
        ++ " in section " ++ Text.quoted name ++ " already exists"
  | .unreadable lines =>
      "Source contains parsing errors: '<string>'"
        ++ String.join (lines.map fun (n, line) =>
          "\n\t" ++ lineMark n ++ ": " ++ Text.quoted line)

/-- A key with the lines of its value, last first. -/
structure Property where
  inSection : String
  key : String
  lines : List String
deriving Repr, DecidableEq

/-- A file as far as it is read: the section that is open, the sections that
have begun, the indentation of the last header or key, whether a value may go
on, the properties, last first, and the lines that made no sense. -/
structure Reading where
  current : String := "yst"
  begun : List String := ["yst"]
  indent : Nat := 0
  goesOn : Bool := false
  properties : List Property := []
  bad : List (Nat × String) := []

namespace Reading

/-- Adds a line to the value that goes on. -/
def continueValue (r : Reading) (line : String) : Reading :=
  match r.properties with
  | p :: ps => { r with properties := { p with lines := line :: p.lines } :: ps }
  | [] => r

/-- The name in a section header. -/
def header? (value : List Char) : Option String :=
  match value with
  | '[' :: rest =>
      match Text.splitLast? ']' rest with
      | some (name, _) => if name.isEmpty then none else some (String.ofList name)
      | none => none
  | _ => none

/-- Begins a section. The defaults may be taken up again, any other section
begins once. -/
def beginSection (r : Reading) (n : Nat) (name : String) : Except PropertiesError Reading :=
  if name == "DEFAULT" then .ok { r with current := name, goesOn := false }
  else if r.begun.contains name then .error (.repeatedSection n name)
  else .ok { r with current := name, begun := name :: r.begun, goesOn := false }

/-- Takes in a key and its value; an empty key is bad. -/
def addProperty (r : Reading) (n : Nat) (line key value : String) :
    Except PropertiesError Reading :=
  let r := if key.isEmpty then { r with bad := r.bad ++ [(n, line)] } else r
  if r.properties.any fun p => p.inSection == r.current && p.key == key then
    .error (.repeatedKey n r.current key)
  else
    .ok { r with goesOn := !key.isEmpty, properties := ⟨r.current, key, [value]⟩ :: r.properties }

/-- Takes in line number `n`. -/
def step (r : Reading) (n : Nat) (line : List Char) : Except PropertiesError Reading :=
  let value := Text.trim line
  let indent := (line.takeWhile isBlank).length
  match value with
  | [] => .ok (if r.goesOn then r.continueValue "" else r)
  | c :: _ =>
      if c == '#' || c == ';' then .ok r
      -- what is indented deeper belongs to the value, even if it looks like a header
      else if r.goesOn && r.indent < indent then .ok (r.continueValue (String.ofList value))
      else
        let r := { r with indent }
        match header? value with
        | some name => r.beginSection n name
        | none =>
            let key := value.takeWhile fun c => c != '=' && c != ':'
            match value.drop key.length with
            -- reading goes on, so that all such lines are told at once
            | [] => .ok { r with bad := r.bad ++ [(n, String.ofList line)] }
            | _ :: rest =>
                r.addProperty n (String.ofList line) (String.ofList (Text.trimEnd key))
                  (String.ofList (Text.trim rest))

/-- Takes in lines that are numbered from `n`. -/
def run (r : Reading) (n : Nat) : List (List Char) → Except PropertiesError Reading
  | [] => .ok r
  | line :: lines => do (← r.step n line).run (n + 1) lines

end Reading

/-- The lines of a text, each with its line feed. -/
def linesOf : List Char → List (List Char)
  | [] => []
  | '\n' :: cs => ['\n'] :: linesOf cs
  | c :: cs =>
      match linesOf cs with
      | [] => [[c]]
      | line :: lines => (c :: line) :: lines

/-- Makes every line break a line feed. -/
def plainBreaks : List Char → List Char
  | [] => []
  | '\r' :: '\n' :: cs => '\n' :: plainBreaks cs
  | '\r' :: cs => '\n' :: plainBreaks cs
  | c :: cs => c :: plainBreaks cs

/-- The properties of a file. -/
structure Properties where
  all : List Property
deriving Repr

namespace Properties

def ofText (s : List Char) : Except PropertiesError Properties := do
  let r ← ({} : Reading).run 2 (linesOf (plainBreaks s))
  if r.bad.isEmpty then .ok ⟨r.properties⟩ else .error (.unreadable r.bad)

/-- The value of a property: its lines, without blanks at the end. -/
def value (p : Property) : String :=
  String.ofList (Text.trimEnd ("\n".intercalate p.lines.reverse).toList)

/-- The value of a key in the section `yst`, or else among the defaults. -/
def get? (ps : Properties) (key : String) : Option String :=
  let find (name : String) := ps.all.find? fun p => p.inSection == name && p.key == key
  ((find "yst").or (find "DEFAULT")).map value

end Properties

end PageTemplates.Config
