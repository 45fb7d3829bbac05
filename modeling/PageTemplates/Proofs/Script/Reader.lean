import PageTemplates.Proofs.Script.Names
import PageTemplates.Script.Literal

/-!
# Reading generated script

The part of the script language that pages are compiled to, as a reader that
goes over a text once, character by character, with the open brackets on a
stack:

* expressions are strings in single quotes, which `+` concatenates, dotted
  names, `null`, `0`, the empty object, arrays, and calls of named functions
  (`readExpr?`);
* functions build up a result by statements and give it back
  (`readFunction?`).

The reader is a function, so a text stands for one expression at most.
-/

namespace PageTemplates.Script

/-! ## Expressions -/

/-- An expression. Strings that are concatenated are one text. -/
inductive Expr where
  | text (s : String)
  | null
  | zero
  | object
  | name (s : String)
  | array (items : List Expr)
  | call (function : String) (arguments : List Expr)

/-- What a word stands for. -/
def wordExpr? (cs : List Char) : Option Expr :=
  if cs = ['n', 'u', 'l', 'l'] then some .null
  else if isDottedName cs then some (.name (String.ofList cs))
  else none

/-! ## The reader -/

/-- Where the reader is: in front of an expression, which a bracket that was
just `opened` can do without; in a word; in a string, in one of its escapes, or
in the digits of one; in an object; behind an expression; behind a `+`; in the
text between two statements; behind a function. -/
inductive Spot where
  | start (opened : Bool)
  | word (cs : List Char)
  | text (cs : List Char)
  | escape (cs : List Char)
  | code (cs : List Char) (digits : List Nat)
  | brace
  | ended (e : Expr)
  | more (cs : List Char)
  | line (cs : List Char)
  | finished

/-- An open bracket with the expressions in it so far: an array, or the
arguments of a function. -/
structure Frame where
  function? : Option String
  items : List Expr

/-- What was read: the expressions of finished statements, the open brackets,
innermost first, and where the reader is. -/
structure State where
  done : List Expr
  frames : List Frame
  spot : Spot

/-- The text from one statement to the next. -/
def nextLine : List Char := "\nresult += ".toList

/-- The text from the last statement to the end of a function. -/
def lastLine : List Char := "\nreturn result;\n\x7d\n".toList

namespace State

/-- Closes the innermost bracket. -/
def close (s : State) (c : Char) : Option State :=
  match s.frames with
  | [] => none
  | ⟨none, items⟩ :: fs =>
      if c == ']' then some { s with frames := fs, spot := .ended (.array items) } else none
  | ⟨some f, items⟩ :: fs =>
      if c == ')' then some { s with frames := fs, spot := .ended (.call f items) } else none

/-- Takes an expression into the innermost bracket. -/
def take (s : State) (e : Expr) : Option State :=
  match s.frames with
  | [] => none
  | f :: fs =>
      some { s with frames := { f with items := f.items ++ [e] } :: fs, spot := .start false }

/-- Goes on behind an expression. -/
def follow (s : State) (e : Expr) (c : Char) : Option State :=
  if c == ',' then s.take e
  else if c == ';' then
    if s.frames.isEmpty then some { s with done := s.done ++ [e], spot := .line [] } else none
  else (s.take e).bind (·.close c)

/-- Goes on between two statements. -/
def stepLine (s : State) (cs : List Char) : Option State :=
  if cs == nextLine then some { s with spot := .start false }
  else if cs == lastLine then some { s with spot := .finished }
  else if cs.isPrefixOf nextLine || cs.isPrefixOf lastLine then some { s with spot := .line cs }
  else none

/-- Goes on in front of an expression. -/
def stepStart (s : State) (opened : Bool) (c : Char) : Option State :=
  if c == ' ' then some s
  else if c == '\'' then some { s with spot := .text [] }
  else if c == '[' then some { s with frames := ⟨none, []⟩ :: s.frames, spot := .start true }
  else if c == '\x7b' then some { s with spot := .brace }
  else if c == '0' then some { s with spot := .ended .zero }
  else if isNameStart c then some { s with spot := .word [c] }
  else if opened then s.close c
  else none

/-- Goes on in a string. -/
def stepText (s : State) (cs : List Char) (c : Char) : Option State :=
  if c == '\'' then some { s with spot := .ended (.text (String.ofList cs)) }
  else if c == '\\' then some { s with spot := .escape cs }
  else if c == '\n' || c == '\r' then none
  else some { s with spot := .text (cs ++ [c]) }

/-- Goes on in the digits of an escape. -/
def stepCode (s : State) (cs : List Char) (digits : List Nat) (c : Char) : Option State := do
  let n ← hexValue? c
  match digits with
  | [x, y, z] =>
      some { s with spot := .text (cs ++ [Char.ofNat (((x * 16 + y) * 16 + z) * 16 + n)]) }
  | _ => some { s with spot := .code cs (digits ++ [n]) }

/-- Goes on in a word. -/
def stepWord (s : State) (cs : List Char) (c : Char) : Option State :=
  if isNameChar c || c == '.' then some { s with spot := .word (cs ++ [c]) }
  else if c == '(' then
    if isDottedName cs then
      some { s with frames := ⟨some (String.ofList cs), []⟩ :: s.frames, spot := .start true }
    else none
  else (wordExpr? cs).bind fun e => s.follow e c

def step (s : State) (c : Char) : Option State :=
  match s.spot with
  | .start opened => s.stepStart opened c
  | .word cs => s.stepWord cs c
  | .text cs => s.stepText cs c
  | .escape cs =>
      if c == 'u' then some { s with spot := .code cs [] }
      else (simpleEscape? c).map fun x => { s with spot := .text (cs ++ [x]) }
  | .code cs digits => s.stepCode cs digits c
  | .brace => if c == '\x7d' then some { s with spot := .ended .object } else none
  | .ended (.text t) =>
      if c == '+' then some { s with spot := .more t.toList } else s.follow (.text t) c
  | .ended e => s.follow e c
  | .more cs => if c == '\'' then some { s with spot := .text cs } else none
  | .line cs => s.stepLine (cs ++ [c])
  | .finished => none

/-- Reads characters one after the other. -/
def run (s : State) (cs : List Char) : Option State := cs.foldlM step s

def read (s : State) (t : String) : Option State := s.run t.toList

/-- The expression that was read, if it is complete and nothing else was
read. -/
def result? (s : State) : Option Expr :=
  match s with
  | ⟨[], [], .ended e⟩ => some e
  | ⟨[], [], .word cs⟩ => wordExpr? cs
  | _ => none

/-- The expressions of the statements that were read, if a function is
complete. -/
def statements? (s : State) : Option (List Expr) :=
  match s.spot with
  | .finished => some s.done
  | _ => none

end State

/-- The expression that a text stands for. -/
def readExpr? (t : String) : Option Expr :=
  ((State.mk [] [] (.start false)).read t).bind (·.result?)

/-- What stands behind `word`, if a text begins with it. -/
def behind? : List Char → List Char → Option (List Char)
  | [], cs => some cs
  | _ :: _, [] => none
  | w :: ws, c :: cs => if w == c then behind? ws cs else none

/-- The name of the function that a text defines, and the expressions that its
result is built up from. -/
def readFunction? (t : String) : Option (String × List Expr) := do
  let cs ← behind? "function ".toList t.toList
  let name := cs.takeWhile isNameChar
  let cs ← behind? "(contextValues, contextI, params) \x7b\nvar result = ".toList
    (cs.dropWhile isNameChar)
  let s ← (State.mk [] [] (.start false)).run cs
  let es ← s.statements?
  if isIdentifier name then some (String.ofList name, es) else none

/-! ## Calls

A template is an array of strings and of nested calls, each the name of a
function with an array of its arguments. -/

mutual

/-- A call of a function. -/
inductive Call where
  | mk (function : String) (arguments : List Argument)

/-- An argument of a call: a text, none, or a template with the calls in it. -/
inductive Argument where
  | text (s : String)
  | null
  | template (calls : List Call)

end

mutual

/-- The argument that an expression stands for. -/
def argument? : Expr → Option Argument
  | .text s => some (.text s)
  | .null => some .null
  | .array items => (calls? items).map .template
  | _ => none

/-- The arguments that expressions stand for. -/
def arguments? : List Expr → Option (List Argument)
  | [] => some []
  | e :: es => do return (← argument? e) :: (← arguments? es)

/-- The calls in a template. -/
def calls? : List Expr → Option (List Call)
  | [] => some []
  | .text _ :: es => calls? es
  | .name f :: .array args :: es => do return .mk f (← arguments? args) :: (← calls? es)
  | _ => none

end

end PageTemplates.Script
