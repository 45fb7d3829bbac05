import PageTemplates.Text.Digit

/-!
# Patterns of paths

A pattern is a path in which names in braces stand for parameters. A parameter
says what it takes from a path: `int`, `float`, `uuid`, `path` for anything on
one line, or `str` for anything without a slash, which is meant if nothing is
said. What a pattern takes from a path it takes from left to right, each
parameter as much as leaves something for the others.
-/

namespace PageTemplates.Serve

/-- What a parameter takes. -/
inductive ParameterKind where
  | segment
  | path
  | integer
  | decimal
  | uuid
deriving Repr, DecidableEq

namespace ParameterKind

/-- The kind a word stands for. -/
def ofWord? : String → Option ParameterKind
  | "str" => some segment
  | "path" => some path
  | "int" => some integer
  | "float" => some decimal
  | "uuid" => some uuid
  | _ => none

/-- The numbers from `n` down to `1`. -/
def countdown (n : Nat) : List Nat := (List.range n).reverse.map (· + 1)

/-- The length of groups of hexadecimal digits in front, each of which may
follow the one before it behind a dash. -/
def groupsLength? : List Nat → List Char → Option Nat
  | [], _ => some 0
  | n :: ns, cs =>
      if n ≤ (cs.takeWhile Text.isHexDigit).length then
        let rest := cs.drop n
        let dash := if !ns.isEmpty && rest.head? == some '-' then 1 else 0
        (groupsLength? ns (rest.drop dash)).map (n + dash + ·)
      else none

/-- How many of the characters in front a parameter may take, the most
first. -/
def lengths (kind : ParameterKind) (cs : List Char) : List Nat :=
  match kind with
  | segment => countdown (cs.takeWhile (· != '/')).length
  | path => countdown (cs.takeWhile (· != '\n')).length ++ [0]
  | integer => countdown (cs.takeWhile Char.isDigit).length
  | decimal =>
      let whole := (cs.takeWhile Char.isDigit).length
      let part :=
        if whole != 0 && (cs.drop whole).head? == some '.' then
          (countdown ((cs.drop (whole + 1)).takeWhile Char.isDigit).length).map (whole + 1 + ·)
        else []
      -- with digits behind the dot first, since that takes more
      part ++ countdown whole
  | uuid => (groupsLength? [8, 4, 4, 4, 12] cs).toList

end ParameterKind

/-- A character or a parameter of a pattern. -/
inductive PatternPiece where
  | char (c : Char)
  | parameter (name : String) (kind : ParameterKind)
deriving Repr, DecidableEq

/-- A pattern of paths. -/
abbrev PathPattern := List PatternPiece

/-- Why a text is no pattern: a parameter of an unknown kind, or parameters of
the same name. -/
inductive PatternError where
  | unknownKind (word : String)
  | repeated (names : List String) (pattern : String)
deriving Repr, DecidableEq

/-- The wording of a pattern error. -/
def PatternError.message : PatternError → String
  | .unknownKind word => "Unknown path convertor '" ++ word ++ "'"
  | .repeated names pattern =>
      "Duplicated param name" ++ (if names.length = 1 then "" else "s") ++ " "
        ++ ", ".intercalate names ++ " at path " ++ pattern

namespace PathPattern

/-- A character that a name begins with. -/
def isNameStart (c : Char) : Bool := c.isAlpha || c == '_'

/-- The name in front. -/
def nameAt? (cs : List Char) : Option (List Char) :=
  if cs.head?.any isNameStart then
    some (cs.takeWhile fun c => isNameStart c || c.isDigit)
  else none

/-- The parameter in front: its name, the word for its kind, and its length. -/
def parameterAt? : List Char → Option (String × String × Nat)
  | '\x7b' :: cs => do
      let name ← nameAt? cs
      match cs.drop name.length with
      | '\x7d' :: _ => return (String.ofList name, "str", name.length + 2)
      | ':' :: rest =>
          let word ← nameAt? rest
          guard ((rest.drop word.length).head? == some '\x7d')
          return (String.ofList name, String.ofList word, name.length + word.length + 3)
      | _ => none
  | _ => none

/-- Reads a pattern; `skip` characters belong to the parameter read last. -/
def readFrom : Nat → List Char → Except PatternError PathPattern
  | _, [] => .ok []
  | skip + 1, _ :: cs => readFrom skip cs
  | 0, c :: cs =>
      match parameterAt? (c :: cs) with
      | none => (readFrom 0 cs).map (.char c :: ·)
      | some (name, word, n) =>
          match ParameterKind.ofWord? word with
          | none => .error (.unknownKind word)
          | some kind => (readFrom (n - 1) cs).map (.parameter name kind :: ·)

def names (p : PathPattern) : List String :=
  p.filterMap fun
    | .char _ => none
    | .parameter name _ => some name

/-- Reads a pattern, in which no two parameters have the same name. -/
def ofText (s : String) : Except PatternError PathPattern := do
  let p ← readFrom 0 s.toList
  let repeated := (names p).filter fun n => 1 < (names p).count n
  if repeated.isEmpty then return p
  else throw (.repeated (repeated.eraseDups.mergeSort (· ≤ ·)) s)

/-- What the parameters take from a path, the first to take most. -/
def taken? : PathPattern → List Char → Option (List (String × ParameterKind × List Char))
  -- the end of a pattern also matches in front of a last line feed
  | [], cs => if cs.isEmpty || cs == ['\n'] then some [] else none
  | .char c :: ps, cs => if cs.head? == some c then taken? ps (cs.drop 1) else none
  | .parameter name kind :: ps, cs =>
      (kind.lengths cs).findSome? fun n =>
        (taken? ps (cs.drop n)).map ((name, kind, cs.take n) :: ·)

/-- The number of digits of the first integer that has too many. -/
def overlong? (taken : List (String × ParameterKind × List Char)) : Option Nat :=
  taken.findSome? fun (_, kind, value) =>
    if kind == .integer && Text.maxDigits < value.length then some value.length else none

/-- What the parameter `name` takes from a path, if the path is of the pattern.
An integer of too many digits, given by their number, cannot be taken. -/
def value? (p : PathPattern) (name : String) (path : List Char) :
    Except Nat (Option (List Char)) :=
  match taken? p path with
  | none => .ok none
  | some taken =>
      match overlong? taken with
      | some digits => .error digits
      | none => .ok ((taken.lookup name).map (·.2))

end PathPattern

end PageTemplates.Serve
