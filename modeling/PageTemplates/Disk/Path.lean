import PageTemplates.Text.Blank

/-!
# Paths of files

A path is a root and the names below it. Empty names and `.` go away when a
path is read, `..` stays. A path without a root is relative to the current
folder.
-/

namespace PageTemplates

/-- A path of a file or folder; the root of a relative path is empty. -/
structure DiskPath where
  root : String := ""
  names : List String := []
deriving Repr, DecidableEq

namespace DiskPath

/-- The pieces of a text between slashes. -/
def pieces (cs : List Char) : List (List Char) := Text.splitAtEach (· == '/') cs

/-- Reads a path. Two slashes in front, but not three, are a root of their
own. -/
def ofText (s : String) : DiskPath :=
  let root :=
    match s.toList with
    | '/' :: '/' :: '/' :: _ => "/"
    | '/' :: '/' :: _ => "//"
    | '/' :: _ => "/"
    | _ => ""
  let names := (pieces s.toList).map String.ofList
  { root, names := names.filter fun n => n != "" && n != "." }

/-- Whether a path has a root. -/
def isAbsolute (p : DiskPath) : Bool := p.root != ""

def text (p : DiskPath) : String :=
  if p.root == "" && p.names.isEmpty then "." else p.root ++ "/".intercalate p.names

/-- Whether a NUL stands in a path, which then can be the path of nothing. -/
def hasNul (p : DiskPath) : Bool := p.names.any fun n => n.toList.contains '\x00'

/-- A path seen from another one. -/
def join (p q : DiskPath) : DiskPath :=
  if q.isAbsolute then q else { p with names := p.names ++ q.names }

/-- A path as text, seen from another one. -/
def joinText (p : DiskPath) (s : String) : DiskPath := p.join (ofText s)

def name (p : DiskPath) : String := p.names.getLast?.getD ""

/-- The path without its last name. -/
def parent (p : DiskPath) : DiskPath := { p with names := p.names.dropLast }

/-- The path with another last name. -/
def withName (p : DiskPath) (n : String) : DiskPath :=
  { p with names := p.names.dropLast ++ [n] }

/-- The last name up to its last dot, if that is neither its first nor its last
character. -/
def stem (p : DiskPath) : String :=
  let cs := p.name.toList
  let ext := cs.reverse.takeWhile (· != '.')
  let base := cs.take (cs.length - ext.length - 1)
  if ext.isEmpty || base.isEmpty then p.name else String.ofList base

/-- The path without the extension of its last name. -/
def withoutExtension (p : DiskPath) : DiskPath := p.withName p.stem

/-- Follows `..` up to the folder above; above the root there is none. -/
def climb (done : List String) : List String → List String
  | [] => done
  | n :: ns => if n == ".." then climb done.dropLast ns else climb (done ++ [n]) ns

/-- The path from the root without `..`, seen from the folder `here`. -/
def resolve (here p : DiskPath) : DiskPath :=
  let p := here.join p
  { root := "/", names := climb [] p.names }

/-- Whether a path lies strictly below another one. -/
def isBelow (p folder : DiskPath) : Bool :=
  p.root == folder.root && folder.names.isPrefixOf p.names
    && folder.names.length < p.names.length

end DiskPath

end PageTemplates
