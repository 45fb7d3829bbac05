import PageTemplates.Charset.Bytes
import PageTemplates.Disk.Path
import PageTemplates.Text.Quoted

/-!
# Files and folders

The files that templates are read from and results written to, as a value. A
path leads to something only if every folder on the way exists; what is
refused leaves everything as it was.
-/

namespace PageTemplates

/-- Why a file operation is refused. -/
inductive DiskReason where
  | notFound
  | alreadyThere
  | notFolder
  | isFolder
  | nameTooLong
deriving Repr, DecidableEq

namespace DiskReason

def number : DiskReason → Nat
  | notFound => 2
  | alreadyThere => 17
  | notFolder => 20
  | isFolder => 21
  | nameTooLong => 36

def wording : DiskReason → String
  | notFound => "No such file or directory"
  | alreadyThere => "File exists"
  | notFolder => "Not a directory"
  | isFolder => "Is a directory"
  | nameTooLong => "File name too long"

/-- A reason as it is shown with what it is about. -/
def describe (r : DiskReason) (what : String) : String :=
  "[Errno " ++ toString r.number ++ "] " ++ r.wording ++ ": " ++ what

end DiskReason

/-- Why a file operation fails: it is refused for a path; it is to clear a
folder that is a file; or a NUL stands in its path, so that nobody can be asked
to do it. -/
inductive DiskError where
  | refused (reason : DiskReason) (path : DiskPath)
  | notClearable (path : DiskPath)
  | nulInPath
deriving Repr, DecidableEq

namespace DiskError

def message : DiskError → String
  | refused reason path => reason.describe (Text.quoted path.text)
  | notClearable path => DiskReason.notFolder.describe ("PosixPath(" ++ Text.quoted path.text ++ ")")
  | nulInPath => "embedded null byte"

/-- Whether an operation was asked for and refused. -/
def isRefusal : DiskError → Bool
  | nulInPath => false
  | _ => true

end DiskError

/-- What a path leads to. -/
inductive Item where
  | file (content : Bytes) (modified : Nat)
  | folder
deriving Repr, DecidableEq

/-- Files and folders by their names from the root, the current folder, and
the current time, which is later than the last change of any file. -/
structure Disk where
  items : List (List String × Item) := []
  here : DiskPath := { root := "/" }
  now : Nat := 0
deriving Repr

namespace Disk

/-- What stands at a place; the root is a folder. -/
def item? (d : Disk) (names : List String) : Option Item :=
  if names.isEmpty then some .folder else d.items.lookup names

/-- Puts something at a place. -/
def put (d : Disk) (names : List String) (i : Item) : Disk :=
  { d with items := d.items.filter (·.1 != names) ++ [(names, i)] }

/-- Takes away what stands at a place. -/
def drop (d : Disk) (names : List String) : Disk :=
  { d with items := d.items.filter (·.1 != names) }

/-- The most bytes a name may have. -/
def maxName : Nat := 255

/-- The most bytes a path may have. -/
def maxPath : Nat := 4095

/-- Follows names from a place, each from an existing folder. -/
def follow (d : Disk) (start : List String) : List String → Except DiskReason (List String)
  | [] => .ok start
  | n :: ns =>
      match d.item? start with
      | none => .error .notFound
      | some (.file _ _) => .error .notFolder
      | some .folder =>
          -- a missing folder on the way is found before a name that is too long
          if maxName < n.utf8ByteSize then .error .nameTooLong
          else d.follow (if n == ".." then start.dropLast else start ++ [n]) ns

/-- The place that a path leads to. -/
def place (d : Disk) (p : DiskPath) : Except DiskError (List String) :=
  if p.hasNul then .error .nulInPath
  else if maxPath < p.text.utf8ByteSize then .error (.refused .nameTooLong p)
  else (d.follow [] (d.here.join p).names).mapError (.refused · p)

/-- What a path leads to, if it leads to anything. Only a name that is too long
is refused. -/
def find (d : Disk) (p : DiskPath) : Except DiskError (Option Item) :=
  match d.place p with
  | .ok names => .ok (d.item? names)
  | .error (.refused .nameTooLong q) => .error (.refused .nameTooLong q)
  | .error _ => .ok none

/-- Whether a path leads to a file. -/
def isFile (d : Disk) (p : DiskPath) : Except DiskError Bool := do
  match ← d.find p with
  | some (.file _ _) => return true
  | _ => return false

/-- Whether a path leads to a folder. -/
def isFolder (d : Disk) (p : DiskPath) : Except DiskError Bool := do
  return (← d.find p) == some .folder

/-- Whether a path leads to anything. -/
def isThere (d : Disk) (p : DiskPath) : Except DiskError Bool := do
  return (← d.find p).isSome

/-- The path from the root that a path stands for. -/
def resolve (d : Disk) (p : DiskPath) : Except DiskError DiskPath :=
  if p.hasNul then .error .nulInPath else .ok (d.here.resolve p)

/-- The file that a path leads to, with its place. -/
def file (d : Disk) (p : DiskPath) : Except DiskError (List String × Bytes × Nat) := do
  let names ← d.place p
  match d.item? names with
  | none => .error (.refused .notFound p)
  | some .folder => .error (.refused .isFolder p)
  | some (.file content modified) => .ok (names, content, modified)

def read (d : Disk) (p : DiskPath) : Except DiskError Bytes := do
  let (_, content, _) ← d.file p
  return content

/-- When a path was last changed; what cannot be reached counts as changed just
now. -/
def modified (d : Disk) (p : DiskPath) : Except DiskError Nat :=
  match d.file p with
  | .ok (_, _, t) => .ok t
  | .error .nulInPath => .error .nulInPath
  | .error _ => .ok (d.now + 1)

/-- Writes a file into an existing folder, as changed at a time. -/
def writeAt (d : Disk) (p : DiskPath) (content : Bytes) (time : Nat) : Except DiskError Disk := do
  let names ← d.place p
  match d.item? names with
  | some .folder => .error (.refused .isFolder p)
  | _ => .ok (d.put names (.file content time))

/-- Writes a file into an existing folder. -/
def write (d : Disk) (p : DiskPath) (content : Bytes) : Except DiskError Disk :=
  d.writeAt p content d.now

def remove (d : Disk) (p : DiskPath) : Except DiskError Disk := do
  let (names, _, _) ← d.file p
  return d.drop names

/-- Makes a folder in an existing one. -/
def makeOne (d : Disk) (p : DiskPath) : Except DiskError Disk := do
  let names ← d.place p
  if (d.item? names).isSome then .error (.refused .alreadyThere p)
  else .ok (d.put names .folder)

/-- Makes a folder in an existing one, unless it is there already. -/
def ensureOne (d : Disk) (p : DiskPath) : Except DiskError Disk :=
  match d.makeOne p with
  | .ok d => .ok d
  | .error (.refused .notFound q) => .error (.refused .notFound q)
  | .error .nulInPath => .error .nulInPath
  -- something may be there already, which is fine if it is a folder
  | .error e => do if ← d.isFolder p then .ok d else .error e

/-- Makes a folder with the folders above it, `depth` levels up at most; one
that exists is left as it is. -/
def makeTo : Nat → Disk → DiskPath → Except DiskError Disk
  | 0, d, p => d.ensureOne p
  | depth + 1, d, p =>
      match d.ensureOne p with
      | .error (.refused .notFound _) => do (← makeTo depth d p.parent).ensureOne p
      | made => made

/-- Makes a folder with the folders above it. -/
def makeFolder (d : Disk) (p : DiskPath) : Except DiskError Disk :=
  makeTo p.names.length d p

/-- Deletes whatever a path leads to, with all below it. -/
def removeAll (d : Disk) (p : DiskPath) : Disk :=
  match d.place p with
  | .error _ => d
  | .ok names => { d with items := d.items.filter fun i => !names.isPrefixOf i.1 }

/-- Deletes a folder with all below it; what is not there needs no deleting. -/
def removeFolder (d : Disk) (p : DiskPath) : Except DiskError Disk := do
  if ← d.isFile p then .error (.notClearable p) else .ok (d.removeAll p)

/-- The order of names: the first name that differs decides, and a folder comes
before what is in it. -/
def precedes : List String → List String → Bool
  | [], _ => true
  | _ :: _, [] => false
  | m :: ms, n :: ns => if m == n then precedes ms ns else decide (m < n)

/-- The files and folders below a folder, by their names from it, in the order
of these names. -/
def below (d : Disk) (p : DiskPath) : List (List String × Item) :=
  match d.place p with
  | .error _ => []
  | .ok names =>
      let inside := d.items.filter fun i => names.isPrefixOf i.1 && names.length < i.1.length
      (inside.map fun (ns, i) => (ns.drop names.length, i)).mergeSort fun a b =>
        precedes a.1 b.1

end Disk

end PageTemplates
