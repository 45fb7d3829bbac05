import PageTemplates.Markup.Path
import PageTemplates.Text.Case

/-!
# Linked nodes

Trees as nodes that know their parent and their children, so that one node can
be moved from one tree to another. Nodes go by number. An operation that is
refused keeps what it had changed before.
-/

namespace PageTemplates.Markup

/-- A node with its links: `label` is the node itself, its children and its tag
aside. Every node may be given attributes, but only those of an element are
part of its tree. -/
structure Cell where
  label : Node
  tag : Tag
  parent : Option Nat := none
  children : List Nat := []

/-- The tag of a node; a node without one has a tag of its name. -/
def Node.tag : Node → Tag
  | .element t _ => t
  | n => { name := n.name }

instance : Inhabited Cell := ⟨{ label := default, tag := Node.tag default }⟩

/-- Linked nodes, by number. -/
structure Forest where
  cells : Array Cell := #[]

/-- Why an operation is refused: a node is not among the children of
another. -/
structure NotAChild where
  child : String
  parent : String
deriving Repr, DecidableEq

def NotAChild.message (e : NotAChild) : String :=
  "<" ++ e.child ++ "> is not a child of <" ++ e.parent ++ ">"

/-- A change of linked nodes, which may be refused half way. -/
abbrev Relink := ExceptT NotAChild (StateM Forest)

namespace Forest

/-- The node of a number. -/
def cell (f : Forest) (i : Nat) : Cell := f.cells.getD i default

/-- What a node is called. -/
def name (f : Forest) (i : Nat) : String := (f.cell i).label.name

/-- Changes a node. -/
def update (f : Forest) (i : Nat) (g : Cell → Cell) : Forest :=
  { f with cells := f.cells.modify i g }

def childrenOf (f : Forest) (i : Nat) : List Nat := (f.cell i).children

/-- Adds a node without children below `parent`. -/
def addCell (f : Forest) (label : Node) (parent : Option Nat) : Nat × Forest :=
  let i := f.cells.size
  let f : Forest := { cells := f.cells.push { label, tag := label.tag, parent } }
  let f := match parent with
    | some p => f.update p fun c => { c with children := c.children ++ [i] }
    | none => f
  (i, f)

end Forest

mutual

/-- Adds a tree below `parent`, and gives the number of its root. -/
def Forest.addTree (f : Forest) (parent : Option Nat) : Node → Nat × Forest
  | .document cs =>
      let (i, f) := f.addCell (.document []) parent
      (i, f.addTrees i cs)
  | .element t cs =>
      let (i, f) := f.addCell (.element t []) parent
      (i, f.addTrees i cs)
  | n => f.addCell n parent

/-- Adds trees below `parent`. -/
def Forest.addTrees (f : Forest) (parent : Nat) : List Node → Forest
  | [] => f
  | c :: cs =>
      let (_, f) := f.addTree (some parent) c
      f.addTrees parent cs

end

namespace Forest

/-- A node with its tag. -/
def tagged (f : Forest) (i : Nat) : Node := (f.cell i).label.mapTag fun _ => (f.cell i).tag

/-- The tree below a node, at most `depth` levels of it. -/
def treeTo (f : Forest) : Nat → Nat → Node
  | 0, i => f.tagged i
  | depth + 1, i => (f.tagged i).mapChildren fun _ => (f.childrenOf i).map (f.treeTo depth)

/-- The tree below a node. -/
def tree (f : Forest) (i : Nat) : Node := f.treeTo f.cells.size i

/-- A node and all below it in document order, at most `depth` levels. -/
def walkTo (f : Forest) : Nat → Nat → List Nat
  | 0, i => [i]
  | depth + 1, i => i :: (f.childrenOf i).flatMap (f.walkTo depth)

/-- A node and all below it in document order. -/
def walk (f : Forest) (i : Nat) : List Nat := f.walkTo f.cells.size i

/-- The elements of a name below a node. -/
def findAll (f : Forest) (i : Nat) (name : String) : List Nat :=
  (f.walk i).filter fun j =>
    j != i && (f.cell j).label.isElement && f.name j == Text.lower name

/-- The first element among the children of a node. -/
def firstElement? (f : Forest) (i : Nat) : Option Nat :=
  (f.childrenOf i).find? fun j => (f.cell j).label.isElement

/-- Whether a node is an element with a tag that satisfies `p`. -/
def hasTag (f : Forest) (p : Tag → Bool) (i : Nat) : Bool :=
  match f.tagged i with
  | .element t _ => p t
  | _ => false

/-- The way down from `i` to a node below it, read off the parents of the node, at most
`depth` of them. -/
def pathFrom (f : Forest) (i : Nat) : Nat → Nat → Path
  | 0, _ => []
  | depth + 1, j =>
      match (f.cell j).parent with
      | none => []
      | some p => (if p = i then [] else f.pathFrom i depth p) ++ [(f.childrenOf p).idxOf j]

/-- The way down from `i` to a node below it. -/
def path (f : Forest) (i j : Nat) : Path := f.pathFrom i f.cells.size j

def attribute? (f : Forest) (i : Nat) (name : String) : Option String :=
  (f.cell i).tag.get? (Text.lower name)

def setAttribute (f : Forest) (i : Nat) (name : String) (v : Option String) : Forest :=
  f.update i fun c => { c with tag := c.tag.set (Text.lower name) v }

def unsetAttribute (f : Forest) (i : Nat) (name : String) : Forest :=
  f.update i fun c => { c with tag := c.tag.unset (Text.lower name) }

end Forest

namespace Relink

/-- The position of a node among the children of another. -/
def position (parent child : Nat) : Relink Nat := do
  let f ← get
  match (f.childrenOf parent).findIdx? (· == child) with
  | some i => return i
  | none => throw ⟨f.name child, f.name parent⟩

/-- Takes a node from its parent. -/
def remove (parent child : Nat) : Relink Unit := do
  let i ← position parent child
  modify (·.update parent fun c => { c with children := c.children.eraseIdx i })
  modify (·.update child fun c => { c with parent := none })

/-- Takes a node from whatever parent it has. -/
def detach (child : Nat) : Relink Unit := do
  match ((← get).cell child).parent with
  | some p => remove p child
  | none => return ()

/-- Makes a node the last child of another. -/
def append (parent child : Nat) : Relink Unit := do
  detach child
  modify (·.update child fun c => { c with parent := some parent })
  modify (·.update parent fun c => { c with children := c.children ++ [child] })

/-- Puts a node in front of a child of another. -/
def insert (parent child before : Nat) : Relink Unit := do
  detach child
  -- after detaching: among siblings, that moves the position
  let i ← position parent before
  modify (·.update child fun c => { c with parent := some parent })
  modify (·.update parent fun c => { c with children := c.children.insertIdx i child })

/-- Puts a node in place of a child of another. -/
def replace (parent child old : Nat) : Relink Unit := do
  insert parent child old
  remove parent old

end Relink

end PageTemplates.Markup
