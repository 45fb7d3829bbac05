import PageTemplates.Markup.Node

/-!
# Places in a tree

A place is the way down to it: the position among the outermost nodes, then
the position among the children, and so on. Searches go in document order, a
node before what it holds.
-/

namespace PageTemplates.Markup

/-- The way to a node: positions among siblings, outermost first. -/
abbrev Path := List Nat

/-- The same place once a node is put in front of its outermost siblings. -/
def Path.shift : Path → Path
  | [] => []
  | i :: p => (i + 1) :: p

mutual

/-- The first element at or below a node whose tag satisfies `p`. -/
def Node.findPath? (p : Tag → Bool) : Node → Option Path
  | .element t cs => if p t then some [] else findPath? p cs
  | .document cs => findPath? p cs
  | _ => none

/-- The first element in a list of siblings, or below, whose tag satisfies
`p`. -/
def findPath? (p : Tag → Bool) : List Node → Option Path
  | [] => none
  | n :: ns =>
      match n.findPath? p with
      | some path => some (0 :: path)
      | none => (findPath? p ns).map Path.shift

end

mutual

/-- All elements at or below a node whose tag satisfies `p`. -/
def Node.findPaths (p : Tag → Bool) : Node → List Path
  | .element t cs => if p t then [] :: findPaths p cs else findPaths p cs
  | .document cs => findPaths p cs
  | _ => []

/-- All elements in a list of siblings, or below, whose tag satisfies `p`. -/
def findPaths (p : Tag → Bool) : List Node → List Path
  | [] => []
  | n :: ns => (n.findPaths p).map (0 :: ·) ++ (findPaths p ns).map Path.shift

end

/-- The node at a place together with the siblings behind it. -/
def siblingsAt : Path → List Node → List Node
  | [], ns => ns
  | [i], ns => ns.drop i
  | i :: p, ns =>
      match ns[i]? with
      | some n => siblingsAt p n.children
      | none => []

/-- Replaces the node at a place by any number of nodes. -/
def replaceAt (f : Node → List Node) : Path → List Node → List Node
  | [], ns => ns
  | [i], ns => ns.take i ++ ns[i]?.toList.flatMap f ++ ns.drop (i + 1)
  | i :: p, ns => ns.modify i (Node.mapChildren (replaceAt f p))

/-- Changes the node at a place. -/
def modifyAt (f : Node → Node) (path : Path) (ns : List Node) : List Node :=
  replaceAt (fun n => [f n]) path ns

end PageTemplates.Markup
