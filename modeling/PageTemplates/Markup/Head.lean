import PageTemplates.Markup.Path

/-!
# The head of a document

Generated scripts go to the end of the first `<head>`. A document without one
gets a head in its first `<html>`, or else at its outermost level, in front of
the first element there.
-/

namespace PageTemplates.Markup

/-- Puts a node in front of the first element, or at the end when there is
none. -/
def insertBeforeElement (n : Node) : List Node → List Node
  | [] => [n]
  | c :: cs => if c.isElement then n :: c :: cs else c :: insertBeforeElement n cs

/-- A head that holds the given nodes. -/
def newHead (content : List Node) : Node := .element { name := "head" } content

/-- Adds nodes to the end of the head, which is made if need be. -/
def appendToHead (content : List Node) (doc : Document) : Document :=
  match findPath? (Tag.isNamed "head") doc with
  | some path => modifyAt (Node.mapChildren (· ++ content)) path doc
  | none =>
      match findPath? (Tag.isNamed "html") doc with
      | some path => modifyAt (Node.mapChildren (insertBeforeElement (newHead content))) path doc
      | none => insertBeforeElement (newHead content) doc

mutual

/-- What is left of a node without the elements at and below it that satisfy
`p`, and these elements in document order, each without the others. -/
def Node.pullOut (p : Tag → Bool) : Node → List Node × List Node
  | .element t cs =>
      let (kept, pulled) := pullOut p cs
      if p t then ([], .element t kept :: pulled) else ([.element t kept], pulled)
  | .document cs =>
      let (kept, pulled) := pullOut p cs
      ([.document kept], pulled)
  | n => ([n], [])

/-- `Node.pullOut` for a list of siblings. -/
def pullOut (p : Tag → Bool) : List Node → List Node × List Node
  | [] => ([], [])
  | n :: ns =>
      let (kept, pulled) := n.pullOut p
      let (kept', pulled') := pullOut p ns
      (kept ++ kept', pulled ++ pulled')

end

/-- Moves the elements below the first head that satisfy `p` to its end, in
document order. -/
def moveToEndOfHead (p : Tag → Bool) (doc : Document) : Document :=
  match findPath? (Tag.isNamed "head") doc with
  | none => doc
  | some path =>
      modifyAt (Node.mapChildren fun cs => let (kept, pulled) := pullOut p cs; kept ++ pulled)
        path doc

end PageTemplates.Markup
