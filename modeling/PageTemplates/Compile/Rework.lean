import PageTemplates.Compile.Inline
import PageTemplates.Markup.Moving

/-!
# Compiling linked nodes

A document is compiled while it is walked. Where the walk comes to an element with a
directive, the functions that the element needs are added to the head, which is made if
there is none; then the script that writes the element out is put in front of it, and the
element is taken out. The walk of a node goes through the children that the node has when
the walk comes to it.
-/

namespace PageTemplates

namespace Markup

namespace Forest

/-- Whether a node is an element that is replaced by code. -/
def isTarget (f : Forest) (i : Nat) : Bool := f.hasTag Compile.isTarget i

/-- Joins the branches among siblings to the one that a choice begins with; `opened` says
that one has begun and goes on. -/
def joinAmong (opened : Bool) : List Nat → Forest → Forest
  | [], f => f
  | i :: is, f =>
      if opened && Compile.isGap (f.tagged i) then joinAmong true is f
      else if (f.tagged i).isCompapply then
        if opened then joinAmong true is (f.update i fun c => { c with tag := Compile.join c.tag })
        else joinAmong ((f.tagged i).name != "script") is f
      else joinAmong false is f

/-- Joins branches among the children of a node, and then below each of them, at most
`depth` levels down. Scripts are passed over. -/
def groupTo : Nat → Nat → Forest → Forest
  | 0, _, f => f
  | depth + 1, i, f =>
      let f := f.joinAmong false (f.childrenOf i)
      -- joining changes tags only: these are the children from before
      (f.childrenOf i).foldl
        (fun f j =>
          if (f.cell j).label.isElement && f.name j != "script" then groupTo depth j f else f) f

end Forest

namespace Relink

/-- Adds a tree without a parent, and gives its root. -/
def add (n : Node) : Relink Nat := do
  let (i, f) := (← get).addTree none n
  set f
  return i

/-- The head of a document, which is made if there is none: in front of the first element
of `<html>`, or else of the document. -/
def head (document : Nat) : Relink Nat := do
  let f ← get
  match f.findFirst? document "head" with
  | some head => return head
  | none =>
      let parent := (f.findFirst? document "html").getD document
      let head ← add (newHead [])
      match f.firstElement? parent with
      | some first => insert parent head first
      | none => append parent head
      return head

end Relink

end Markup

namespace Compile

open Markup

/-- Why the compilation of linked nodes stops: a directive is not known, an element that
carries one has no parent, or a change of links is refused. -/
inductive Stop where
  | template (e : TemplateError)
  | orphan (name : String)
  | refused (e : NotAChild)
deriving Repr, DecidableEq

/-- Linked nodes on their way, with the number of scripts generated so far. -/
structure Work where
  forest : Forest
  generated : Nat := 0

/-- A computation on linked nodes that may stop half way. -/
abbrev Rework := ExceptT Stop (StateM Work)

/-- The code of the node at a place of a document, and the functions that it needs. -/
def codeOf (o : Options) (doc : Document) (path : Path) :
    Except TemplateError (Option String × List String) :=
  (firstCode o ((Site.ofDocument doc).mapPath (seenFrom path)) false false
    (siblingsAt path doc)).run []

namespace Rework

/-- Changes the links. -/
def relink {α : Type} (x : Relink α) : Rework α := do
  let w ← get
  match x.run.run w.forest with
  | (r, forest) =>
      -- a refused change keeps what it did before
      set { w with forest }
      match r with
      | .ok a => return a
      | .error e => throw (.refused e)

/-- Puts a generated script among the nodes. -/
def generate (x : Relink Unit) : Rework Unit := do
  relink x
  modify fun w => { w with generated := w.generated + 1 }

/-- Adds a function to the head. -/
def hoist (document : Nat) (code : String) : Rework Unit :=
  generate do
    let head ← Relink.head document
    Relink.append head (← Relink.add (functionScript code))

/-- Puts the script that writes out a code, or nothing, in place of a node. -/
def giveWay (parent i : Nat) (code? : Option String) : Rework Unit := do
  if let some code := code? then
    generate do Relink.insert parent (← Relink.add (writeScript code)) i
  relink (Relink.remove parent i)

/-- Compiles an element with a directive. -/
def compileNode (o : Options) (document i : Nat) : Rework Unit := do
  let f := (← get).forest
  match (f.cell i).parent with
  | none => throw (.orphan (f.name i))
  | some parent =>
      -- the document as it stands, with the functions of the elements before
      match codeOf o (f.tree document).children (f.path document i) with
      | .error e => throw (.template e)
      | .ok (code?, codes) =>
          codes.forM (hoist document)
          giveWay parent i code?

/-- Compiles the elements with directives at and below a node, at most `depth` levels of
it. -/
def compileTo (o : Options) (document : Nat) : Nat → Nat → Rework Unit
  | 0, _ => return ()
  | depth + 1, i => do
      let f := (← get).forest
      -- what stands below a target goes with it
      if f.isTarget i then compileNode o document i
      else (f.childrenOf i).forM (compileTo o document depth)

/-- Lets the first body start the processing. -/
def start (document : Nat) : Rework Unit := do
  match (← get).forest.findFirst? document "body" with
  | none => return ()
  | some body =>
      relink do
        Relink.append body (← Relink.add (.script [("type", some "text/javascript")] startCode))

/-- Compiles a document in place. -/
def inline (o : Options) (document : Nat) : Rework Unit := do
  relink (Relink.moveDirectives document "title")
  relink (Relink.moveDirectives document "meta")
  -- no way down is longer than there are nodes
  modify fun w => { w with forest := w.forest.groupTo (w.forest.cells.size + 1) document }
  compileTo o document ((← get).forest.cells.size + 1) document
  if (← get).generated != 0 then start document

end Rework

end Compile

end PageTemplates
