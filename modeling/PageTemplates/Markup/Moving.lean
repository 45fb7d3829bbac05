import PageTemplates.Directive
import PageTemplates.Markup.Forest

/-!
# Moving elements one by one

The directives of a head on linked nodes. Each of them is taken from where it
stands and becomes the last child of the head; those that come later still stand
where they were, maybe below one that was moved.
-/

namespace PageTemplates.Markup

namespace Forest

/-- The first element of a name below a node. -/
def findFirst? (f : Forest) (i : Nat) (name : String) : Option Nat := (f.findAll i name).head?

/-- The elements of a name below a node that carry directives. -/
def directivesBelow (f : Forest) (i : Nat) (name : String) : List Nat :=
  (f.findAll i name).filter fun j => (f.tagged j).isDirective

end Forest

/-- Makes the elements of a name below the first head that carry directives its
last children, one after the other. -/
def Relink.moveDirectives (document : Nat) (name : String) : Relink Unit := do
  let f ← get
  match f.findFirst? document "head" with
  | none => return ()
  | some head => (f.directivesBelow head name).forM (Relink.append head)

end PageTemplates.Markup
