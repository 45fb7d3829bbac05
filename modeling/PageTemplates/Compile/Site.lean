import PageTemplates.Markup.Head

/-!
# Where functions go

Functions are added to the head of the document while a part of the document
is still being printed into a literal. When that part holds the head, or the
element in which a head is to be made, the printing meets what was added. A
site says where that is, seen from the nodes that are printed.
-/

namespace PageTemplates.Compile

open Markup

/-- Where added functions go, seen from some nodes: not below them, to a head
below them, or to a head that will be made in an element below them. -/
inductive Site where
  | outside
  | head (path : Path)
  | html (path : Path)
deriving Repr, DecidableEq

namespace Site

/-- The site of a whole document. -/
def ofDocument (doc : Document) : Site :=
  match findPath? (Tag.isNamed "head") doc with
  | some p => head p
  | none =>
      match findPath? (Tag.isNamed "html") doc with
      | some p => html p
      | none => outside

/-- Changes the way to a site, which is outside if there is none. -/
def mapPath (f : Path → Option Path) : Site → Site
  | outside => outside
  | head p => (f p).elim outside head
  | html p => (f p).elim outside html

/-- Seen from the first of the siblings that the site is seen from. -/
def first : Site → Site :=
  mapPath fun
    | 0 :: p => some p
    | _ => none

/-- Seen from all siblings but the first. -/
def rest : Site → Site :=
  mapPath fun
    | (i + 1) :: p => some (i :: p)
    | _ => none

end Site

/-- The way to a place, seen from the siblings that begin at another place. -/
def seenFrom : Path → Path → Option Path
  -- what stands in front of the first sibling is not seen
  | [k], j :: r => if k ≤ j then some ((j - k) :: r) else none
  | i :: p, j :: r => if i == j then seenFrom p r else none
  | [], _ | _, [] => none

/-- A function as the script that defines it. -/
def functionScript (code : String) : Node :=
  .script [("type", some "text/javascript"), ("yst", some "declare")] code

/-- Adds functions to the head of a document. -/
def place (codes : List String) (doc : Document) : Document :=
  if codes.isEmpty then doc else appendToHead (codes.map functionScript) doc

/-- A node with the functions that were added below it. -/
def Site.settle (codes : List String) (site : Site) (n : Node) : Node :=
  let at' (f : Node → Node) : Path → Node
    | [] => f n
    | path => n.mapChildren (modifyAt f path)
  if codes.isEmpty then n
  else
    match site with
    | .outside => n
    | .head p => at' (Node.mapChildren (· ++ codes.map functionScript)) p
    | .html p =>
        at' (Node.mapChildren (insertBeforeElement (newHead (codes.map functionScript)))) p

end PageTemplates.Compile
