import PageTemplates.Compile.Inline

/-!
# Splitting the body off a page

For pages whose body the browser may keep, every element that declares a
function is compiled to one first, innermost first. Then the whole body becomes
a function too. The functions leave the page and make up a script of their own,
and the page keeps a stub body that loads this script.
-/

namespace PageTemplates.Compile

open Markup

/-- What the elements of a body were compiled to so far: the functions, and
how many of them were given a name. -/
structure Extraction where
  codes : List String := []
  named : Nat := 0

/-- A computation that extracts functions. -/
abbrev Extract := StateT Extraction (Except TemplateError)

/-- Runs a computation that adds functions. -/
def Extract.ofGen {α : Type} (g : Gen α) : Extract α := fun x => do
  let (a, codes) ← g.run x.codes
  return (a, { x with codes })

/-- A tag with an id, made up if it has none. -/
def withId (t : Tag) : Extract Tag := do
  if (t.directiveOf .declare).functionName?.isSome then return t
  else
    let n := (← get).named + 1
    modify fun x => { x with named := n }
    return t.set "id" (some ("__TemplateDeclare" ++ toString n))

/-- Compiles an element to a function if its directive asks for one, and gives
back its tag. -/
def extractElement (o : Options) (site : Site) (t : Tag) (cs : List Node) : Extract Node := do
  if !t.isDirective then return .element t cs
  else
    let markup := (site.settle (← get).codes (.element t cs)).print .utf false
    -- an unknown directive is reported even if no function would come of it
    let d ← (t.directive markup : Except TemplateError Directive)
    if !d.hoists then return .element t cs
    else
      let t ← withId t
      let n := Node.element t cs
      let _ ← Extract.ofGen (hoist (t.directiveOf d.kind) (innerLiteral o site n))
      return n

mutual

/-- Extracts the functions at and below a node, those below first. Scripts are
passed over. -/
def extract (o : Options) (site : Site) : Node → Extract Node
  | .element t cs => do
      if t.name == "script" then return .element t cs
      -- the element is printed with the ids that those below it were given
      else extractElement o site t (← extractAll o site cs)
  | n => pure n

/-- Extracts the functions of siblings. -/
def extractAll (o : Options) (site : Site) : List Node → Extract (List Node)
  | [] => pure []
  | c :: cs => do
      let c ← extract o site.first c
      let cs ← extractAll o site.rest cs
      return c :: cs

end

/-- Extracts the functions of the page body. -/
def extractBody (o : Options) (path : Path) (p : Progress) : Except TemplateError Progress := do
  match siblingsAt path p.doc with
  | .element t cs :: _ =>
      let site := ((Site.ofDocument p.doc).mapPath (seenFrom path)).first
      let (cs, x) ← (extractAll o site cs).run {}
      let doc := modifyAt (fun _ => .element t cs) path p.doc
      return { doc := place x.codes doc, generated := p.generated + x.codes.length }
  | _ => return p

/-- The tag of a body that is compiled to a function. -/
def declareBody (t : Tag) : Tag :=
  let t := t.set "yst" (some "declare")
  if Text.allBlank (t.value "id") then t.set "id" (some "__TemplateBody") else t

/-- The attributes that the stub keeps of the body. -/
def stubAttributes (o : Options) (t : Tag) : List Attribute :=
  (t.without (if o.hide then directiveAttributes else ["yst"])).attributes

/-- The place of the page body. -/
def pageBody? (doc : Document) : Option Path := findPath? (·.page) doc

/-- The stub body, which loads the body script. -/
def stubBody (attributes : List Attribute) (url : String) : Node :=
  .element { name := "body", attributes }
    [.script [("type", some "text/javascript"), ("src", some url)]
      "// Move the .js file where it should be, and change src attribute "]

/-- Adds a node to the end of the first `<html>`, or of the document. -/
def appendToHtml (n : Node) (doc : Document) : Document :=
  match findPath? (Tag.isNamed "html") doc with
  | some path => modifyAt (Node.mapChildren (· ++ [n])) path doc
  | none => doc ++ [n]

/-- Whether a tag belongs to a script that defines a function. -/
def isFunctionScript (t : Tag) : Bool := t.name == "script" && t.get? "yst" == some "declare"

/-- The text directly inside a node. -/
def textOf (n : Node) : String :=
  String.join (n.children.map fun
    | .text s => s
    | _ => "")

/-- The call that writes out the body. -/
def writeBody (function : String) : String :=
  "\ndocument.write(" ++ function ++ "([], 0, \x7b\x7d));"

/-- Moves the functions out of a document, the last one first, into a script
that ends with the call of the body function. -/
def takeFunctions (function : String) (doc : Document) : Document × String :=
  let (kept, scripts) := pullOut isFunctionScript doc
  let codes := scripts.reverse.map fun s => "\n" ++ Text.strip (textOf s)
  (kept, String.join codes ++ writeBody function)

/-- A page with its body split off: the function that stands for the body and
the script that defines it. -/
structure SplitPage where
  page : Progress
  bodyFunction : String
  bodyScript : String

/-- Compiles a document and splits its body off. -/
def split (o : Options) (url : String) (doc : Document) : Except TemplateError SplitPage := do
  let missing : TemplateError :=
    { message := "Browser-side cacheable templates need a <body> element" }
  let o := { o with split := true }
  let path ← (findPath? (Tag.isNamed "body") doc).elim (.error missing) .ok
  -- the mark stays with the body, wherever preparing moves it
  let doc := prepare (modifyAt (Node.mapTag fun t => { t with page := true }) path doc)
  let path ← (pageBody? doc).elim (.error missing) .ok
  let p ← extractBody o path { doc }
  let path ← (pageBody? p.doc).elim (.error missing) .ok
  let p := { p with doc := modifyAt (Node.mapTag declareBody) path p.doc }
  match siblingsAt path p.doc with
  | .element t cs :: _ =>
      let site := ((Site.ofDocument p.doc).mapPath (seenFrom path)).first
      let d := t.directiveOf .declare
      let (name?, codes) ← (hoist d (innerLiteral o site (.element t cs))).run []
      -- `declareBody` saw to an id, so there is a name
      let function := name?.getD ""
      let p := { doc := place codes p.doc, generated := p.generated + codes.length : Progress }
      -- the body is a target itself now, and gives way to nothing
      let p ← compileAll o p
      let doc := markBody (appendToHtml (stubBody (stubAttributes o t) url) p.doc)
      let (doc, script) := takeFunctions function doc
      return ⟨{ p with doc }, function, script⟩
  | _ => .error missing

end PageTemplates.Compile
