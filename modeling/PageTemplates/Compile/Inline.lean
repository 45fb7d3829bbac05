import PageTemplates.Compile.Literal

/-!
# Compiling directives in place

Every outermost element with a directive is replaced by a script that writes
it out, in document order. Functions go to the head, and a page in which
anything was generated gets a last script that starts the processing in the
browser.
-/

namespace PageTemplates.Compile

open Markup

/-- Whether an element is replaced by code: scripts never are. -/
def isTarget (t : Tag) : Bool := t.name != "script" && t.isDirective

/-- A document on its way, with the number of scripts generated so far. -/
structure Progress where
  doc : Document
  generated : Nat := 0

/-- The code of the node at a place, and the document with the functions that
it needs. -/
def codeAt (o : Options) (nested declare : Bool) (path : Path) (p : Progress) :
    Except TemplateError (Option String × Progress) := do
  let site := (Site.ofDocument p.doc).mapPath (seenFrom path)
  let (code?, codes) ← (firstCode o site nested declare (siblingsAt path p.doc)).run []
  return (code?, { doc := place codes p.doc, generated := p.generated + codes.length })

/-- The script that writes out what code stands for. -/
def writeScript (code : String) : Node :=
  .script [("type", some "text/javascript")] ("document.write(" ++ code ++ ")")

/-- Puts a script with the code, or nothing, in place of the first element with
a directive. -/
def replaceFirst (code? : Option String) (p : Progress) : Progress :=
  -- looked up again: a head that was made since moves the elements behind it
  match findPath? isTarget p.doc with
  | none => p
  | some path =>
      let scripts := (code?.map writeScript).toList
      { doc := replaceAt (fun _ => scripts) path p.doc,
        generated := p.generated + scripts.length }

/-- Compiles the first `n` elements with directives. -/
def compileTargets (o : Options) : Nat → Progress → Except TemplateError Progress
  | 0, p => .ok p
  | n + 1, p =>
      match findPath? isTarget p.doc with
      | none => .ok p
      | some path => do
          let (code?, p) ← codeAt o false false path p
          compileTargets o n (replaceFirst code? p)

/-- Compiles all elements with directives; those inside another one go with
it. -/
def compileAll (o : Options) (p : Progress) : Except TemplateError Progress :=
  -- every step takes a target away and adds none
  compileTargets o (findPaths isTarget p.doc).length p

/-- The code that starts the processing in the browser. -/
def startCode : String :=
  "if (typeof YST != 'undefined') \x7bYST.txtProcessing=true;YST.finishProcessing();\x7d"

/-- Adds a node to the end of the first body, if there is one. -/
def appendToBody (n : Node) (doc : Document) : Document :=
  match findPath? (Tag.isNamed "body") doc with
  | some path => modifyAt (Node.mapChildren (· ++ [n])) path doc
  | none => doc

/-- Lets the first body start the processing. -/
def markBody (doc : Document) : Document :=
  appendToBody (.script [("type", some "text/javascript")] startCode) doc

/-- Compiles a document in place. -/
def inline (o : Options) (doc : Document) : Except TemplateError Progress := do
  let p ← compileAll o { doc := prepare doc }
  -- nothing waits for the start where nothing was generated
  return if p.generated == 0 then p else { p with doc := markBody p.doc }

/-- The literal of the node at a place, or of what it holds, and the document
with the functions that it needs. -/
def literalAt (o : Options) (declare onlyInner : Bool) (path : Path) (p : Progress) :
    Except TemplateError (String × Progress) := do
  let site := ((Site.ofDocument p.doc).mapPath (seenFrom path)).first
  let gen : Gen String :=
    match (siblingsAt path p.doc).head? with
    | none => pure ""
    | some (.element t cs) =>
        if onlyInner then
          insideLiteral o site cs fun site opening =>
            literals o site declare (t.name == "script") opening cs
        else literal o site declare (.element t cs)
    | some n => literal o site declare n
  let (text, codes) ← gen.run []
  return (text, { doc := place codes p.doc, generated := p.generated + codes.length })

end PageTemplates.Compile
