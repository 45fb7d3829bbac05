import PageTemplates.Markup.Scan

/-!
# From events to a tree

The builder keeps the elements that are open, each with what it holds so far.
An end tag closes the nearest open element of its name and all that is open
inside it; one without such an element is passed over. Text that follows text
is joined to it.
-/

namespace PageTemplates.Markup

/-- An element that is open: its tag and what it holds so far, last first. -/
structure Opened where
  tag : Tag
  content : List Node

/-- A tree in the making: the open elements, innermost first, and the finished
outermost nodes, last first. -/
structure Builder where
  opened : List Opened := []
  content : List Node := []

namespace Builder

/-- Changes what the innermost open element holds, last node first. -/
def mapContent (f : List Node → List Node) (b : Builder) : Builder :=
  match b.opened with
  | [] => { b with content := f b.content }
  | o :: os => { b with opened := { o with content := f o.content } :: os }

/-- Adds a node to the innermost open element. -/
def add (n : Node) (b : Builder) : Builder := b.mapContent (n :: ·)

/-- Adds text, to the text it follows if it follows one. -/
def addText (s : String) (b : Builder) : Builder :=
  b.mapContent fun content =>
    match content with
    | .text t :: rest => .text (t ++ s) :: rest
    | _ => .text s :: content

/-- Closes the innermost open element. -/
def close (b : Builder) : Builder :=
  match b.opened with
  | [] => b
  | o :: os => ({ b with opened := os } : Builder).add (.element o.tag o.content.reverse)

/-- Closes the `n` innermost open elements. -/
def closeMany : Nat → Builder → Builder
  | 0, b => b
  | n + 1, b => closeMany n b.close

/-- Closes the nearest open element of a name with all inside it. -/
def closeNamed (name : String) (b : Builder) : Builder :=
  match b.opened.findIdx? (·.tag.name == name) with
  | some i => closeMany (i + 1) b
  | none => b

/-- What a declaration becomes: a doctype, or markup as it is written. -/
def declared (s : String) : Node :=
  if "doctype".toList.isPrefixOf (Text.lower s).toList then
    .doctype (String.ofList (Text.trim (s.toList.drop 7)))
  else .markup ("<!" ++ s ++ ">")

/-- Takes one event in. -/
def step (b : Builder) : Event → Builder
  | .start name attributes =>
      let tag : Tag := { name, attributes }
      if isVoid name then b.add (.element tag [])
      else { b with opened := ⟨tag, []⟩ :: b.opened }
  -- never opened, so nothing goes into it, void or not
  | .startEnd name attributes => b.add (.element { name, attributes } [])
  | .endTag name => if isVoid name then b else b.closeNamed name
  | .data s => b.addText s
  | .comment s => b.add (.comment s)
  | .declaration s => b.add (declared s)
  | .instruction s => b.add (.markup ("<?" ++ s ++ ">"))
  | .bracketed s => b.add (.markup ("<![" ++ s ++ "]]>"))

/-- Takes events in, one after the other. -/
def run (b : Builder) (es : List Event) : Builder := es.foldl step b

/-- The document, once all open elements are closed. -/
def finish (b : Builder) : Document := (closeMany b.opened.length b).content.reverse

end Builder

def Document.ofEvents (es : List Event) : Document := (({} : Builder).run es).finish

def Document.ofText (s : String) : Except MarkupError Document :=
  (events s).map Document.ofEvents

end PageTemplates.Markup
