import PageTemplates.Markup.Head
import PageTemplates.Markup.Printer
import PageTemplates.Text.Blank
import PageTemplates.Text.Case
import PageTemplates.Text.Find

/-!
# Directives

An element of a template carries a directive when its `yst` attribute is not
blank. The other attributes whose names begin with `yst` hold the directive's
arguments, and none of them is meant for the reader of the page.
-/

namespace PageTemplates

open Markup

/-- What an element asks for. -/
inductive DirectiveKind where
  | ignore
  | value
  | conditional
  | apply
  | compapply
  | declare
  | inclusion
  | live
  | literal
deriving Repr, DecidableEq

namespace DirectiveKind

def word : DirectiveKind → String
  | ignore => "ignore"
  | value => "value"
  | conditional => "if"
  | apply => "apply"
  | compapply => "compapply"
  | declare => "declare"
  | inclusion => "include"
  | live => "live"
  | literal => "literal"

/-- The kind a word stands for; `ajax` is the older word for `live`. -/
def ofWord? : String → Option DirectiveKind
  | "ignore" => some ignore
  | "value" => some value
  | "if" => some conditional
  | "apply" => some apply
  | "compapply" => some compapply
  | "declare" => some declare
  | "include" => some inclusion
  | "live" | "ajax" => some live
  | "literal" => some literal
  | _ => none

end DirectiveKind

/-- The attributes that belong to directives. -/
def directiveAttributes : List String :=
  ["yst", "ysttest", "ystset", "ystidref", "ystparams", "ystupto", "ystaux", "ystbool"]

/-- A directive with its arguments. -/
structure Directive where
  kind : DirectiveKind
  word : String
  targetSet : String
  test : String
  aux : Option String
  idRef : String
  params : String
  elementId : String
deriving Repr, DecidableEq

namespace Directive

/-- The name of the function that the element is compiled to, if it has an
id. -/
def functionName? (d : Directive) : Option String :=
  if d.elementId.isEmpty then none else some (Text.replace d.elementId " " "_")

/-- Whether the element is compiled to a function of its own. -/
def hoists (d : Directive) : Bool := d.kind == .declare || d.kind == .live

end Directive

/-- Why a template cannot be compiled, with the element at fault and the
template it is in, where these are known. -/
structure TemplateError where
  message : String
  markup : Option String := none
  templateId : Option String := none
deriving Repr, DecidableEq

namespace TemplateError

/-- The wording of a template error. An empty part counts as missing. -/
def text (e : TemplateError) : String :=
  let front :=
    match e.templateId with
    | some id => if id.isEmpty then "" else id ++ ": "
    | none => ""
  let back :=
    match e.markup with
    | some m => if m.isEmpty then "" else " in node\n-------\n" ++ m ++ "\n-------\n"
    | none => ""
  front ++ e.message ++ back

/-- The same error, said of a template. -/
def forTemplate (e : TemplateError) (id : String) : TemplateError :=
  { e with templateId := some id }

end TemplateError

namespace Markup

/-- The directive word of a tag, empty without one. -/
def Tag.directiveWord (t : Tag) : String := Text.lower (Text.strip (t.value "yst"))

/-- Whether a tag carries a directive, known or not. -/
def Tag.isDirective (t : Tag) : Bool := !t.directiveWord.isEmpty

/-- Whether a tag is a branch of a choice. -/
def Tag.isCompapply (t : Tag) : Bool :=
  DirectiveKind.ofWord? t.directiveWord == some .compapply

/-- The directive word of a node; only elements have one. -/
def Node.directiveWord? : Node → Option String
  | .element t _ => some t.directiveWord
  | _ => none

/-- Whether a node carries a directive. -/
def Node.isDirective : Node → Bool
  | .element t _ => t.isDirective
  | _ => false

/-- Whether a node is a branch of a choice. -/
def Node.isCompapply : Node → Bool
  | .element t _ => t.isCompapply
  | _ => false

/-- The first text that is not blank, or else the last one. -/
def firstNonBlank (s other : String) : String := if Text.allBlank s then other else s

/-- The directive of a known kind that a tag carries. -/
def Tag.directiveOf (t : Tag) (kind : DirectiveKind) : Directive :=
  { kind
    word := t.directiveWord
    targetSet := firstNonBlank (t.value "ystset") (firstNonBlank (t.value "ystupto") "")
    test := firstNonBlank (t.value "ysttest") "true"
    aux := if Text.allBlank (t.value "ystaux") then none else some (t.value "ystaux")
    idRef := Text.replace (Text.strip (t.value "ystidref")) " " "_"
    params := t.value "ystparams"
    elementId := Text.strip (t.value "id") }

/-- The directive of a tag that carries one. An unknown word is reported with
the element as it stands, which `markup` is. -/
def Tag.directive (t : Tag) (markup : String) : Except TemplateError Directive :=
  match DirectiveKind.ofWord? t.directiveWord with
  | some kind => .ok (t.directiveOf kind)
  | none =>
      .error { message := "Illegal yst attribute value: " ++ t.directiveWord,
               markup := some markup }

/-- The directive of a node, if it carries one. -/
def Node.directive? (n : Node) : Except TemplateError (Option Directive) :=
  match n with
  | .element t _ =>
      if t.isDirective then (t.directive (n.print .utf false)).map some else .ok none
  | _ => .ok none

/-- Moves the elements of a name that carry directives to the end of the
head: what is generated there has to stand before them. -/
def moveDirectives (name : String) (doc : Document) : Document :=
  moveToEndOfHead (fun t => t.name == name && t.isDirective) doc

end Markup

end PageTemplates
