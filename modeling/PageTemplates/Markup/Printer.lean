import PageTemplates.Markup.Escape
import PageTemplates.Markup.Node

/-!
# Printing markup

A tree as markup for an output charset. Void elements are printed without what
they hold, and text directly inside a script or a style as it is.
-/

namespace PageTemplates.Markup

/-- One attribute in a start tag. -/
def printAttribute (family : Family) (a : Attribute) : String :=
  " " ++ a.1 ++
    match a.2 with
    | some v => printValue family (some v) "\""
    | none => ""

/-- A start tag. -/
def Tag.print (family : Family) (t : Tag) : String :=
  "<" ++ t.name ++ String.join (t.attributes.map (printAttribute family)) ++ ">"

/-- The tag without some attributes. -/
def Tag.without (names : List String) (t : Tag) : Tag :=
  { t with attributes := t.attributes.filter fun a => !names.contains a.1 }

mutual

/-- A node as markup; `raw` says that its text is printed as it is. -/
def Node.print (family : Family) (raw : Bool) : Node → String
  | .document cs => printAll family false cs
  | .element t cs =>
      t.print family ++
        if isVoid t.name then ""
        else printAll family (isRawText t.name) cs ++ "</" ++ t.name ++ ">"
  | .text s => if raw then s else printText family s
  | .comment s => "<!--" ++ s ++ "-->"
  | .doctype s => "<!DOCTYPE " ++ s ++ ">"
  | .markup s => s

/-- Siblings as markup. -/
def printAll (family : Family) (raw : Bool) : List Node → String
  | [] => ""
  | n :: ns => n.print family raw ++ printAll family raw ns

end

/-- The charset that is printed for when none is given. -/
def outputCharset (name? : Option String) : String :=
  match name? with
  | some name => if name.isEmpty then "utf-8" else name
  | none => "utf-8"

/-- A document as the bytes of an output charset. -/
def Document.encode (charset : String) (doc : Document) : Except CharsetError Bytes := do
  Charset.encode charset (printAll (← Family.ofName charset) false doc)

end PageTemplates.Markup
