import PageTemplates.Directive

/-!
# Grouping the branches of choices

Siblings that are branches of a choice, with nothing but blank text and
comments between them, form one choice. Its first branch stands for all of
them; the others are marked as joined to it and ask for nothing on their own.
A script never begins a choice, and nothing inside a script is looked at.
-/

namespace PageTemplates.Compile

open Markup

/-- Whether a node may stand between two branches of a choice. -/
def isGap : Node → Bool
  | .comment _ => true
  | .text s => Text.allBlank s
  | _ => false

/-- The tag of a branch that is joined to the one before it. -/
def join (t : Tag) : Tag := { t.set "yst" (some "ignore") with joined := true }

mutual

/-- Groups the branches below a node. -/
def Node.group : Node → Node
  | .element t cs => if t.name == "script" then .element t cs else .element t (group false cs)
  | n => n

/-- Groups the branches among siblings and below them; `opened` says that a
choice has begun and goes on. -/
def group (opened : Bool) : List Node → List Node
  | [] => []
  | c :: cs =>
      let here := Node.group c
      if opened && isGap c then here :: group true cs
      else if c.isCompapply then
        if opened then here.mapTag join :: group true cs
        -- a script is never compiled, so nothing could be joined to it
        else here :: group (c.name != "script") cs
      else here :: group false cs

end

/-- Readies a document: titles and metas with directives go to the end of the
head, then the branches of choices are grouped. -/
def prepare (doc : Document) : Document :=
  group false (moveDirectives "meta" (moveDirectives "title" doc))

end PageTemplates.Compile
