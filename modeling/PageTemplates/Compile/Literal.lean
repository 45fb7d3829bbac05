import PageTemplates.Compile.Grouping
import PageTemplates.Compile.Site
import PageTemplates.Script.Literal

/-!
# Code for directives

An element with a directive becomes a call of a function of the browser's
library. What the element holds becomes string literals among the arguments of
the call. A call has two forms: a complete one, with the arguments of its
surroundings in front, and a nested one, the function and an array of its
arguments, which is spliced into the literal of an enclosing call.

Elements that declare a function become a function definition instead, whose
literal is built up by statements; complete calls stand between them. The
definitions are what this computation leaves behind.
-/

namespace PageTemplates.Compile

open Markup

/-- How code is generated: for which output family, whether the attributes of
directives are left out of literals, and whether the functions are defined
elsewhere and only named. -/
structure Options where
  family : Family := .utf
  hide : Bool := false
  split : Bool := false
deriving Repr, DecidableEq

/-- A computation that adds function definitions and may find an unknown
directive. -/
abbrev Gen := StateT (List String) (Except TemplateError)

/-! ## Literals of single nodes -/

/-- The value of the last `ystbool` attribute. -/
def lastBool? (t : Tag) : Option (Option String) :=
  ((t.attributes.filter (·.1 == "ystbool")).getLast?).map (·.2)

/-- A start tag in a literal. A `ystbool` attribute adds a call that writes
attributes of its own. -/
def tagLiteral (o : Options) (t : Tag) : String :=
  let shown := if o.hide then t.without directiveAttributes else t
  let text := "<" ++ t.name ++ String.join (shown.attributes.map (printAttribute o.family))
  -- the call ends the literal inside the tag and begins it again
  let call :=
    match lastBool? t with
    | some v => " ',YST.Txt.ystBool,['" ++ Script.escape (v.getD "") ++ "'],'"
    | none => ""
  Script.escape text ++ call ++ ">"

/-- What a node begins with in a literal: an element with its start tag. -/
def openingLiteral (o : Options) : Node → String
  | .text s => Script.escape (printText o.family s)
  | .doctype s => Script.escape ("<!DOCTYPE " ++ s ++ ">")
  | .markup s => Script.escape s
  | .element t _ => tagLiteral o t
  -- comments are not written out
  | .document _ | .comment _ => ""

/-- What an element ends with in a literal. -/
def closingLiteral (name : String) : String :=
  if isVoid name then ""
  -- cut in two, since the literal is itself inside a script
  else if name == "script" then "</'+'script>"
  else "</" ++ name ++ ">"

/-- A function definition in the literal of the head that it was added to. -/
def functionLiteral (o : Options) (code : String) : String :=
  let tag : Tag :=
    { name := "script",
      attributes := [("type", some "text/javascript"), ("yst", some "declare")] }
  tagLiteral o tag ++ Script.unmark (openingLiteral o (.text code)) ++ closingLiteral "script"

/-! ## Calls -/

/-- The arguments of the surroundings: those of the page, or, in a function,
the ones it was called with. -/
def surroundings (declare : Bool) : String :=
  if declare then "(contextValues,contextI,params," else "([], 0, \x7b\x7d,"

/-- The auxiliary argument, with the comma behind it. -/
def auxArgument (aux : Option String) : String :=
  match aux with
  | none => "null,"
  | some s => "'" ++ Script.escape s ++ "',"

/-- One branch of a choice: its test, its auxiliary argument and its body. -/
def branchCode (d : Directive) (body : String) : String :=
  ",'" ++ Script.escape d.test ++ "'," ++ auxArgument d.aux ++ "['" ++ body ++ "']"

/-- A call of a library function in one of the two forms. -/
def callCode (nested declare : Bool) (function arguments : String) : String :=
  if nested then function ++ ",[" ++ arguments ++ "]"
  else function ++ surroundings declare ++ arguments ++ ")"

/-- The definition of a function with a given literal. -/
def functionCode (name body : String) : String :=
  "function " ++ name ++ "(contextValues, contextI, params) \x7b\nvar result = '" ++ body
    ++ "';\nreturn result;\n\x7d\n"

/-- Defines the function of an element, if it has an id; `inner` is the
literal of what the element holds. -/
def hoist (d : Directive) (inner : Gen String) : Gen (Option String) :=
  match d.functionName? with
  | none => pure none
  | some name => do
      -- functions of elements further inside are added here, in front of this one
      let body ← inner
      modify (· ++ [functionCode name body])
      return some name

/-- The code of an element with a directive, if it has any: `whole` and
`inner` are the literals of the element and of what it holds in a function,
`branches` the code of the branches joined to it. -/
def directiveCode (o : Options) (nested declare : Bool) (t : Tag) (d : Directive)
    (whole inner branches : Gen String) : Gen (Option String) :=
  let aux := auxArgument d.aux
  let call (function arguments : String) : Option String :=
    some (callCode nested declare function (aux ++ arguments))
  match d.kind with
  | .ignore => pure none
  | .declare => do
      -- a page that is split had its functions extracted before
      unless o.split do
        let _ ← hoist d inner
      return none
  | .compapply => do
      let set := "'" ++ Script.escape d.targetSet ++ "'"
      let front :=
        if nested then "YST.Txt.select, [" ++ set
        else "YST.Txt.select" ++ surroundings declare ++ set
      let body ← whole
      let others ← branches
      return some (front ++ branchCode d body ++ others ++ if nested then "]" else ")")
  | .inclusion =>
      pure (call "YST.Txt.include"
        ("'" ++ Script.escape d.idRef ++ "','" ++ Script.escape d.params ++ "'"))
  | .live => do
      -- what it holds goes by the name of a function, not as a literal
      let name? ← if o.split then pure d.functionName? else hoist d inner
      let reference :=
        match name? with
        | some name => name ++ ",[]"
        | none => "''"
      return call "YST.Txt.value"
        ("['" ++ tagLiteral o t ++ "'," ++ reference ++ ",'</" ++ t.name ++ ">']")
  | .value => return call "YST.Txt.value" ("['" ++ (← whole) ++ "']")
  | .literal => return call "YST.Txt.literal" ("['" ++ (← whole) ++ "']")
  | .conditional =>
      return call "YST.Txt.iff" ("'" ++ Script.escape d.test ++ "',['" ++ (← whole) ++ "']")
  | .apply =>
      return call "YST.Txt.apply"
        ("'" ++ Script.escape d.targetSet ++ "',['" ++ (← whole) ++ "']")

/-- The code of an element that carries a directive. -/
def elementCode (o : Options) (site : Site) (nested declare : Bool) (n : Node)
    (whole inner branches : Gen String) : Gen (Option String) := do
  match n with
  | .element t _ =>
      -- an unknown directive is reported with the functions added below the element so far
      let markup := (site.settle (← get) n).print .utf false
      let d ← (t.directive markup : Except TemplateError Directive)
      directiveCode o nested declare t d whole inner branches
  | _ => return none

/-! ## Literals of trees -/

/-- How the literal of siblings is affected by a head that is made among them:
not at all, or one stands behind the next `n` of them, or one will be made as
soon as a function is added, and `seen` says whether an element stands before
this place. -/
inductive Opening where
  | settled
  | behind (n : Nat)
  | watch (seen : Bool)
deriving Repr, DecidableEq

/-- The literal of a head that was made for the functions added so far. -/
def madeHead (o : Options) : Gen String := do
  let codes ← get
  return tagLiteral o { name := "head" } ++ String.join (codes.map (functionLiteral o))
    ++ closingLiteral "head"

/-- The literal of what a node holds, which `walk` computes from the site and
the effect of a head made there. A head also shows the functions added to it. -/
def insideLiteral (o : Options) (site : Site) (cs : List Node)
    (walk : Site → Opening → Gen String) : Gen String :=
  match site with
  | .head [] => do
      let text ← walk .outside .settled
      return text ++ String.join ((← get).map (functionLiteral o))
  | .html [] => do
      -- with functions there is a head already, made in front of the first element
      if (← get).isEmpty then walk .outside (.watch false)
      else walk .outside (.behind (cs.takeWhile (!·.isElement)).length)
  | s => walk s .settled

/-- What follows once the child `c` of siblings was printed: whether it is met
a second time, because a head was made in front of it, and how the siblings
`cs` behind it are affected. -/
def afterChild (opening : Opening) (added : Bool) (c : Node) (cs : List Node) :
    Bool × Opening :=
  match opening with
  | .settled => (false, .settled)
  | .behind n => (false, .behind (n - 1))
  | .watch seen =>
      let seen := seen || c.isElement
      if !added then (false, .watch seen)
      -- made in front of an element that was printed: the walk, going by position, meets it again
      else if seen then (true, .settled)
      else (false, .behind (cs.takeWhile (!·.isElement)).length)

/-- The text that code takes in a literal: a statement of its own in a
function, and elsewhere further items of the array. -/
def splice (declare : Bool) (code? : Option String) : String :=
  match code? with
  | none => ""
  | some code =>
      if declare then "';\nresult += " ++ code ++ ";\nresult += '" else "'," ++ code ++ ",'"

/-- The text of a child among its siblings: the code of its directive, or else
its literal `plain`. Directly inside a script no directive is looked at, and
the references of markup are undone. -/
def childText (o : Options) (site : Site) (declare inScript : Bool) (c : Node)
    (plain whole inner branches : Gen String) : Gen String := do
  if inScript then return Script.unmark (← plain)
  else if c.name != "script" && c.isDirective then
    return splice declare (← elementCode o site (!declare) declare c whole inner branches)
  else plain

/-- Whether a node is joined to the branch of a choice before it. -/
def isJoined : Node → Bool
  | .element t _ => t.joined
  | _ => false

/-- The code of a branch that is joined to the one before it. -/
def joinedCode (n : Node) (body : String) : String :=
  match n with
  -- its word is `ignore` since it was joined; test and arguments are still there
  | .element t _ => branchCode (t.directiveOf .ignore) body
  | _ => ""

mutual

/-- The literal of a node; `declare` says that it is part of a function. -/
def literal (o : Options) (site : Site) (declare : Bool) : Node → Gen String
  | .element t cs => do
      let text ← insideLiteral o site cs fun site opening =>
        literals o site declare (t.name == "script") opening cs
      return tagLiteral o t ++ text ++ closingLiteral t.name
  | .document cs => literals o site declare false .settled cs
  | .text s => pure (openingLiteral o (.text s))
  | .comment _ => pure ""
  | .doctype s => pure (openingLiteral o (.doctype s))
  | .markup s => pure (openingLiteral o (.markup s))

/-- The literal of what a node holds, as the body of a function. -/
def innerLiteral (o : Options) (site : Site) : Node → Gen String
  | .element t cs =>
      insideLiteral o site cs fun site opening =>
        literals o site true (t.name == "script") opening cs
  | .document cs => literals o site true false .settled cs
  | _ => pure ""

/-- The literal of siblings; `inScript` says that they are directly inside a
script. -/
def literals (o : Options) (site : Site) (declare inScript : Bool) (opening : Opening) :
    List Node → Gen String
  | [] =>
      match opening with
      -- no element stands behind: the head is the last child
      | .behind 0 => madeHead o
      | _ => pure ""
  | c :: cs => do
      let (front, opening) ←
        match opening with
        | .behind 0 => do pure (← madeHead o, Opening.settled)
        | _ => pure ("", opening)
      let child := childText o site.first declare inScript c
        (literal o site.first declare c) (literal o site.first false c)
        (innerLiteral o site.first c) (branches o site.rest cs)
      let before := (← get).isEmpty
      let text ← child
      let added := before && !(← get).isEmpty
      let (again, opening) := afterChild opening added c cs
      -- met again, the child is compiled again, and adds its functions a second time
      let text' ← if again then child else pure ""
      let rest ← literals o site.rest declare inScript opening cs
      return front ++ text ++ text' ++ rest

/-- The code of the branches of a choice behind its first one. -/
def branches (o : Options) (site : Site) : List Node → Gen String
  | [] => pure ""
  | c :: cs => do
      if isJoined c then
        let body ← literal o site.first false c
        let rest ← branches o site.rest cs
        return joinedCode c body ++ rest
      -- the choice goes on behind a gap and ends at anything else
      else if isGap c then branches o site.rest cs
      else return ""

end

/-- The code of the first of some siblings. -/
def firstCode (o : Options) (site : Site) (nested declare : Bool) :
    List Node → Gen (Option String)
  | [] => pure none
  | c :: cs =>
      elementCode o site.first nested declare c (literal o site.first false c)
        (innerLiteral o site.first c) (branches o site.rest cs)

end PageTemplates.Compile
