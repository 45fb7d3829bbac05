import PageTemplates.Serve.Pattern

/-!
# Routes

What a request path asks for: the body script of a split page if the path is of
one pattern, a template otherwise.
-/

namespace PageTemplates.Serve

/-- What a path asks for. -/
inductive Target where
  | body (name : String)
  | template (name : String)
deriving Repr, DecidableEq

/-- The patterns of body scripts and templates, whose names are the parameters
`body_id` and `template_id`. -/
structure Routes where
  body : PathPattern
  template : PathPattern
deriving Repr, DecidableEq

namespace Routes

/-- The routes when body scripts are below `bodyRoot`, which is a pattern
itself. -/
def below (bodyRoot : String) : Except PatternError Routes := do
  return {
    body := ← PathPattern.ofText (bodyRoot ++ "\x7bbody_id:path\x7d")
    template := ← PathPattern.ofText "/\x7btemplate_id:path\x7d" }

/-- What a path asks for. An integer of too many digits in a path, given by
their number, cannot be read. -/
def target? (r : Routes) (path : String) : Except Nat (Option Target) := do
  match ← r.body.value? "body_id" path.toList with
  | some name => return some (.body (String.ofList name))
  | none =>
      let name? ← r.template.value? "template_id" path.toList
      return name?.map fun name => .template (String.ofList name)

end Routes

/-- The path with a slash at its end if it had none, and without any if it
had. -/
def otherSlash (path : String) : String :=
  let cs := path.toList
  if cs.getLast? == some '/' then String.ofList (cs.reverse.dropWhile (· == '/')).reverse
  else path ++ "/"

/-- The name of a template without the slashes around it and without `.html`;
the name of the page at the root is `index`. -/
def templateName (s : String) : String :=
  let isSlash (c : Char) : Bool := c == '/'
  let inner := ((s.toList.dropWhile isSlash).reverse.dropWhile isSlash).reverse
  let name := if inner.isEmpty then "index".toList else inner
  let ending := ".html".toList
  String.ofList (if ending.isSuffixOf name then name.take (name.length - ending.length) else name)

end PageTemplates.Serve
