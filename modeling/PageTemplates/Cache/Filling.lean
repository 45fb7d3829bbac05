import PageTemplates.Cache.Context
import PageTemplates.Model.Section

/-!
# Pages with model data

A page is sent with model data in place of its model section, behind a comment
that says what processed it. A page without a model section is sent as it is.
-/

namespace PageTemplates.Cache

/-- Model data: text as it is, or a section that is wrapped in its script
element. -/
inductive Filling where
  | text (s : String)
  | lines (s : Model.Section)
deriving Repr, DecidableEq

/-- What model data puts into the page. -/
def Filling.markup : Filling → String
  | text s => s
  | lines s => s.script

/-- The comment in front of model data. -/
def stamp : String := "<!-- Processed with Yeast v " ++ Release.version ++ " -->\n"

/-- A page of the charset `charset` with `markup` in place of its model
section. -/
def fill (page : Artifact) (charset markup : String) : Except CharsetError Bytes := do
  let mark ← Charset.encode charset stamp
  let modelCharset ← Model.charset (some charset)
  let data ← Charset.encode modelCharset markup
  return page.before ++ mark ++ data ++ page.after

namespace Context

/-- The charset that the page of an entry is sent with. -/
def charsetOf (c : Context) (i : Nat) : String :=
  ((c.entryAt? i).bind (·.charset)).filter (!·.isEmpty) |>.getD Codec.utf8.name

/-- The type that the page of an entry is sent as. -/
def contentType (c : Context) (i : Nat) : String := "text/html; charset=" ++ c.charsetOf i

/-- Lets what depends on a charset fail as an operation. -/
def liftCharset {α : Type} (x : Except CharsetError α) : Operation Failure α :=
  match x with
  | .ok a => return a
  | .error e => throw (.charset e)

/-- The page of an entry with model data. -/
def render (i : Nat) (model? : Option Filling) : Operation Failure Bytes := do
  let p ← page i
  if p.isTemplate then
    liftCharset (fill p ((← get).charsetOf i) ((model?.map (·.markup)).getD ""))
  else
    let id := (((← get).entryAt? i).map (·.templateId)).getD ""
    modify (·.tell .warning (id ++ " has no model section, serving it unchanged"))
    return p.content

/-- The page of an entry with the model data it was designed with. -/
def designed (i : Nat) : Operation Failure Bytes := do
  return (← page i).content

/-- The page of an entry with the model data it was designed with, as text. -/
def designedText (i : Nat) : Operation Failure String := do
  let content ← designed i
  liftCharset (Charset.decode ((← get).charsetOf i) content)

end Context

end PageTemplates.Cache
