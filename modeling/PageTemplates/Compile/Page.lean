import PageTemplates.Charset.Declared
import PageTemplates.Compile.Split
import PageTemplates.Markup.Build
import PageTemplates.Model.Artifact

/-!
# Compiling a template

From the bytes of a template to the bytes of a page. The charset is the one
that is asked for, or else the one that the template declares; the page is
written with the charset that the template was read with.
-/

namespace PageTemplates.Compile

open Markup

/-- Whether a page keeps its body or has it split off. -/
inductive Mode where
  | inline
  | cacheSplit
deriving Repr, DecidableEq

def Mode.word : Mode → String
  | inline => "inline"
  | cacheSplit => "cache-split"

/-- Why a template cannot be compiled. -/
inductive Failure where
  | template (e : TemplateError)
  | markup (e : MarkupError)
  | charset (e : CharsetError)
deriving Repr, DecidableEq

/-- How a template is compiled: the mode, whether the attributes of directives
are left out, where the browser finds the body script, and the charset of
templates that declare none. -/
structure Settings where
  mode : Mode := .inline
  hide : Bool := true
  bodyUrl : String := ""
  defaultCharset : Option String := none
deriving Repr, DecidableEq

/-- A compiled template: the page, its charset, and the body script if the
body was split off, as text and as bytes. -/
structure Compilation where
  artifact : Artifact
  charset : String
  bodyScript : Option (String × Bytes) := none
deriving Repr

/-- Compiles a document for an output family. -/
def compileDocument (s : Settings) (family : Family) (doc : Document) :
    Except TemplateError (Document × Option String) := do
  let o : Options := { family, hide := s.hide }
  match s.mode with
  | .inline =>
      let p ← inline o doc
      return (p.doc, none)
  | .cacheSplit =>
      let p ← split o s.bodyUrl doc
      return (p.page.doc, some p.bodyScript)

/-- Compiles a template of a known charset, with a way to read it. -/
def compileAsWith (reader : Charset.Reader) (s : Settings) (charset : String) (source : Bytes) :
    Except Failure Compilation := do
  let text ← (Charset.decodeWith reader charset source).mapError .charset
  let doc ← (Document.ofText text).mapError .markup
  let output := outputCharset (some charset)
  let family ← (Family.ofName output).mapError .charset
  let (doc, script?) ← (compileDocument s family doc).mapError .template
  let content ← (Document.encode output doc).mapError .charset
  let bodyScript ← script?.mapM fun script => do
    let bytes ← (Charset.encode charset script).mapError Failure.charset
    return (script, bytes)
  return { artifact := Artifact.ofContent content, charset, bodyScript }

/-- Compiles a template that is read by `reader`, with the charset it declares
unless one is asked for. -/
def compileWith (reader : Charset.Reader) (s : Settings) (charset? : Option String)
    (source : Bytes) : Logged (Except Failure Compilation) :=
  match charset? with
  | some charset => pure (compileAsWith reader s charset source)
  | none => do
      match ← Charset.guess source s.defaultCharset with
      | .ok charset => return compileAsWith reader s charset source
      | .error e => return .error (.charset e)

/-- Compiles a template of a known charset. -/
def compileAs (s : Settings) (charset : String) (source : Bytes) : Except Failure Compilation :=
  compileAsWith Codec.read s charset source

/-- Compiles a template. -/
def compile (s : Settings) (charset? : Option String) (source : Bytes) :
    Logged (Except Failure Compilation) :=
  compileWith Codec.read s charset? source

end PageTemplates.Compile
