import PageTemplates.Model.Locate

/-!
# Compiled pages

The bytes of a compiled page with the bounds of its model section: where it
starts and where it ends, or -1 for both in a page without one.
-/

namespace PageTemplates

/-- A compiled page. -/
structure Artifact where
  content : Bytes
  modelInit : Int := -1
  modelEnd : Int := -1
deriving Repr, DecidableEq

namespace Artifact

/-- A page with the bounds of the model section found in it. -/
def ofContent (content : Bytes) : Artifact :=
  match Model.locate? content with
  | some (s, e) => { content, modelInit := s, modelEnd := e }
  | none => { content }

/-- Whether the page has a model section. -/
def isTemplate (a : Artifact) : Bool := 0 ≤ a.modelInit && 0 ≤ a.modelEnd

/-- What stands before the model section; a page without one is all before it. -/
def before (a : Artifact) : Bytes :=
  if a.isTemplate then a.content.take a.modelInit.toNat else a.content

/-- The model section, empty if its end lies before its start. -/
def model (a : Artifact) : Bytes :=
  if a.isTemplate then (a.content.take a.modelEnd.toNat).drop a.modelInit.toNat else []

/-- What stands behind the model section. -/
def after (a : Artifact) : Bytes :=
  if a.isTemplate then a.content.drop a.modelEnd.toNat else []

def describe (a : Artifact) : String :=
  "CompiledArtifact(" ++ toString a.content.length ++ " bytes, model="
    ++ toString a.modelInit ++ "-" ++ toString a.modelEnd ++ ")"

end Artifact

end PageTemplates
