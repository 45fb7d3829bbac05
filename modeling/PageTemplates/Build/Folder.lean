import PageTemplates.Build.Manifest
import PageTemplates.Compile.Page
import PageTemplates.Digest.Sha256
import PageTemplates.Disk.Host

/-!
# Compiling a folder

Every template of a folder is compiled into an output folder, which is cleared
first, under the same name. A template at fault is reported and left out. A
manifest tells what was produced.
-/

namespace PageTemplates.Build

open Compile

/-- What is wrong with the folders of a build. -/
inductive FoldersError where
  | missing (templates : DiskPath)
  | holdsTemplates (out : DiskPath)
deriving Repr, DecidableEq

/-- The wording for folders at fault. -/
def FoldersError.message : FoldersError → String
  | .missing templates => "Templates folder not found: " ++ templates.text
  | .holdsTemplates out => "Output folder " ++ out.text ++ " would hold the templates"

/-- Why a folder is not compiled. -/
inductive FolderFailure where
  | folders (e : FoldersError)
  | compile (e : Failure)
  | disk (e : DiskError)
deriving Repr, DecidableEq

/-- What a build came to: templates with and without a model section, body
scripts, and the templates at fault. -/
structure Summary where
  templates : Nat := 0
  plain : Nat := 0
  bodies : Nat := 0
  out : DiskPath
  errors : List TemplateError := []
  entries : List ManifestEntry := []

/-- A build under way: the two folders and whether bodies are split off. -/
structure Job where
  templates : DiskPath
  out : DiskPath
  cacheable : Bool

/-- The mode that templates are compiled in. -/
def Job.mode (j : Job) : Mode := if j.cacheable then .cacheSplit else .inline

/-- Whether names lead to a template: it ends in `.html`, and no name on the
way begins with a dot. -/
def isTemplatePath (names : List String) : Bool :=
  ".html".toList.isSuffixOf (names.getLast?.getD "").toList
    && names.all fun n => n.toList.head? != some '.'

/-- The templates of a folder in the order of their names, those in the output
folder left out. -/
def Job.sources (j : Job) (disk : Disk) : List (List String) :=
  ((disk.below j.templates).map (·.1)).filter fun names =>
    isTemplatePath names
      && !({ j.templates with names := j.templates.names ++ names } : DiskPath).isBelow j.out

/-- The templates to compile; without a folder to look into there are none. -/
def Job.listing (j : Job) : Act FolderFailure (List (List String)) := do
  if ← Act.ask .disk (·.isFolder j.templates) then return j.sources (← get).disk else return []

/-- Takes the results of one template in. -/
def Summary.add (s : Summary) (isTemplate : Bool) (e : ManifestEntry) : Summary :=
  { s with
    entries := s.entries ++ [e]
    bodies := s.bodies + (if e.body.isSome then 1 else 0)
    templates := s.templates + (if isTemplate then 1 else 0)
    plain := s.plain + (if isTemplate then 0 else 1) }

/-- Compiles the template that `names` lead to. -/
def Job.compileOne (j : Job) (names : List String) (s : Summary) :
    Act FolderFailure Summary := do
  let relative : DiskPath := { names }
  let templateId := "/" ++ relative.withoutExtension.text
  let data ← Act.read .disk (j.templates.join relative)
  let body :=
    if j.cacheable then some (relative.withName (relative.stem ++ "_b.js")) else none
  let settings : Settings := { mode := j.mode, bodyUrl := (body.map (·.name)).getD "" }
  match ← Act.logged (compile settings none data) with
  -- the build goes on without the template; any other failure ends it
  | .error (.template e) =>
      Act.tell .error ("Error translating " ++ relative.text ++ ": " ++ e.message)
      return { s with errors := s.errors ++ [e.forTemplate templateId] }
  | .error e => throw (.compile e)
  | .ok c =>
      let artifact := j.out.join relative
      Act.onDisk .disk (·.makeFolder artifact.parent)
      Act.onDisk .disk (·.write artifact c.artifact.content)
      if let some b := body then
        Act.onDisk .disk (·.write (j.out.join b) ((c.bodyScript.map (·.2)).getD []))
      return s.add c.artifact.isTemplate
        { templateId, artifact := relative.text, hash := Sha256.hex data, charset := c.charset,
          modelInit := c.artifact.modelInit, modelEnd := c.artifact.modelEnd,
          body := body.map (·.text) }

/-- Compiles templates one after the other. -/
def Job.compileMany (j : Job) : List (List String) → Summary → Act FolderFailure Summary
  | [], s => pure s
  | names :: rest, s => do j.compileMany rest (← j.compileOne names s)

/-- Compiles a folder. The output folder must not hold the templates. -/
def compileFolder (templates out : DiskPath) (cacheable : Bool) :
    Act FolderFailure Summary := do
  let job : Job :=
    { templates := ← Act.ask .disk (·.resolve templates)
      out := ← Act.ask .disk (·.resolve out)
      cacheable }
  -- before anything is deleted
  if job.out == job.templates || job.templates.isBelow job.out then
    throw (.folders (.holdsTemplates job.out))
  Act.onDisk .disk (·.removeFolder job.out)
  Act.onDisk .disk (·.makeFolder job.out)
  let s ← job.compileMany (← job.listing) { out := job.out }
  let manifest : Manifest := ⟨job.mode.word, job.templates.text, s.entries⟩
  Act.onDisk .disk (·.write (job.out.joinText "manifest.json") (Utf8.encode manifest.text.toList))
  return s

/-- The output folder unless one is given. -/
def defaultOut : DiskPath := DiskPath.ofText ".yeast/build"

/-- Compiles a folder that has to be there. -/
def compileProject (templates out : DiskPath) (cacheable : Bool) :
    Act FolderFailure Summary := do
  if ← Act.ask .disk (·.isFolder templates) then compileFolder templates out cacheable
  else throw (.folders (.missing templates))

end PageTemplates.Build
