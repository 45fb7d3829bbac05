import PageTemplates.Compile.Page
import PageTemplates.Disk.Host
import PageTemplates.Disk.Names

/-!
# Compiling one file

A template file is compiled into a page next to it, or to where the result is
asked for. A body that is split off goes to a script named after the page.
-/

namespace PageTemplates.Build

open Compile

/-- Why a file is not compiled. -/
inductive FileFailure where
  | compile (e : Failure)
  | disk (e : DiskError)
deriving Repr, DecidableEq

/-- A compiled file: what was read, what was written, and the charset. -/
structure CompiledFile where
  source : DiskPath
  output : DiskPath
  body : Option DiskPath
  charset : String
deriving Repr

/-- Writes a result and says so. -/
def writeResult (p : DiskPath) (content : Bytes) : Act FileFailure Unit := do
  Act.onDisk .disk (·.write p content)
  Act.tell .info ("Generated output " ++ p.text)

/-- Compiles the template `file` of a folder. The result goes to `dest?`, seen
from the folder, and the page finds its body script by the same name. -/
def compileFile (file : String) (folder : DiskPath) (dest? : Option String)
    (cacheable hide : Bool) : Act FileFailure CompiledFile := do
  let source := folder.joinText file
  Act.tell .info ("Reading input file " ++ source.text)
  let data ← Act.read .disk source
  let dest := (dest?.filter (!·.isEmpty)).getD (Names.output file)
  let output := folder.joinText dest
  -- written and linked by the same text, folders in it included
  let bodyName := Names.body dest
  let settings : Settings :=
    if cacheable then { mode := .cacheSplit, hide, bodyUrl := bodyName } else { hide }
  match ← Act.logged (compile settings none data) with
  | .error e => throw (.compile e)
  | .ok c =>
      Act.onDisk .disk (·.makeFolder output.parent)
      writeResult output c.artifact.content
      let body := if cacheable then some (folder.joinText bodyName) else none
      if let some p := body then
        writeResult p ((c.bodyScript.map (·.2)).getD [])
      return { source, output, body, charset := c.charset }

end PageTemplates.Build
