import PageTemplates.Text.Find
import PageTemplates.Text.Quoted

/-!
# Names of written files

Where results go unless a name is given, and names that are never given
twice.
-/

namespace PageTemplates.Names

/-- The name of a compiled page: `page.html` becomes `page_t.html`. -/
def output (name : String) : String :=
  match Text.splitLast? '.' name.toList with
  | some (stem, ext) => String.ofList stem ++ "_t." ++ String.ofList ext
  | none => name ++ "_t"

/-- The name of a body script: `page_t.html` becomes `page_t_b.js`. -/
def body (output : String) : String :=
  match Text.splitLast? '.' output.toList with
  | some (stem, _) => String.ofList stem ++ "_b.js"
  | none => output ++ "_b.js"

/-- The name for the snapshots of a template, made unique by a number. -/
def snapshot (templateId : String) (number : Nat) : String :=
  let stem := (templateId.toList.dropWhile (· == '/')).map fun c =>
    if c == '/' || c == '\\' then '_' else c
  String.ofList (stem ++ Text.hexDigits 32 number)

end PageTemplates.Names
