import PageTemplates.Charset.Named

/-!
# Model data

The text that takes the place of the model section of a page, gathered piece
by piece. Sections go by name, since a section may be merged into another one
or into itself.

Model data is written with the charset that a browser reads the page with. Of
two ISO charsets that is the Windows charset which extends them.
-/

namespace PageTemplates.Model

/-- Model data, in the pieces that were added. -/
structure Section where
  parts : List String := []
deriving Repr, DecidableEq

namespace Section

/-- The data: all pieces, one behind the other. -/
def data (s : Section) : String := String.join s.parts

/-- Whether no piece holds anything. -/
def isEmpty (s : Section) : Bool := s.parts.all (·.isEmpty)

/-- Adds a piece; nothing is added for no text. -/
def append (s : Section) (text? : Option String) : Section := ⟨s.parts ++ text?.toList⟩

/-- Adds a line; nothing is added for no text. -/
def appendLine (s : Section) (text? : Option String) : Section :=
  s.append (text?.map (· ++ "\n"))

/-- The script element that takes the place of the model section. -/
def script (s : Section) : String :=
  "<script type=\"text/javascript\">\n//<![CDATA[\n" ++ s.data ++ "//]]>\n</script>"

def ofLines (lines : List (Option String)) : Section := lines.foldl appendLine {}

end Section

/-- Named sections; one that was never touched is empty. -/
structure Sections where
  named : List (String × Section) := []
deriving Repr

namespace Sections

def get (s : Sections) (name : String) : Section := (s.named.lookup name).getD {}

/-- Changes the section of a name. -/
def update (s : Sections) (name : String) (f : Section → Section) : Sections :=
  ⟨(name, f (s.get name)) :: s.named.filter (·.1 != name)⟩

/-- Adds the section `other` to the section `name`, behind a line feed if both
hold data. -/
def merge (s : Sections) (name other : String) : Sections :=
  let s :=
    if (s.get name).isEmpty || (s.get other).isEmpty then s
    else s.update name (·.append (some "\n"))
  -- `other` as it stands now: merged into itself, a section is seen with the line feed
  s.update name (·.append (some (s.get other).data))

end Sections

/-- What a browser reads a charset as. -/
def asRead : Codec → Codec
  | .latin1 => .windows1252
  | .latin5 => .windows1254
  | c => c

/-- The charset of the model data in a page of the charset `page`, UTF-8 if the
page names none. -/
def charset (page : Option String) : Except CharsetError String := do
  let c ← Codec.named ((page.filter (!·.isEmpty)).getD Codec.utf8.name)
  return (asRead c).name

end PageTemplates.Model
