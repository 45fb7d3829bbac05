import PageTemplates.Text.Quoted

/-!
# The manifest of a build

What a build produced, written as JSON: two spaces for each level, and
everything but printable ASCII as escapes of UTF-16 units.
-/

namespace PageTemplates.Build

/-- One compiled template. -/
structure ManifestEntry where
  templateId : String
  artifact : String
  hash : String
  charset : String
  modelInit : Int
  modelEnd : Int
  body : Option String
deriving Repr, DecidableEq

/-- A build: its mode, the folder of the templates, and the templates. -/
structure Manifest where
  mode : String
  templates : String
  entries : List ManifestEntry
deriving Repr

namespace Manifest

/-- The escape of one UTF-16 unit. -/
def unit (n : Nat) : List Char := '\\' :: 'u' :: Text.hexDigits 4 n

/-- One character of a string. -/
def stringChar (c : Char) : List Char :=
  let n := c.toNat
  if c == '"' || c == '\\' then ['\\', c]
  else if c == '\n' then ['\\', 'n']
  else if c == '\r' then ['\\', 'r']
  else if c == '\t' then ['\\', 't']
  else if n == 8 then ['\\', 'b']
  else if n == 12 then ['\\', 'f']
  else if 0x20 ≤ n && n < 0x7F then [c]
  else if n < 0x10000 then unit n
  else
    unit (0xD800 + (n - 0x10000) / 0x400) ++ unit (0xDC00 + (n - 0x10000) % 0x400)

def string (s : String) : String :=
  String.ofList ('"' :: s.toList.flatMap stringChar ++ ['"'])

/-- An object with fields that are written already, at some depth. -/
def object (depth : Nat) (fields : List (String × String)) : String :=
  let indent (n : Nat) := String.ofList (List.replicate (2 * n) ' ')
  if fields.isEmpty then "\x7b\x7d"
  else
    let lines := fields.map fun (key, value) =>
      indent (depth + 1) ++ string key ++ ": " ++ value
    "\x7b\n" ++ ",\n".intercalate lines ++ "\n" ++ indent depth ++ "\x7d"

def entry (e : ManifestEntry) : String :=
  object 2
    ([("artifact", string e.artifact), ("hash", string e.hash), ("encoding", string e.charset),
      ("model_init", toString e.modelInit), ("model_end", toString e.modelEnd)]
      ++ (e.body.map fun b => ("body", string b)).toList)

def text (m : Manifest) : String :=
  object 0
    [("version", "1"), ("mode", string m.mode), ("templates_dir", string m.templates),
     ("entries", object 1 (m.entries.map fun e => (e.templateId, entry e)))]

end Manifest

end PageTemplates.Build
