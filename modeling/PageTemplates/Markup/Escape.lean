import PageTemplates.Charset.Family
import PageTemplates.Markup.Entity

/-!
# Printing text in markup

Text and attribute values as markup for an output family: the characters that
markup is made of, the no-break space, and what the family cannot hold are
written as references.
-/

namespace PageTemplates.Markup

/-- A reference to a code point, by name where HTML 4 has one. -/
def namedReference (code : Nat) : String :=
  match Entity.name? code with
  | some name => "&" ++ name ++ ";"
  | none => "&#" ++ toString code ++ ";"

/-- One character of text for an output family. -/
def printChar (family : Family) (c : Char) : String :=
  let code := c.toNat
  if c == '<' then "&lt;"
  else if c == '>' then "&gt;"
  else if c == '&' then "&amp;"
  else if code == 0xA0 then "&nbsp;"
  else
    match family with
    | .raw | .utf => String.singleton c
    | .latin1 =>
        if 255 < code then namedReference code
        else if 126 < code && code < 160 then "&#" ++ toString code ++ ";"
        else String.singleton c
    | .ascii =>
        if 126 < code || (code < 32 && c != '\t' && c != '\r' && c != '\n') then
          namedReference code
        else String.singleton c

/-- Text for an output family. -/
def printText (family : Family) (s : String) : String :=
  String.ofList (s.toList.flatMap fun c => (printChar family c).toList)

/-- One character of a value between two marks `delim`; a mark of one character
does not stand inside. -/
def printValueChar (family : Family) (delim : String) (c : Char) : String :=
  -- the mark would end the value
  if delim == String.singleton c then (if c == '"' then "&quot;" else "&#39;")
  else if c == '\n' then " "
  else printChar family c

/-- `="value"`, with line feeds as spaces and marks `delim` for the quotes; no
value is printed as an empty one. -/
def printValue (family : Family) (value? : Option String) (delim : String) : String :=
  let body := (value?.getD "").toList.flatMap fun c => (printValueChar family delim c).toList
  "=" ++ delim ++ String.ofList body ++ delim

end PageTemplates.Markup
