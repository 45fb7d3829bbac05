import PageTemplates.Text.Find
import PageTemplates.Text.Quoted

/-!
# Text in script string literals

The escapes that make any text fit between the quotes of a script string, with
single or double quotes, and so that no `</` appears in it. `read?` is the
reader of these escapes.
-/

namespace PageTemplates.Script

/-- One character inside a string literal. -/
def escapeChar (c : Char) : List Char :=
  if c == '"' || c == '\'' || c == '\\' || c == '/' then ['\\', c]
  else if c == '\x08' then ['\\', 'b']
  else if c == '\t' then ['\\', 't']
  else if c == '\n' then ['\\', 'n']
  else if c == '\x0c' then ['\\', 'f']
  else if c == '\r' then ['\\', 'r']
  else if c.toNat < 0x20 then '\\' :: 'u' :: Text.hexDigits 4 c.toNat
  else [c]

/-- Text inside a string literal. -/
def escape (s : String) : String := String.ofList (s.toList.flatMap escapeChar)

/-- The value of a hexadecimal digit of an escape. -/
def hexValue? (c : Char) : Option Nat :=
  if '0' ≤ c && c ≤ '9' then some (c.toNat - '0'.toNat)
  else if 'a' ≤ c && c ≤ 'f' then some (c.toNat - 'a'.toNat + 10)
  else if 'A' ≤ c && c ≤ 'F' then some (c.toNat - 'A'.toNat + 10)
  else none

/-- The character of an escape of one letter. -/
def simpleEscape? : Char → Option Char
  | '"' => some '"'
  | '\'' => some '\''
  | '\\' => some '\\'
  | '/' => some '/'
  | 'b' => some '\x08'
  | 't' => some '\t'
  | 'n' => some '\n'
  | 'f' => some '\x0c'
  | 'r' => some '\r'
  | _ => none

/-- Reads the inside of a string literal that is quoted with `q`; refuses an
open escape, an unknown one and the quote itself. -/
def read? (q : Char) : List Char → Option (List Char)
  | [] => some []
  | '\\' :: 'u' :: a :: b :: c :: d :: cs => do
      let n := ((← hexValue? a) * 16 + (← hexValue? b)) * 256
        + ((← hexValue? c) * 16 + (← hexValue? d))
      return Char.ofNat n :: (← read? q cs)
  | '\\' :: c :: cs => do
      let x ← simpleEscape? c
      return x :: (← read? q cs)
  | c :: cs => if c == q || c == '\\' then none else (read? q cs).map (c :: ·)

/-- Undoes, in the literal of text that belongs to an embedded script, the
references that markup printing put there, one after the other; references to
line breaks become escaped line feeds. -/
def unmark (s : String) : String :=
  let s := Text.replace s "&amp;" "&"
  -- what the ampersands uncover is replaced too
  let s := Text.replace s "&lt;" "<"
  let s := Text.replace s "&gt;" ">"
  let s := Text.replace s "&#10;" "\\n"
  Text.replace s "&#13;" "\\n"

end PageTemplates.Script
