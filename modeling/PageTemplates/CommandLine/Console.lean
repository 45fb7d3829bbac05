import PageTemplates.CommandLine.Emoji
import PageTemplates.CommandLine.Style
import PageTemplates.Text.Find
import PageTemplates.Text.Width

/-!
# Text on the console

Messages carry style tags in square brackets, such as `[bold]` and `[/]`, and
names of pictures between colons. A console without styles shows a message
without its tags. A name that is put into a message is read in the same way, so
brackets and colons in it may count too.
-/

namespace PageTemplates.CommandLine.Console

/-- The characters that a tag begins with. -/
def startsTag (c : Char) : Bool := ('a' ≤ c && c ≤ 'z') || c == '#' || c == '/' || c == '@'

/-- The inside of a tag in front. -/
def tag? : List Char → Option (List Char)
  | '[' :: cs =>
      let inside := cs.takeWhile fun c => c != '[' && c != ']'
      if inside.head?.any startsTag && (cs.drop inside.length).head? == some ']'
      then some inside else none
  | _ => none

/-- A piece of a message: text, or a tag with its position. -/
inductive Piece where
  | text (cs : List Char)
  | tag (position : Nat) (inside : List Char)
deriving Repr, DecidableEq

/-- A tag behind backslashes: every two of them are one, and one more makes the
tag text. -/
def taggedPieces (position slashes : Nat) (inside : List Char) : List Piece :=
  let kept := List.replicate (slashes / 2) '\\'
  (if kept.isEmpty then [] else [.text kept])
    ++ [if slashes % 2 = 1 then .text ('[' :: inside ++ [']']) else .tag (position + slashes) inside]

/-- Cuts a message into pieces; `text` is what was read since the last tag, last
character first, and `skip` characters belong to that tag. -/
def piecesFrom (text : List Char) : Nat → Nat → List Char → List Piece
  | _, _, [] => if text.isEmpty then [] else [.text text.reverse]
  | skip + 1, position, _ :: cs => piecesFrom text skip (position + 1) cs
  | 0, position, c :: cs =>
      let slashes := ((c :: cs).takeWhile (· == '\\')).length
      match tag? ((c :: cs).drop slashes) with
      | some inside =>
          (if text.isEmpty then [] else [.text text.reverse])
            ++ taggedPieces position slashes inside
            ++ piecesFrom [] (slashes + inside.length + 1) (position + 1) cs
      | none => piecesFrom (c :: text) 0 (position + 1) cs

/-- What a tag is compared by: the normal form of its name, which ends at an
equal sign. -/
def tagName (inside : List Char) : Except StyleError String :=
  Style.normalName (String.ofList (inside.takeWhile (· != '=')))

/-- The open tags after one more tag, the innermost first. -/
def applyTag (position : Nat) (inside : List Char) (opened : List String) :
    Except StyleError (List String) :=
  match inside with
  | '/' :: rest =>
      if (rest.takeWhile (· != '=')).all Text.isBlank then
        match opened with
        | [] => .error (.nothingOpen position)
        | _ :: outer => .ok outer
      else do
        let name ← tagName rest
        if opened.contains name then return opened.erase name
        else throw (.unmatched (String.ofList inside) position)
  | _ => do return (← tagName inside) :: opened

/-- The text of pieces without the tags; a backslash before a bracket that
begins no tag is dropped. -/
def plainFrom (opened : List String) : List Piece → Except StyleError (List Char)
  | [] => .ok []
  | .text cs :: ps => do
      let shown := Emoji.replace (Text.replaceAll ['\\', '['] ['['] cs)
      return shown ++ (← plainFrom opened ps)
  | .tag position inside :: ps => do plainFrom (← applyTag position inside opened) ps

/-- A message without its tags and with its pictures. -/
def plain (s : String) : Except StyleError String := do
  return String.ofList (← plainFrom [] (piecesFrom [] 0 0 s.toList))

/-- A text in which nothing is a tag, with its pictures. -/
def untagged (s : String) : String := String.ofList (Emoji.replace s.toList)

/-- The characters that are not shown. -/
def isHidden (c : Char) : Bool :=
  c.toNat == 7 || c.toNat == 8 || (11 ≤ c.toNat && c.toNat ≤ 13)

/-- Fills up to the next multiple of eight columns for each tab; `column` is
where the line stands. -/
def expandTabs (column : Nat) : List Char → List Char
  | [] => []
  | c :: cs =>
      if c == '\t' then
        let width := 8 - column % 8
        List.replicate width ' ' ++ expandTabs (column + width) cs
      else if c == '\n' then c :: expandTabs 0 cs
      else c :: expandTabs (column + Text.charWidth c) cs

/-- The characters that end a line. -/
def isLineEnd (c : Char) : Bool :=
  let n := c.toNat
  (0x0A ≤ n && n ≤ 0x0D) || (0x1C ≤ n && n ≤ 0x1E) || n == 0x85 || n == 0x2028 || n == 0x2029

/-- The lines that a text is shown as. -/
def lines (s : String) : List String :=
  let shown := expandTabs 0 (s.toList.filter fun c => !isHidden c)
  (Text.splitAtEach isLineEnd shown).map fun l => String.ofList (Text.trimEnd l)

end PageTemplates.CommandLine.Console
